import TaggedConfig.Schema.Check

/-! The schemas that schemas have to obey, one for each vocabulary.
They take the schema that has to stand wherever a schema does.
-/

namespace TaggedConfig.Schema.Meta

/-- Any value of a type. -/
def ofType (type : String) : Schema := .keywords [.types [type]]

/-- An integer that is not negative. -/
def nonNegative : Schema := .keywords [.bound .minimum (.integer 0), .types ["integer"]]

def schemaList (self : Schema) : Schema :=
  .keywords [.items 0 self, .atLeast .items 1, .types ["array"]]

/-- An object whose members all obey a schema. -/
def mapOf (schema : Schema) : Schema :=
  .keywords [.members none none schema, .types ["object"]]

def schemaMap (self : Schema) : Schema := mapOf self

/-- An object of schemas whose names are patterns. -/
def patternMap (self : Schema) : Schema :=
  .keywords [.members none none self, .propertyNames (.keywords [.format "regex"]),
    .types ["object"]]

def stringList : Schema :=
  .keywords [.items 0 (ofType "string"), .types ["array"], .uniqueItems]

def typeName : Schema := .keywords [.enumeration (typeNames.map Json.string)]

/-- The name of a type or a list of such names. -/
def typeNameOrList : Schema :=
  .keywords [.anyOf [typeName,
    .keywords [.items 0 typeName, .atLeast .items 1, .types ["array"], .uniqueItems]]]

def anyList : Schema := ofType "array"

/-- A schema, or a list of names. -/
def dependency (self : Schema) : Schema := .keywords [.anyOf [self, stringList]]

def textOf (format : String) : Schema := .keywords [.format format, .types ["string"]]

/-- A text in which a pattern occurs. -/
def textLike (source : String) : Schema :=
  .keywords
    (((Pattern.ofString? source).map (Keyword.pattern source)).toList ++ [.types ["string"]])

def positive : Schema :=
  .keywords [.bound .exclusiveMinimum (.integer 0), .types ["number"]]

/-- An object or a Boolean, with schemas for members. -/
def withProperties (properties : List (String × Schema)) : Schema :=
  .keywords [.properties properties, .types ["object", "boolean"]]

def anchorName : Schema := textLike "^[A-Za-z_][-A-Za-z0-9._]*$"

/-- Keywords about identity. -/
def core (self : Schema) : Schema :=
  withProperties [
    ("$anchor", anchorName),
    ("$comment", ofType "string"),
    ("$defs", schemaMap self),
    ("$dynamicAnchor", anchorName),
    ("$dynamicRef", ofType "string"),
    ("$id", textLike "^[^#]*#?$"),
    ("$ref", ofType "string"),
    ("$schema", ofType "string"),
    ("$vocabulary", .keywords [.members none none (ofType "boolean"),
      .propertyNames (ofType "string"), .types ["object"]])]

/-- Keywords that apply schemas. -/
def applicator (self : Schema) : Schema :=
  withProperties [
    ("additionalProperties", self),
    ("allOf", schemaList self),
    ("anyOf", schemaList self),
    ("contains", self),
    ("dependentSchemas", schemaMap self),
    ("else", self),
    ("if", self),
    ("items", self),
    ("not", self),
    ("oneOf", schemaList self),
    ("patternProperties", schemaMap self),
    ("prefixItems", schemaList self),
    ("properties", schemaMap self),
    ("propertyNames", self),
    ("then", self)]

/-- Keywords about what other keywords leave out. -/
def unevaluated (self : Schema) : Schema :=
  withProperties [("unevaluatedItems", self), ("unevaluatedProperties", self)]

/-- Keywords that constrain values. -/
def validation : Schema :=
  withProperties [
    ("dependentRequired", mapOf stringList),
    ("enum", anyList),
    ("exclusiveMaximum", ofType "number"),
    ("exclusiveMinimum", ofType "number"),
    ("maxContains", nonNegative),
    ("maxItems", nonNegative),
    ("maxLength", nonNegative),
    ("maxProperties", nonNegative),
    ("maximum", ofType "number"),
    ("minContains", nonNegative),
    ("minItems", nonNegative),
    ("minLength", nonNegative),
    ("minProperties", nonNegative),
    ("minimum", ofType "number"),
    ("multipleOf", positive),
    ("pattern", ofType "string"),
    ("required", stringList),
    ("type", typeNameOrList),
    ("uniqueItems", ofType "boolean")]

def description : Schema :=
  withProperties [
    ("deprecated", ofType "boolean"),
    ("description", ofType "string"),
    ("examples", anyList),
    ("readOnly", ofType "boolean"),
    ("title", ofType "string"),
    ("writeOnly", ofType "boolean")]

def formatName : Schema := withProperties [("format", ofType "string")]

/-- Keywords about encoded content. -/
def content (self : Schema) : Schema :=
  withProperties [
    ("contentEncoding", ofType "string"),
    ("contentMediaType", ofType "string"),
    ("contentSchema", self)]

/-- The schema of schemas of the newer vocabulary. -/
def draft2020 (self : Schema) : Schema :=
  .keywords [
    .allOf [core self, applicator self, unevaluated self, validation, description, formatName,
      content self],
    .properties [
      ("$recursiveAnchor", anchorName),
      ("$recursiveRef", ofType "string"),
      ("definitions", schemaMap self),
      ("dependencies", mapOf (dependency self))],
    .types ["object", "boolean"]]

/-- The schema of schemas of the older vocabulary. -/
def draft7 (self : Schema) : Schema :=
  withProperties [
    ("$comment", ofType "string"),
    ("$id", textOf "uri-reference"),
    ("$ref", textOf "uri-reference"),
    ("$schema", textOf "uri"),
    ("additionalItems", self),
    ("additionalProperties", self),
    ("allOf", schemaList self),
    ("anyOf", schemaList self),
    ("contains", self),
    ("contentEncoding", ofType "string"),
    ("contentMediaType", ofType "string"),
    ("definitions", schemaMap self),
    ("dependencies", mapOf (dependency self)),
    ("description", ofType "string"),
    ("else", self),
    ("enum", anyList),
    ("examples", anyList),
    ("exclusiveMaximum", ofType "number"),
    ("exclusiveMinimum", ofType "number"),
    ("format", ofType "string"),
    ("if", self),
    ("items", .keywords [.anyOf [self, schemaList self]]),
    ("maxItems", nonNegative),
    ("maxLength", nonNegative),
    ("maxProperties", nonNegative),
    ("maximum", ofType "number"),
    ("minItems", nonNegative),
    ("minLength", nonNegative),
    ("minProperties", nonNegative),
    ("minimum", ofType "number"),
    ("multipleOf", positive),
    ("not", self),
    ("oneOf", schemaList self),
    ("pattern", textOf "regex"),
    ("patternProperties", patternMap self),
    ("properties", schemaMap self),
    ("propertyNames", self),
    ("readOnly", ofType "boolean"),
    ("required", stringList),
    ("then", self),
    ("title", ofType "string"),
    ("type", typeNameOrList),
    ("uniqueItems", ofType "boolean")]

/-- The address of the schema of schemas of a vocabulary. -/
def address : Vocabulary → String
  | .draft7 => "http://json-schema.org/draft-07/schema"
  | .draft2020 => "https://json-schema.org/draft/2020-12/schema"

/-- The schema that the schemas of a vocabulary have to obey. It stands wherever it says that a
schema has to stand.
-/
def ofVocabulary (vocabulary : Vocabulary) : Schema :=
  let self : Schema := .keywords [.recursion (address vocabulary)]
  match vocabulary with
  | .draft7 => draft7 self
  | .draft2020 => draft2020 self

/-- How many schemas deep these schemas look for each level of a value. -/
def stepsPerLevel : Nat := 12

/-- What the schema of schemas does not allow in a value. -/
def findings (vocabulary : Vocabulary) (value : Json) : List Finding :=
  let rules := ofVocabulary vocabulary
  Schema.findings (fun _ => some rules) (stepsPerLevel * (value.depth + 1)) rules "" value

end TaggedConfig.Schema.Meta
