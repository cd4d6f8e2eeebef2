import TaggedConfig.Json.Value
import TaggedConfig.Pattern.Basic

/-! Schemas of JSON documents as keywords.
A keyword holds all that it needs to judge a value, so that no other keyword is asked.
-/

namespace TaggedConfig

/-- The vocabularies of schemas. -/
inductive Schema.Vocabulary where
  /-- A reference stands alone, and `items` may list schemas. -/
  | draft7
  | draft2020
  deriving DecidableEq, Repr

/-- Bounds of numbers. -/
inductive Schema.Bound where
  | maximum
  | minimum
  | exclusiveMaximum
  | exclusiveMinimum
  deriving DecidableEq, Repr

/-- What is counted by a bound of sizes. -/
inductive Schema.Measure where
  | items
  | characters
  | properties
  deriving DecidableEq, Repr

mutual

/-- A schema: all or nothing, or keywords in the order in which they are checked. -/
inductive Schema where
  | always (allowed : Bool)
  | keywords (list : List Keyword)

/-- A keyword with what it states. -/
inductive Keyword where
  /-- The schema that a reference points to. -/
  | reference (schema : Schema)
  /-- A reference to a schema that it is itself a part of. -/
  | recursion (target : String)
  /-- The schemas of members by their names and by patterns of names, and of all others. -/
  | members (named : Option (List (String × Schema)))
      (patterns : Option (List (Pattern × Schema))) (further : Schema)
  | allOf (schemas : List Schema)
  | anyOf (schemas : List Schema)
  | const (value : Json)
  | contains (schema : Schema)
  /-- What holds of an object that has a member of the name. -/
  | dependent (schemas : List (String × Schema))
  | enumeration (values : List Json)
  | bound (kind : Schema.Bound) (limit : Json.Number)
  | format (name : String)
  /-- What else holds of a value that obeys a schema, and of one that does not. -/
  | condition (schema : Schema) (consequence alternative : Option Schema)
  /-- What holds of all items but so many at the start. -/
  | items (skipped : Nat) (schema : Schema)
  | positions (schemas : List Schema)
  | atMost (measure : Schema.Measure) (limit : Nat)
  | atLeast (measure : Schema.Measure) (limit : Nat)
  | multipleOf (divisor : Json.Number)
  | negation (source : Json) (schema : Schema)
  | oneOf (schemas : List Schema)
  | pattern (source : String) (pattern : Pattern)
  | patternProperties (schemas : List (Pattern × Schema))
  | properties (schemas : List (String × Schema))
  | propertyNames (schema : Schema)
  | required (names : List String)
  | types (names : List String)
  | uniqueItems

end

end TaggedConfig
