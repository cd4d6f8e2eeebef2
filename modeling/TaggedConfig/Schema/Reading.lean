import TaggedConfig.Json.Compare
import TaggedConfig.Pattern.Reading
import TaggedConfig.Schema.Resource

/-! Schemas as they are read from values, keyword by keyword in the order of their names.
A reference is followed the first time it is met; met again, it stands for a recursion.
-/

namespace TaggedConfig.Schema

/-- The document that schemas are read from. -/
structure Origin where
  root : Json
  resources : List Resource

/-- Reading with the addresses of the references that have been followed. -/
abbrev Compilation := StateT (List String) (Except Refusal)

/-- How a schema is read from a value. -/
abbrev Reader := Json → Compilation Schema

abbrev Members := List (String × Json)

/-- The text of a value that has to be a string. -/
def stringOf : Json → Except Refusal String
  | .string text => pure text
  | value => throw (.wrongType value ["string"])

/-- The items of a value that has to be an array. -/
def itemsOf : Json → Except Refusal (List Json)
  | .array items => pure items
  | value => throw (.wrongType value ["array"])

/-- The members of a value that has to be an object. -/
def membersOf : Json → Except Refusal Members
  | .object members => pure members
  | value => throw (.wrongType value ["object"])

/-- The number of a value that has to be one. -/
def numberOf : Json → Except Refusal Json.Number
  | .number number => pure number
  | value => throw (.wrongType value ["number"])

/-- The greatest size that is compared with; a greater limit counts as this one. -/
def sizeLimit : Nat := UInt64.size - 1

/-- The size of a value that has to be a whole number. What is less than zero counts as zero. -/
def sizeOf : Json → Except Refusal Nat
  | .number (.integer n) => pure (min n.toNat sizeLimit)
  | .number (.double x) =>
      if !x.isFinite || !x.isWhole then throw (.wrongType (.number (.double x)) ["integer"])
      else if x.isNegative then pure 0
      else pure (min (x.ratio.1 / x.ratio.2) sizeLimit)
  | value => throw (.wrongType value ["integer"])

def schemasOf (read : Reader) (value : Json) : Compilation (List Schema) := do
  (← itemsOf value).mapM read

def namedSchemas (read : Reader) (value : Json) : Compilation (List (String × Schema)) := do
  (← membersOf value).mapM fun (name, value) => do pure (name, ← read value)

/-- The schemas of members by patterns of names. -/
def patternSchemas (read : Reader) (value : Json) : Compilation (List (Pattern × Schema)) := do
  (← membersOf value).mapM fun (source, value) => do
    match Pattern.ofString? source with
    | some pattern => do pure (pattern, ← read value)
    | none => throw (.notFormat value "regex")

/-- The names in a list of strings. -/
def namesOf (value : Json) : Except Refusal (List String) := do (← itemsOf value).mapM stringOf

/-- The schema that names of members are required. -/
def requiring (value : Json) : Except Refusal Schema := do
  pure (.keywords [.required (← namesOf value)])

/-- The schemas that other members depend on, each given by a schema or by required names. -/
def dependencies (read : Reader) (value : Json) : Compilation (List (String × Schema)) := do
  (← membersOf value).mapM fun (name, value) => do
    match value with
    | .array _ => do pure (name, ← requiring value)
    | value => do pure (name, ← read value)

/-- The required names that other members depend on, each given once. -/
def requiredNames (value : Json) : Except Refusal (List (String × Schema)) := do
  (← membersOf value).mapM fun (name, value) => do
    if Json.hasRepetition (← itemsOf value) then throw (.repeatedNames value)
    pure (name, ← requiring value)

/-- The type of a name that stands for itself. -/
def typeOf (value : Json) : Except Refusal String := do
  let name ← stringOf value
  if typeNames.contains name then pure name else throw .unknownType

/-- The types of a value: a name or a list of names. -/
def typesOf : Json → Except Refusal (List String)
  | .string name => do pure [← typeOf (.string name)]
  | .array [value] => do pure [← typeOf value]
  | .array values => do
      let names ← values.mapM fun value => do
        let name ← stringOf value
        if typeNames.contains name then pure name else throw (.notTypeName value)
      pure names.eraseDups
  | value => throw (.wrongType value ["array", "string"])

/-- Whether `additionalProperties` takes over the check of all members. -/
def takesOverMembers (siblings : Members) : Bool :=
  match siblings.lookup "additionalProperties" with
  | some (.bool false) | some (.object _) => true
  | _ => false

/-- The keyword that judges all members, unless all that have no schema are allowed. -/
def membersKeyword (read : Reader) (siblings : Members) (value : Json)
    : Compilation (Option Keyword) := do
  let patterns ← (siblings.lookup "patternProperties").mapM (patternSchemas read)
  match value with
  | .bool true => pure none
  | value => do
      let named ← (siblings.lookup "properties").mapM (namedSchemas read)
      let further ← read value
      pure (some (.members named patterns further))

/-- The keyword of a condition that has a consequence or an alternative. -/
def conditionKeyword (read : Reader) (siblings : Members) (value : Json)
    : Compilation (Option Keyword) := do
  match siblings.lookup "then", siblings.lookup "else" with
  | none, none => pure none
  | consequence, alternative => do
      let schema ← read value
      let consequence ← consequence.mapM read
      let alternative ← alternative.mapM read
      pure (some (.condition schema consequence alternative))

/-- The keyword of items: a list has a schema for each position, and one schema is for all
items that no other keyword has one for.
-/
def itemsKeyword (read : Reader) (siblings : Members) (value : Json)
    : Compilation (Option Keyword) := do
  let skipped :=
    match siblings.lookup "prefixItems" with
    | some (.array values) => values.length
    | _ => 0
  match value with
  | .array values => do pure (some (.positions (← values.mapM read)))
  | .object _ | .bool false => do pure (some (.items skipped (← read value)))
  | _ => pure none

def patternKeyword (value : Json) : Except Refusal Keyword := do
  let source ← stringOf value
  match Pattern.ofString? source with
  | some pattern => pure (.pattern source pattern)
  | none => throw (.notFormat value "regex")

/-- Keywords that only the newer vocabulary knows. -/
def newerKeywords : List String := ["dependentRequired", "dependentSchemas", "prefixItems"]

/-- The keyword of a name and a value among its siblings, if it states anything. The keywords about
what other keywords leave over (`unevaluatedItems`, `unevaluatedProperties`, `additionalItems`),
about how many items are contained (`minContains`, `maxContains`), about encoded content and about
dynamic references are passed over.
-/
def keywordOf (read : Reader) (siblings : Members) (name : String) (value : Json)
    : Compilation (Option Keyword) := do
  let bound (kind : Bound) : Compilation (Option Keyword) := do
    pure (some (.bound kind (← numberOf value)))
  let atMost (measure : Measure) : Compilation (Option Keyword) := do
    pure (some (.atMost measure (← sizeOf value)))
  let atLeast (measure : Measure) : Compilation (Option Keyword) := do
    pure (some (.atLeast measure (← sizeOf value)))
  match name with
  | "additionalProperties" => membersKeyword read siblings value
  | "allOf" => do pure (some (.allOf (← schemasOf read value)))
  | "anyOf" => do pure (some (.anyOf (← schemasOf read value)))
  | "const" => pure (some (.const value))
  | "contains" => do pure (some (.contains (← read value)))
  | "dependencies" => do pure (some (.dependent (← dependencies read value)))
  | "dependentRequired" => do pure (some (.dependent (← requiredNames value)))
  | "dependentSchemas" => do pure (some (.dependent (← namedSchemas read value)))
  | "enum" => do pure (some (.enumeration (← itemsOf value)))
  | "exclusiveMaximum" => bound .exclusiveMaximum
  | "exclusiveMinimum" => bound .exclusiveMinimum
  | "format" => do pure (some (.format (← stringOf value)))
  | "if" => conditionKeyword read siblings value
  | "items" => itemsKeyword read siblings value
  | "maxItems" => atMost .items
  | "maxLength" => atMost .characters
  | "maxProperties" => atMost .properties
  | "maximum" => bound .maximum
  | "minItems" => atLeast .items
  | "minLength" => atLeast .characters
  | "minProperties" => atLeast .properties
  | "minimum" => bound .minimum
  | "multipleOf" => do pure (some (.multipleOf (← numberOf value)))
  | "not" => do pure (some (.negation value (← read value)))
  | "oneOf" => do pure (some (.oneOf (← schemasOf read value)))
  | "pattern" => do pure (some (← patternKeyword value))
  | "patternProperties" =>
      if takesOverMembers siblings then pure none
      else do pure (some (.patternProperties (← patternSchemas read value)))
  | "prefixItems" => do pure (some (.positions (← schemasOf read value)))
  | "properties" =>
      if takesOverMembers siblings then pure none
      else do pure (some (.properties (← namedSchemas read value)))
  | "propertyNames" =>
      match value with
      | .object _ | .bool false => do pure (some (.propertyNames (← read value)))
      | _ => pure none
  | "required" => do pure (some (.required (← namesOf value)))
  | "type" => do pure (some (.types (← typesOf value)))
  | "uniqueItems" =>
      match value with
      | .bool true => pure (some .uniqueItems)
      | .bool false => pure none
      | value => throw (.wrongType value ["boolean"])
  | _ => pure none

/-- The value that a reference within a document points to. -/
def target (origin : Origin) (reference : String) : Except Refusal Json := do
  let address ← addressOf reference
  if address.withoutFragment = documentAddress then
    let fragment := (Text.splitFirst? '#' reference.toList).map (·.2)
    atFragment origin.root origin.resources (fragment.getD [])
  else throw (.missingResource address.withoutFragment.text .tooLate)

/-- The keyword of a reference. One that was followed before is left out if it only leads to
itself.
-/
def referenceKeyword (origin : Origin) (read : Reader) (value : Json)
    : Compilation (Option Keyword) := do
  let reference ← stringOf value
  let address := (← addressOf reference).text
  if knownAddresses.any (reference.startsWith ·) then
    return some (.recursion reference)
  let pointed ← target origin reference
  if (← get).contains address then
    match pointed.member? "$ref" with
    | some (.string own) =>
        pure (if own = reference then none else some (.recursion reference))
    | _ => pure (some (.recursion reference))
  else do
    modify (address :: ·)
    pure (some (.reference (← read pointed)))

/-- Reads a schema from a value, given a bound on the nesting of schemas. In the older
vocabulary a reference stands alone.
-/
def read (origin : Origin) : Nat → Vocabulary → Reader
  | 0, _, _ => pure (.always true)
  | fuel + 1, outer, value =>
      match value with
      | .bool allowed => pure (.always allowed)
      | .object members => do
          let vocabulary := (declaredVocabulary outer value).toOption.getD outer
          let inner := read origin fuel vocabulary
          let keyword (name : String) (value : Json) : Compilation (Option Keyword) :=
            if name = "$ref" then referenceKeyword origin inner value
            else if vocabulary = .draft7 && newerKeywords.contains name then pure none
            else keywordOf inner members name value
          let alone := vocabulary = .draft7 && (members.lookup "$ref").isSome
          let counted := if alone then members.filter (·.1 = "$ref") else members
          let keywords ← counted.mapM fun (name, value) => keyword name value
          pure (.keywords (keywords.filterMap id))
      | value => throw (.wrongType value ["boolean", "object"])

end TaggedConfig.Schema
