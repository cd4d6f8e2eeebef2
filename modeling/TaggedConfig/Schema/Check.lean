import TaggedConfig.Error
import TaggedConfig.Json.Compare
import TaggedConfig.Pattern.Reading
import TaggedConfig.Schema.Basic
import TaggedConfig.Schema.Refusal

/-! What a schema does not allow in a value.
Keywords are checked in the order of their names and the parts of a value in its order; a
finding says where and what.
-/

namespace TaggedConfig.Schema

/-- A finding at a location. -/
abbrev found (location message : String) : List Finding := [⟨location, message⟩]

/-- The location of a part. Slashes and tildes in its name are escaped. -/
def within (location name : String) : String :=
  let escaped := name.toList.flatMap fun c =>
    if c = '~' then ['~', '0'] else if c = '/' then ['~', '1'] else [c]
  location ++ "/" ++ String.ofList escaped

def item (location : String) (index : Nat) : String := within location (toString index)

/-- Whether a value is of a type. A whole floating-point number is an integer too. -/
def isOfType (value : Json) (type : String) : Bool :=
  match value with
  | .null => type = "null"
  | .bool _ => type = "boolean"
  | .number (.integer _) => type = "integer" || type = "number"
  | .number (.double x) => type = "number" || (type = "integer" && x.isWhole)
  | .string _ => type = "string"
  | .array _ => type = "array"
  | .object _ => type = "object"

/-- Inserts a text into a sorted list. -/
def insertSorted (text : String) : List String → List String
  | [] => [text]
  | other :: others =>
      if text < other then text :: other :: others else other :: insertSorted text others

/-- The finding that a value is of none of the types. -/
def wrongType (types : List String) (location : String) (value : Json) : List Finding :=
  found location (wrongTypeText value (types.foldr insertSorted []))

/-- A number and a noun in the number that goes with it. -/
def counted (n : Nat) (one many : String) : String :=
  s!"{n} " ++ if n = 1 then one else many

/-- The size of a value by a measure that applies to it. -/
def sizeOf? (measure : Measure) (value : Json) : Option Nat :=
  match measure, value with
  | .items, .array items => some items.length
  | .characters, .string text => some text.length
  | .properties, .object members => some members.length
  | _, _ => none

/-- The finding that a size is above a limit. -/
def tooLarge (measure : Measure) (limit : Nat) (value : Json) : String :=
  match measure with
  | .items => value.text ++ " has more than " ++ counted limit "item" "items"
  | .characters => value.text ++ " is longer than " ++ counted limit "character" "characters"
  | .properties => value.text ++ " has more than " ++ counted limit "property" "properties"

/-- The finding that a size is below a limit. -/
def tooSmall (measure : Measure) (limit : Nat) (value : Json) : String :=
  match measure with
  | .items => value.text ++ " has less than " ++ counted limit "item" "items"
  | .characters => value.text ++ " is shorter than " ++ counted limit "character" "characters"
  | .properties => value.text ++ " has less than " ++ counted limit "property" "properties"

/-- The finding that a number is out of a bound. -/
def outOfBound? (bound : Bound) (limit value : Json.Number) : Option String :=
  match bound with
  | .maximum =>
      if limit.less value then some s!"is greater than the maximum of {limit.text}" else none
  | .minimum =>
      if value.less limit then some s!"is less than the minimum of {limit.text}" else none
  | .exclusiveMaximum =>
      if value.less limit then none
      else some s!"is greater than or equal to the maximum of {limit.text}"
  | .exclusiveMinimum =>
      if limit.less value then none
      else some s!"is less than or equal to the minimum of {limit.text}"

/-- The value of a finite number as its shortest decimal states it. -/
def decimalRatio (x : Double) : Nat × Nat :=
  if x.isZero then (0, 1)
  else
    let shown := Decimal.shortest x
    let digits := shown.digits.foldl (fun n d => n * 10 + d) 0
    let scale := shown.point - (shown.digits.length : Int)
    (digits * Nat.pow 10 scale.toNat, Nat.pow 10 (-scale).toNat)

/-- How far a quotient may be above a whole number: the distance of one from its successor. -/
def quotientSlack : Nat × Nat := (1, Nat.pow 2 52)

/-- Whether a number is a multiple. By a whole divisor the remainder is exact; by another the
rounded quotient decides, or the decimals where that is too large. A negative quotient always
passes for one.
-/
def isMultiple (divisor value : Json.Number) : Bool :=
  let d := divisor.toDouble
  let x := value.toDouble
  if d.isWhole then
    x.isWhole && (x.ratio.1 / x.ratio.2) % (d.ratio.1 / d.ratio.2) = 0
  else
    let quotient := x.div d
    if quotient.isFinite then
      let (numerator, denominator) := quotient.ratio
      quotient.isNegative
        || (numerator % denominator) * quotientSlack.2 < quotientSlack.1 * denominator
    else
      let (a, b) := decimalRatio x
      let (c, e) := decimalRatio d
      (a * e) % (b * c) = 0

/-- Whether a number equals a constant but for less than a rounding of one. -/
def isConstant (constant value : Json.Number) : Bool :=
  let (a, b) := constant.toDouble.signedRatio
  let (c, d) := value.toDouble.signedRatio
  (a * d - c * b).natAbs * quotientSlack.2 < quotientSlack.1 * (b * d)

/-- Whether a text has a format. Five formats are known. Those of dates, times, durations, hosts,
mail addresses, templates, pointers and identifiers are not, and every text passes for them.
-/
def hasFormat (name text : String) : Bool :=
  match name with
  | "ipv4" => Text.isAddress4 text.toList
  | "ipv6" => Text.isAddress6 text.toList
  | "regex" => (Pattern.ofString? text).isSome
  | "uri" => Text.Uri.isAbsolute text
  | "uri-reference" => Text.Uri.isReference text
  | _ => true

/-- How a schema judges a value at a location. -/
abbrev Judge := Schema → String → Json → List Finding

/-- The finding of a schema that allows nothing. -/
def nothingAllowed (location : String) (value : Json) : List Finding :=
  found location ("False schema does not allow " ++ value.text)

/-- The finding that there are members for which there is no schema. -/
def unexpectedMembers (names : List String) (location : String) : List Finding :=
  match names with
  | [] => []
  | names =>
      let shown := listed (names.map fun name => "'" ++ name ++ "'")
      let verb := if names.length = 1 then "was" else "were"
      found location s!"Additional properties are not allowed ({shown} {verb} unexpected)"

/-- Checks all members of an object: each by the schemas of its name, and by a further schema
if there are none.
-/
def checkMembers (judge : Judge) (named : Option (List (String × Schema)))
    (patterns : Option (List (Pattern × Schema))) (further : Schema) (location : String)
    (members : List (String × Json)) : List Finding :=
  let schemasFor (name : String) : List Schema :=
    ((named.getD []).lookup name).toList
      ++ ((patterns.getD []).filter fun (pattern, _) => pattern.occursIn name).map (·.2)
  let judgeAll (schemas : List Schema) : String × Json → List Finding := fun (name, value) =>
    schemas.flatMap fun schema => judge schema (within location name) value
  match further, named, patterns with
  | .always false, none, none =>
      match members with
      | [] => []
      | (_, value) :: _ => nothingAllowed location value
  | .always false, _, _ =>
      (members.flatMap fun member => judgeAll (schemasFor member.1) member)
        ++ unexpectedMembers
          ((members.filter fun (name, _) => (schemasFor name).isEmpty).map (·.1)) location
  | further, _, _ =>
      members.flatMap fun member =>
        match schemasFor member.1 with
        | [] => judgeAll [further] member
        | schemas => judgeAll schemas member

/-- Checks items by their schemas, position by position. -/
def checkPrefix (judge : Judge) (location : String)
    : Nat → List Schema → List Json → List Finding
  | index, schema :: schemas, value :: values =>
      judge schema (item location index) value
        ++ checkPrefix judge location (index + 1) schemas values
  | _, _, _ => []

/-- What a keyword finds in an object. -/
def checkObject (judge : Judge) (location : String) (members : List (String × Json))
    : Keyword → List Finding
  | .members named patterns further =>
      checkMembers judge named patterns further location members
  | .properties schemas =>
      schemas.flatMap fun (name, schema) =>
        match members.lookup name with
        | some value => judge schema (within location name) value
        | none => []
  | .patternProperties schemas =>
      schemas.flatMap fun (pattern, schema) =>
        (members.filter fun (name, _) => pattern.occursIn name).flatMap
          fun (name, value) => judge schema (within location name) value
  | .propertyNames (.always allowed) =>
      if allowed || members.isEmpty then [] else nothingAllowed location (.object members)
  | .propertyNames schema =>
      members.flatMap fun (name, _) =>
        (judge schema location (.string name)).map fun finding => { finding with location }
  | .dependent schemas =>
      schemas.flatMap fun (name, schema) =>
        if (members.lookup name).isSome then judge schema location (.object members) else []
  | .required names =>
      (names.filter fun name => (members.lookup name).isNone).map fun name =>
        ⟨location, Json.stringText name ++ " is a required property"⟩
  | _ => []

/-- What a keyword finds in an array. -/
def checkArray (judge : Judge) (location : String) (items : List Json) : Keyword → List Finding
  | .items skipped schema =>
      let rest := items.drop skipped
      checkPrefix judge location skipped (List.replicate rest.length schema) rest
  | .positions schemas => checkPrefix judge location 0 schemas items
  | .contains schema =>
      if items.any fun value => (judge schema location value).isEmpty then []
      else
        found location s!"None of {(Json.array items).text} are valid under the given schema"
  | .uniqueItems =>
      if Json.hasRepetition items then found location (repeatedText (.array items)) else []
  | _ => []

/-- What a keyword finds in a string. -/
def checkString (location text : String) : Keyword → List Finding
  | .format name =>
      if hasFormat name text then [] else found location (notFormatText (.string text) name)
  | .pattern source pattern =>
      if pattern.occursIn text then []
      else
        let shown := (Json.string text).text
        found location (shown ++ " does not match \"" ++ source ++ "\"")
  | _ => []

/-- What a keyword finds in a number. -/
def checkNumber (location : String) (number : Json.Number) : Keyword → List Finding
  | .bound kind limit =>
      match outOfBound? kind limit number with
      | some message => found location (number.text ++ " " ++ message)
      | none => []
  | .multipleOf divisor =>
      if isMultiple divisor number then []
      else
        let shown := Decimal.positional.text divisor.toDouble
        found location s!"{number.text} is not a multiple of {shown}"
  | _ => []

def isConst (constant value : Json) : Bool :=
  match constant, value with
  | .number a, .number b => isConstant a b
  | constant, value => constant.same value

/-- What a keyword finds in a value of any type. -/
def checkAny (judge : Judge) (location : String) (value : Json) : Keyword → List Finding
  | .reference schema => judge schema location value
  | .allOf schemas => schemas.flatMap fun schema => judge schema location value
  | .anyOf schemas =>
      if schemas.any fun schema => (judge schema location value).isEmpty then []
      else
        found location
          (value.text ++ " is not valid under any of the schemas listed in the 'anyOf' keyword")
  | .oneOf schemas =>
      match schemas.countP fun schema => (judge schema location value).isEmpty with
      | 0 =>
          found location (value.text
            ++ " is not valid under any of the schemas listed in the 'oneOf' keyword")
      | 1 => []
      | _ =>
          found location (value.text
            ++ " is valid under more than one of the schemas listed in the 'oneOf' keyword")
  | .negation source schema =>
      if (judge schema location value).isEmpty then
        found location (source.text ++ " is not allowed for " ++ value.text)
      else []
  | .condition schema consequence alternative =>
      let branch :=
        if (judge schema location value).isEmpty then consequence else alternative
      match branch with
      | some schema => judge schema location value
      | none => []
  | .const constant =>
      if isConst constant value then [] else found location (constant.text ++ " was expected")
  | .enumeration values =>
      if values.any value.same then [] else found location (notOneOfText value values)
  | .types types =>
      if types.any (isOfType value) then [] else wrongType types location value
  | .atMost measure limit =>
      match sizeOf? measure value with
      | some size => if size ≤ limit then [] else found location (tooLarge measure limit value)
      | none => []
  | .atLeast measure limit =>
      match sizeOf? measure value with
      | some size => if limit ≤ size then [] else found location (tooSmall measure limit value)
      | none => []
  | keyword =>
      match value with
      | .object members => checkObject judge location members keyword
      | .array items => checkArray judge location items keyword
      | .string text => checkString location text keyword
      | .number number => checkNumber location number keyword
      | _ => []

/-- What a schema does not allow in a value at a location, given the targets of references and
a bound on the nesting of schemas.
-/
def findings (resolve : String → Option Schema) : Nat → Judge
  | 0, _, _, _ => []
  | _ + 1, .always allowed, location, value =>
      if allowed then [] else nothingAllowed location value
  | fuel + 1, .keywords list, location, value =>
      list.flatMap fun keyword =>
        match keyword with
        | .recursion target =>
            match resolve target with
            | some schema => findings resolve fuel schema location value
            | none => []
        | keyword => checkAny (findings resolve fuel) location value keyword

end TaggedConfig.Schema
