import TaggedConfig.Json.Value
import TaggedConfig.Text.Digits

/-! The values that scalars stand for.
What writes no null, Boolean or number is a string, and a tag may ask for one of these.
-/

namespace TaggedConfig.Yaml

def signed : List Char → Bool × List Char
  | '-' :: rest => (true, rest)
  | '+' :: rest => (false, rest)
  | text => (false, text)

/-- The magnitude of an integer. Leading zeros make a text of digits a string. -/
def magnitude? : List Char → Option Nat
  | '0' :: 'x' :: digits => Text.ofDigits? 16 digits
  | '0' :: 'o' :: digits => Text.ofDigits? 8 digits
  | '0' :: 'b' :: digits => Text.ofDigits? 2 digits
  | ['0'] => some 0
  | '0' :: _ => none
  | digits => Text.ofDigits? 10 digits

/-- The integer that a text writes, if it has at most 128 bits. -/
def integer? (text : List Char) : Option Int := do
  let (negative, rest) := signed text
  let n ← magnitude? rest
  let value : Int := if negative then -(n : Int) else n
  if -Nat.pow 2 127 ≤ value ∧ value < Nat.pow 2 128 then some value else none

/-- The value of an integer. There is none for one of more than 64 bits. -/
def integerValue? (value : Int) : Option Json :=
  if Json.leastInteger ≤ value ∧ value ≤ Json.greatestInteger then
    some (.number (.integer value))
  else none

/-- Whether a text is digits that a leading zero keeps from being a number. -/
def isZeroPadded (text : List Char) : Bool :=
  match (signed text).2 with
  | '0' :: rest => !rest.isEmpty && rest.all Char.isDigit
  | _ => false

/-- The exponent of a decimal from its letter on; none at the end of the text. -/
def exponent? : List Char → Option Int
  | [] => some 0
  | letter :: rest =>
      if letter = 'e' ∨ letter = 'E' then
        let (negative, digits) := signed rest
        (Text.ofDigits? 10 digits).map fun n => if negative then -(n : Int) else n
      else none

/-- The greatest exponent beyond the digits for which a decimal is worked out. -/
def exponentLimit : Nat := 4000

/-- The floating-point number that a decimal writes, if it is finite. -/
def decimal? (text : List Char) : Option Double := do
  let (negative, rest) := signed text
  let whole := rest.takeWhile Char.isDigit
  let rest := rest.dropWhile Char.isDigit
  let (fraction, rest) :=
    match rest with
    | '.' :: rest => (rest.takeWhile Char.isDigit, rest.dropWhile Char.isDigit)
    | rest => ([], rest)
  let digits := whole ++ fraction
  let significand ← Text.ofDigits? 10 digits
  let exponent := (← exponent? rest) - (fraction.length : Int)
  if exponentLimit + digits.length < exponent.natAbs then
    if significand = 0 ∨ exponent < 0 then some (.zero negative) else none
  else
    let value :=
      Double.ofRatio negative (significand * Nat.pow 10 exponent.toNat)
        (Nat.pow 10 (-exponent).toNat)
    if value.isFinite then some value else none

/-- Whether a text writes null. -/
def isNull (text : String) : Bool := ["~", "null", "Null", "NULL"].contains text

/-- The Boolean that a text writes. -/
def boolean? (text : String) : Option Bool :=
  if ["true", "True", "TRUE"].contains text then some true
  else if ["false", "False", "FALSE"].contains text then some false
  else none

/-- The value of the floating-point number that a text writes. Infinities and what is no number
become null.
-/
def float? (text : String) : Option Json :=
  if [".inf", ".Inf", ".INF", "+.inf", "+.Inf", "+.INF", "-.inf", "-.Inf", "-.INF",
      ".nan", ".NaN", ".NAN"].contains text then some .null
  else (decimal? text.toList).map fun value => .number (.double value)

/-- The value of a scalar without quotes and without a tag. -/
def plain? (text : String) : Option Json :=
  if text = "" || isNull text then some .null
  else
    match boolean? text, integer? text.toList with
    | some truth, _ => some (.bool truth)
    | none, some value => integerValue? value
    | none, none =>
        if isZeroPadded text.toList then some (.string text)
        else some ((float? text).getD (.string text))

/-- The tag of a kind of value that comes with the format. -/
def coreTag (kind : String) : String := "tag:yaml.org,2002:" ++ kind

/-- The value of a scalar with a tag. A tag of an application has none. -/
def tagged? (tag text : String) : Option Json :=
  if tag.startsWith "!" then none
  else if tag = coreTag "bool" then (boolean? text).map .bool
  else if tag = coreTag "int" then (integer? text.toList).bind integerValue?
  else if tag = coreTag "float" then float? text
  else if tag = coreTag "null" then if isNull text then some .null else none
  else some (.string text)

end TaggedConfig.Yaml
