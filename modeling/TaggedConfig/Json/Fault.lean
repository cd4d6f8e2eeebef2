import TaggedConfig.Bytes

/-! What can be wrong with a JSON text, and where.
Faults point at a byte of the text; their wording gives its line and column.
-/

namespace TaggedConfig.Json

/-- What is wrong at a place in a JSON text. -/
inductive Problem where
  | endInValue
  | endInArray
  | endInObject
  | endInString
  | noValue
  | badWord
  | noColon
  | noArrayComma
  | noObjectComma
  | trailingComma
  | trailingText
  | keyNotString
  | badNumber
  | numberOutOfRange
  | badEscape
  | controlCharacter
  | loneSurrogate
  | endOfSurrogatePair
  | notUnicode
  | tooDeep
  | missingField (name : String)
  | duplicateField (name : String)
  /-- The text has `found`, which is not of the type `expected`. -/
  | wrongType (found expected : String)
  /-- The text has `found`, of the right type but not a value of `expected`. -/
  | wrongValue (found expected : String)
  /-- An array stands for a record but ends after `count` elements. -/
  | wrongLength (count : Nat) (expected : String)
  deriving DecidableEq, Repr

def Problem.message : Problem → String
  | .endInValue => "EOF while parsing a value"
  | .endInArray => "EOF while parsing a list"
  | .endInObject => "EOF while parsing an object"
  | .endInString => "EOF while parsing a string"
  | .noValue => "expected value"
  | .badWord => "expected ident"
  | .noColon => "expected `:`"
  | .noArrayComma => "expected `,` or `]`"
  | .noObjectComma => "expected `,` or `\x7d`"
  | .trailingComma => "trailing comma"
  | .trailingText => "trailing characters"
  | .keyNotString => "key must be a string"
  | .badNumber => "invalid number"
  | .numberOutOfRange => "number out of range"
  | .badEscape => "invalid escape"
  | .controlCharacter => "control character (\\u0000-\\u001F) found while parsing a string"
  | .loneSurrogate => "lone leading surrogate in hex escape"
  | .endOfSurrogatePair => "unexpected end of hex escape"
  | .notUnicode => "invalid unicode code point"
  | .tooDeep => "recursion limit exceeded"
  | .missingField name => s!"missing field `{name}`"
  | .duplicateField name => s!"duplicate field `{name}`"
  | .wrongType found expected => s!"invalid type: {found}, expected {expected}"
  | .wrongValue found expected => s!"invalid value: {found}, expected {expected}"
  | .wrongLength count expected => s!"invalid length {count}, expected {expected}"

/-- A problem and the number of bytes of the text before its place. -/
structure Fault where
  problem : Problem
  offset : Nat
  deriving DecidableEq, Repr

/-- The line of an offset, from one, and its column, which counts the bytes since the last
newline before it.
-/
def place (text : Bytes) (offset : Nat) : Nat × Nat :=
  let before := text.take offset
  (before.count (byte '\n') + 1, (before.reverse.takeWhile (· != byte '\n')).length)

/-- The wording of a fault of a text. -/
def Fault.message (text : Bytes) (fault : Fault) : String :=
  let (line, column) := place text fault.offset
  s!"{fault.problem.message} at line {line} column {column}"

end TaggedConfig.Json
