import TaggedConfig.Decimal.Shortest
import TaggedConfig.Json.Value

/-! JSON values as text.
The compact form has no spaces; the indented form puts each part on a line of its own.
-/

namespace TaggedConfig.Json

/-- The form of a character within a string: quotes, backslashes and controls are escaped. -/
def escapedChar (c : Char) : List Char :=
  if c = '"' then ['\\', '"']
  else if c = '\\' then ['\\', '\\']
  else if c = '\x08' then ['\\', 'b']
  else if c = '\x0c' then ['\\', 'f']
  else if c = '\n' then ['\\', 'n']
  else if c = '\r' then ['\\', 'r']
  else if c = '\t' then ['\\', 't']
  else if c.toNat < 0x20 then
    ['\\', 'u', '0', '0', Nat.digitChar (c.toNat / 16), Nat.digitChar (c.toNat % 16)]
  else [c]

def stringText (s : String) : String :=
  "\"" ++ String.ofList (s.toList.flatMap escapedChar) ++ "\""

def Number.text : Number → String
  | .integer value => toString value
  | .double value => if value.isFinite then Decimal.plain.text value else "null"

mutual

/-- The compact text of a value. -/
def text : Json → String
  | .null => "null"
  | .bool value => if value then "true" else "false"
  | .number value => value.text
  | .string value => stringText value
  | .array items => "[" ++ itemTexts items ++ "]"
  | .object members => "\x7b" ++ memberTexts members ++ "\x7d"

/-- The compact texts of the items of an array, with commas between them. -/
def itemTexts : List Json → String
  | [] => ""
  | [item] => item.text
  | item :: items => item.text ++ "," ++ itemTexts items

/-- The compact texts of the members of an object, with commas between them. -/
def memberTexts : List (String × Json) → String
  | [] => ""
  | [(name, value)] => stringText name ++ ":" ++ value.text
  | (name, value) :: members =>
      stringText name ++ ":" ++ value.text ++ "," ++ memberTexts members

end

def newLine (depth : Nat) : String := "\n" ++ String.ofList (List.replicate (2 * depth) ' ')

mutual

/-- The indented text of a value at a depth. -/
def indentedFrom (depth : Nat) : Json → String
  | .null => "null"
  | .bool value => if value then "true" else "false"
  | .number value => value.text
  | .string value => stringText value
  | .array [] => "[]"
  | .array items => "[" ++ indentedItems (depth + 1) items ++ newLine depth ++ "]"
  | .object [] => "\x7b\x7d"
  | .object members =>
      "\x7b" ++ indentedMembers (depth + 1) members ++ newLine depth ++ "\x7d"

/-- The indented texts of the items of an array. -/
def indentedItems (depth : Nat) : List Json → String
  | [] => ""
  | [item] => newLine depth ++ item.indentedFrom depth
  | item :: items =>
      newLine depth ++ item.indentedFrom depth ++ "," ++ indentedItems depth items

/-- The indented texts of the members of an object. -/
def indentedMembers (depth : Nat) : List (String × Json) → String
  | [] => ""
  | [(name, value)] =>
      newLine depth ++ stringText name ++ ": " ++ value.indentedFrom depth
  | (name, value) :: members =>
      newLine depth ++ stringText name ++ ": " ++ value.indentedFrom depth ++ ","
        ++ indentedMembers depth members

end

/-- The indented text of a value. -/
def indented (value : Json) : String := value.indentedFrom 0

end TaggedConfig.Json
