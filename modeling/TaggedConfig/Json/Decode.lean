import TaggedConfig.Json.Document
import TaggedConfig.Json.Value

/-! Values of JSON texts, and the first fault of a text that has none.
Parts are looked at in the order of the text. Values that nobody asks for are passed over by
laxer rules than values that are read.
-/

namespace TaggedConfig.Json

def Scalar.toJson : Scalar → Json
  | .null => .null
  | .bool value => .bool value
  | .number value => .number value

/-- How many brackets may stand open around a value that is read, itself included. -/
def nestingLimit : Nat := 127

/-- The place in an array or object that is never reached. -/
def unreached : Fault := ⟨.endInValue, 0⟩

/-- The fault in how an array that is read ends. -/
def Ending.arrayFault? : Ending → Option Fault
  | .closed _ => none
  | .afterComma offset => some ⟨.trailingComma, offset + 1⟩
  | .stray offset => some ⟨.noArrayComma, offset + 1⟩
  | .finish offset => some ⟨.endInArray, offset⟩
  | .noName _ | .finishAfterComma _ | .cut => some unreached

/-- The fault in how an object that is read ends. -/
def Ending.objectFault? : Ending → Option Fault
  | .closed _ => none
  | .afterComma offset => some ⟨.trailingComma, offset + 1⟩
  | .stray offset => some ⟨.noObjectComma, offset + 1⟩
  | .noName offset => some ⟨.keyNotString, offset + 1⟩
  | .finish offset => some ⟨.endInObject, offset⟩
  | .finishAfterComma offset => some ⟨.endInValue, offset⟩
  | .cut => some unreached

/-- The fault in how an array that is passed over ends: after a comma a value is missing. -/
def Ending.passedArrayFault? : Ending → Option Fault
  | .afterComma offset => some ⟨.noValue, offset + 1⟩
  | ending => ending.arrayFault?

/-- The fault in how an object that is passed over ends: after a comma a name is missing. -/
def Ending.passedObjectFault? : Ending → Option Fault
  | .afterComma offset => some ⟨.keyNotString, offset + 1⟩
  | .finishAfterComma offset => some ⟨.endInObject, offset⟩
  | ending => ending.objectFault?

def Follow.fault? : Follow → Option Fault
  | .colon _ => none
  | .closing offset | .stray offset => some ⟨.noColon, offset + 1⟩
  | .finish offset => some ⟨.endInObject, offset⟩
  | .cut => some unreached

/-- Fails with a fault if there is one. -/
def guardFault : Option Fault → Except Fault Unit
  | none => pure ()
  | some fault => throw fault

mutual

/-- The value of a node with `room` more levels of nesting. -/
def Node.read (room : Nat) : Node → Except Fault Json
  | .scalar lexeme => lexeme.reading.map Scalar.toJson
  | .string lexeme => lexeme.reading.map .string
  | .array start items ending =>
      if room = 0 then throw ⟨.tooDeep, start + 1⟩
      else do
        let values ← readItems (room - 1) items
        guardFault ending.arrayFault?
        pure (.array values)
  | .object start members ending =>
      if room = 0 then throw ⟨.tooDeep, start + 1⟩
      else do
        let values ← readMembers (room - 1) members
        guardFault ending.objectFault?
        pure (.ofMembers values)
  | .absent offset => throw ⟨.noValue, offset + 1⟩
  | .finish offset => throw ⟨.endInValue, offset⟩
  | .cut => throw unreached

/-- The values of the items of an array. -/
def readItems (room : Nat) : List Node → Except Fault (List Json)
  | [] => pure []
  | item :: items => do
      let value ← item.read room
      let values ← readItems room items
      pure (value :: values)

/-- The names and values of the members of an object. -/
def readMembers (room : Nat) : List (Name × Node) → Except Fault (List (String × Json))
  | [] => pure []
  | (name, node) :: members => do
      let key ← name.lexeme.reading
      guardFault name.follow.fault?
      let value ← node.read room
      let values ← readMembers room members
      pure ((key, value) :: values)

end

mutual

def Node.pass : Node → Except Fault Unit
  | .scalar lexeme => lexeme.passing
  | .string lexeme => lexeme.passing
  | .array _ items ending => do
      passItems items
      guardFault ending.passedArrayFault?
  | .object _ members ending => do
      passMembers members
      guardFault ending.passedObjectFault?
  | .absent offset => throw ⟨.noValue, offset + 1⟩
  | .finish offset => throw ⟨.endInValue, offset⟩
  | .cut => throw unreached

def passItems : List Node → Except Fault Unit
  | [] => pure ()
  | item :: items => do
      item.pass
      passItems items

def passMembers : List (Name × Node) → Except Fault Unit
  | [] => pure ()
  | (name, node) :: members => do
      name.lexeme.passing
      guardFault name.follow.fault?
      node.pass
      passMembers members

end

/-- The fault of text after the value of a document. -/
def Document.trailingFault? (document : Document) : Option Fault :=
  document.trailing.map fun offset => ⟨.trailingText, offset + 1⟩

def Document.read (document : Document) : Except Fault Json := do
  let value ← document.root.read nestingLimit
  guardFault document.trailingFault?
  pure value

/-- The value of a JSON text. -/
def decode (text : Bytes) : Except Fault Json := (Document.ofBytes text).read

/-- As `decode`, with the wording of the fault. -/
def decodeText (text : Bytes) : Except String Json :=
  (decode text).mapError (·.message text)

end TaggedConfig.Json
