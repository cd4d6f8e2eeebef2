import TaggedConfig.Json.Decode
import TaggedConfig.Json.Print
import TaggedConfig.Text.Quoted

/-! Typed decoding: a shape says what a text has to hold.
A record is read from an object, whose other members are passed over, or from an array of
its fields in order.
-/

namespace TaggedConfig.Json

/-- Integers of a fixed range. -/
structure IntegerType where
  name : String
  least : Int
  greatest : Int
  deriving DecidableEq, Repr

/-- A decoded value, whose records keep the order of their fields. -/
inductive Datum where
  | text (value : String)
  | integer (value : Int)
  | double (value : Double)
  | texts (values : List String)
  | record (fields : List (String × Datum))
  deriving Repr

/-- What a text has to hold. A field with a default may be missing. -/
inductive Shape where
  | text
  | integer (type : IntegerType)
  | double
  | texts
  | record (name : String) (fields : List (String × Shape × Option Datum))

/-- What a shape is called in messages. -/
def Shape.expected : Shape → String
  | .text => "a string"
  | .integer type => type.name
  | .double => "f64"
  | .texts => "a sequence"
  | .record name _ => "struct " ++ name

/-- What a scalar is called in messages. -/
def Scalar.description : Scalar → String
  | .null => "null"
  | .bool value => s!"boolean `{value}`"
  | .number (.integer value) => s!"integer `{value}`"
  | .number (.double value) => s!"floating point `{Decimal.plain.text value}`"

/-- The fault of a value that is of another type than expected. A scalar is read to its end
first; an array or object is refused at its start.
-/
def Node.wrongType {α : Type} (expected : String) : Node → Except Fault α
  | .scalar lexeme => do
      let scalar ← lexeme.reading
      throw ⟨.wrongType scalar.description expected, lexeme.stop⟩
  | .string lexeme => do
      let text ← lexeme.reading
      throw ⟨.wrongType ("string " ++ Text.quoted text) expected, lexeme.stop⟩
  | .array start _ _ => throw ⟨.wrongType "sequence" expected, start⟩
  | .object start _ _ => throw ⟨.wrongType "map" expected, start⟩
  | .absent offset => throw ⟨.noValue, offset + 1⟩
  | .finish offset => throw ⟨.endInValue, offset⟩
  | .cut => throw unreached

def Node.readText : Node → Except Fault String
  | .string lexeme => lexeme.reading
  | node => node.wrongType Shape.text.expected

/-- An integer of a type, from a number without fraction or exponent. -/
def Node.readInteger (type : IntegerType) : Node → Except Fault Int
  | .scalar lexeme => do
      match ← lexeme.reading with
      | .number (.integer value) =>
          if type.least ≤ value ∧ value ≤ type.greatest then pure value
          else throw ⟨.wrongValue s!"integer `{value}`" type.name, lexeme.stop⟩
      | _ => (Node.scalar lexeme).wrongType type.name
  | node => node.wrongType type.name

/-- A floating-point number, from any number. -/
def Node.readDouble : Node → Except Fault Double
  | .scalar lexeme => do
      match ← lexeme.reading with
      | .number value => pure value.toDouble
      | _ => (Node.scalar lexeme).wrongType Shape.double.expected
  | node => node.wrongType Shape.double.expected

/-- A list of texts, from an array of strings. -/
def Node.readTexts : Node → Except Fault (List String)
  | .array _ items ending => do
      let values ← items.mapM Node.readText
      guardFault ending.arrayFault?
      pure values
  | node => node.wrongType Shape.texts.expected

/-- The number of elements in words. -/
def elementCount (n : Nat) : String := if n = 1 then "1 element" else s!"{n} elements"

/-- The offset at which a repeated name is reported: before what follows it, or after a
closing brace that does.
-/
def Follow.resume : Follow → Nat
  | .colon offset | .stray offset | .finish offset => offset
  | .closing offset => offset + 1
  | .cut => 0

/-- The offset after the closing bracket. -/
def Ending.stop : Ending → Nat
  | .closed stop => stop
  | _ => 0

/-- The fault in how an array ends whose elements have all been taken. -/
def Ending.fullArrayFault? : Ending → Option Fault
  | .stray offset => some ⟨.trailingText, offset + 1⟩
  | ending => ending.arrayFault?

/-- The fault of an element for which a record has no field. -/
def Node.surplus : Node → Fault
  | .finish offset => ⟨.trailingText, offset⟩
  | node => ⟨.trailingText, node.start + 1⟩

/-- The fields in order with the values that were found, defaults for the others. -/
def completeFields (stop : Nat) (found : List (String × Datum))
    : List (String × Shape × Option Datum) → Except Fault (List (String × Datum))
  | [] => pure []
  | (name, _, fallback) :: fields =>
      match (found.lookup name).orElse fun _ => fallback with
      | some value => do pure ((name, value) :: (← completeFields stop found fields))
      | none => throw ⟨.missingField name, stop⟩

/-- The fields of a record found among the members of an object. -/
def readFields (reader : String → Option (Node → Except Fault Datum)) (ending : Ending)
    (found : List (String × Datum))
    : List (Name × Node) → Except Fault (List (String × Datum))
  | [] => do
      guardFault ending.objectFault?
      pure found
  | (name, node) :: members => do
      let key ← name.lexeme.reading
      match reader key with
      | some read =>
          if (found.lookup key).isSome then
            throw ⟨.duplicateField key, name.follow.resume⟩
          else
            guardFault name.follow.fault?
            let value ← read node
            readFields reader ending ((key, value) :: found) members
      | none =>
          guardFault name.follow.fault?
          node.pass
          readFields reader ending found members

mutual

/-- The value that a node holds by a shape. -/
def Shape.read : Shape → Node → Except Fault Datum
  | .text, node => node.readText.map .text
  | .integer type, node => (node.readInteger type).map .integer
  | .double, node => node.readDouble.map .double
  | .texts, node => node.readTexts.map .texts
  | .record name fields, .array _ items ending => do
      let expected := s!"struct {name} with {elementCount fields.length}"
      pure (.record (← readElements expected ending 0 fields items))
  | .record _ fields, .object _ members ending => do
      let found ← readFields (fun name => fieldReader name fields) ending [] members
      pure (.record (← completeFields ending.stop found fields))
  | .record name _, node => node.wrongType ("struct " ++ name)

def fieldReader (name : String) : List (String × Shape × Option Datum)
    → Option (Node → Except Fault Datum)
  | [] => none
  | (other, shape, _) :: fields =>
      if name = other then some shape.read else fieldReader name fields

/-- The fields of a record from the elements of an array, of which `count` have been taken. -/
def readElements (expected : String) (ending : Ending) (count : Nat)
    : List (String × Shape × Option Datum) → List Node → Except Fault (List (String × Datum))
  | [], [] => do
      guardFault ending.fullArrayFault?
      pure []
  | [], item :: _ => throw item.surplus
  | (name, shape, _) :: fields, item :: items => do
      let value ← shape.read item
      pure ((name, value) :: (← readElements expected ending (count + 1) fields items))
  | (name, _, fallback) :: fields, [] => do
      guardFault ending.arrayFault?
      match fallback with
      | some value =>
          pure ((name, value) :: (← readElements expected ending (count + 1) fields []))
      | none => throw ⟨.wrongLength count expected, ending.stop⟩

end

/-- The value of a shape that a document holds. -/
def Document.readAs (shape : Shape) (document : Document) : Except Fault Datum := do
  let value ← shape.read document.root
  guardFault document.trailingFault?
  pure value

/-- The value of a shape that a JSON text holds. -/
def decodeAs (shape : Shape) (text : Bytes) : Except Fault Datum :=
  (Document.ofBytes text).readAs shape

mutual

/-- The compact text of a decoded value. -/
def Datum.render : Datum → String
  | .text value => stringText value
  | .integer value => toString value
  | .double value => (Number.double value).text
  | .texts values => "[" ++ ",".intercalate (values.map stringText) ++ "]"
  | .record fields => "\x7b" ++ fieldTexts fields ++ "\x7d"

/-- The compact texts of the fields of a record, with commas between them. -/
def fieldTexts : List (String × Datum) → String
  | [] => ""
  | [(name, value)] => stringText name ++ ":" ++ value.render
  | (name, value) :: fields =>
      stringText name ++ ":" ++ value.render ++ "," ++ fieldTexts fields

end

end TaggedConfig.Json
