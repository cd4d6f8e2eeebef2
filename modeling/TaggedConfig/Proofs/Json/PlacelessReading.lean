import TaggedConfig.Proofs.Json.Placeless
import TaggedConfig.Proofs.Json.Typed

/-! Reading of JSON texts up to where things stand in them.
Whether as any value or by a shape, a text is read to the same value as one with the same tokens
in other places; only the places of its faults may differ.
-/

namespace TaggedConfig.Json

open Outcome

-----------------------------------------------------------------------------------------
-- Reading takes no notice of places
-----------------------------------------------------------------------------------------

section

attribute [local simp] toOption_bind toOption_map toOption_mapError

@[simp] theorem Lexeme.toOption_reading_placeless {α : Type} (lexeme : Lexeme α)
    : lexeme.placeless.reading.toOption = lexeme.reading.toOption :=
  toOption_mapError _ _

@[simp] theorem Lexeme.toOption_passing_placeless {α : Type} (lexeme : Lexeme α)
    : lexeme.placeless.passing.toOption = lexeme.passing.toOption :=
  toOption_mapError _ _

@[simp] theorem Ending.toOption_arrayFault?_placeless (ending : Ending)
    : (guardFault ending.placeless.arrayFault?).toOption
      = (guardFault ending.arrayFault?).toOption := by
  cases ending <;> rfl

@[simp] theorem Ending.toOption_objectFault?_placeless (ending : Ending)
    : (guardFault ending.placeless.objectFault?).toOption
      = (guardFault ending.objectFault?).toOption := by
  cases ending <;> rfl

@[simp] theorem Ending.toOption_passedArrayFault?_placeless (ending : Ending)
    : (guardFault ending.placeless.passedArrayFault?).toOption
      = (guardFault ending.passedArrayFault?).toOption := by
  cases ending <;> rfl

@[simp] theorem Ending.toOption_passedObjectFault?_placeless (ending : Ending)
    : (guardFault ending.placeless.passedObjectFault?).toOption
      = (guardFault ending.passedObjectFault?).toOption := by
  cases ending <;> rfl

@[simp] theorem Ending.toOption_fullArrayFault?_placeless (ending : Ending)
    : (guardFault ending.placeless.fullArrayFault?).toOption
      = (guardFault ending.fullArrayFault?).toOption := by
  cases ending <;> rfl

@[simp] theorem Follow.toOption_fault?_placeless (follow : Follow)
    : (guardFault follow.placeless.fault?).toOption = (guardFault follow.fault?).toOption := by
  cases follow <;> rfl

mutual

theorem Node.toOption_read_placeless (room : Nat)
    : (node : Node) → (node.placeless.read room).toOption = (node.read room).toOption
  | .scalar lexeme => by simp [Node.placeless, Node.read]
  | .string lexeme => by simp [Node.placeless, Node.read]
  | .array start items ending => by
      rw [Node.placeless, Node.read, Node.read]
      split
      · rfl
      · simp [toOption_readItems_placeless (room - 1) items]
  | .object start members ending => by
      rw [Node.placeless, Node.read, Node.read]
      split
      · rfl
      · simp [toOption_readMembers_placeless (room - 1) members]
  | .absent offset => rfl
  | .finish offset => rfl
  | .cut => rfl

theorem toOption_readItems_placeless (room : Nat)
    : (items : List Node) →
        (readItems room (placelessItems items)).toOption = (readItems room items).toOption
  | [] => rfl
  | item :: items => by
      simp [placelessItems, readItems, item.toOption_read_placeless room,
        toOption_readItems_placeless room items]

theorem toOption_readMembers_placeless (room : Nat)
    : (members : List (Name × Node)) →
        (readMembers room (placelessMembers members)).toOption
        = (readMembers room members).toOption
  | [] => rfl
  | (name, node) :: members => by
      simp [placelessMembers, readMembers, Name.placeless, node.toOption_read_placeless room,
        toOption_readMembers_placeless room members]

end

mutual

theorem Node.toOption_pass_placeless
    : (node : Node) → node.placeless.pass.toOption = node.pass.toOption
  | .scalar lexeme => by simp [Node.placeless, Node.pass]
  | .string lexeme => by simp [Node.placeless, Node.pass]
  | .array start items ending => by
      simp [Node.placeless, Node.pass, toOption_passItems_placeless items]
  | .object start members ending => by
      simp [Node.placeless, Node.pass, toOption_passMembers_placeless members]
  | .absent offset => rfl
  | .finish offset => rfl
  | .cut => rfl

theorem toOption_passItems_placeless
    : (items : List Node) →
        (passItems (placelessItems items)).toOption = (passItems items).toOption
  | [] => rfl
  | item :: items => by
      simp [placelessItems, passItems, item.toOption_pass_placeless,
        toOption_passItems_placeless items]

theorem toOption_passMembers_placeless
    : (members : List (Name × Node)) →
        (passMembers (placelessMembers members)).toOption = (passMembers members).toOption
  | [] => rfl
  | (name, node) :: members => by
      simp [placelessMembers, passMembers, Name.placeless, node.toOption_pass_placeless,
        toOption_passMembers_placeless members]

end

-----------------------------------------------------------------------------------------
-- Reading by a shape takes no notice of places
-----------------------------------------------------------------------------------------

/-- A value of another type gives nothing. -/
theorem Node.toOption_wrongType {α : Type} (expected : String) (node : Node)
    : (node.wrongType expected : Except Fault α).toOption = none := by
  cases node with
  | scalar lexeme => simp [wrongType]
  | string lexeme => simp [wrongType]
  | array | object | absent | finish | cut => rfl

theorem Node.toOption_readText_placeless (node : Node)
    : node.placeless.readText.toOption = node.readText.toOption := by
  cases node with
  | string lexeme => simp [Node.placeless, readText]
  | scalar | array | object | absent | finish | cut =>
      simp [Node.placeless, readText, toOption_wrongType]

theorem Node.toOption_readInteger_placeless (type : IntegerType) (node : Node)
    : (node.placeless.readInteger type).toOption = (node.readInteger type).toOption := by
  cases node with
  | scalar lexeme =>
      simp only [Node.placeless, readInteger, toOption_bind, Lexeme.toOption_reading_placeless]
      congr 1
      funext scalar
      match scalar with
      | .number (.integer value) =>
          dsimp only
          split <;> rfl
      | .null | .bool _ | .number (.double _) => simp [toOption_wrongType]
  | string | array | object | absent | finish | cut =>
      simp [Node.placeless, readInteger, toOption_wrongType]

theorem Node.toOption_readDouble_placeless (node : Node)
    : node.placeless.readDouble.toOption = node.readDouble.toOption := by
  cases node with
  | scalar lexeme =>
      simp only [Node.placeless, readDouble, toOption_bind, Lexeme.toOption_reading_placeless]
      congr 1
      funext scalar
      cases scalar with
      | number value => rfl
      | null | bool => simp [toOption_wrongType]
  | string | array | object | absent | finish | cut =>
      simp [Node.placeless, readDouble, toOption_wrongType]

theorem toOption_mapM_readText_placeless (items : List Node)
    : ((placelessItems items).mapM Node.readText).toOption
      = (items.mapM Node.readText).toOption := by
  induction items with
  | nil => rfl
  | cons item items ih =>
      simp [placelessItems, List.mapM_cons, item.toOption_readText_placeless, ih]

theorem Node.toOption_readTexts_placeless (node : Node)
    : node.placeless.readTexts.toOption = node.readTexts.toOption := by
  cases node with
  | array start items ending =>
      simp [Node.placeless, readTexts, toOption_mapM_readText_placeless]
  | scalar | string | object | absent | finish | cut =>
      simp [Node.placeless, readTexts, toOption_wrongType]

/-- The places of nodes make no difference to what a reader gives. -/
def IgnoresPlaces (read : Node → Except Fault Datum) : Prop :=
  ∀ node, (read node.placeless).toOption = (read node).toOption

/-- What completes a record does not depend on where it ends, by induction on the fields. -/
theorem toOption_completeFields (stop stop' : Nat) (found : List (String × Datum))
    (fields : List (String × Shape × Option Datum))
    : (completeFields stop found fields).toOption
      = (completeFields stop' found fields).toOption := by
  induction fields with
  | nil => rfl
  | cons field fields ih =>
      obtain ⟨name, shape, fallback⟩ := field
      simp only [completeFields]
      split
      · simp [ih]
      · rfl

/-- The fields found among members do not depend on places, by induction on the members. -/
theorem toOption_readFields_placeless {reader : String → Option (Node → Except Fault Datum)}
    (ignores : ∀ name read, reader name = some read → IgnoresPlaces read) (ending : Ending)
    (found : List (String × Datum)) (members : List (Name × Node))
    : (readFields reader ending.placeless found (placelessMembers members)).toOption
      = (readFields reader ending found members).toOption := by
  induction members generalizing found with
  | nil => simp [placelessMembers, readFields]
  | cons member members ih =>
      obtain ⟨name, node⟩ := member
      simp only [placelessMembers, readFields, Name.placeless, toOption_bind,
        Lexeme.toOption_reading_placeless]
      congr 1
      funext key
      cases known : reader key with
      | none => simp [Node.toOption_pass_placeless, ih]
      | some read =>
          dsimp only
          split
          · rfl
          · simp [ignores key read known node, ih]

section

variable {fields : List (String × Shape × Option Datum)}

/-- The fields taken from elements do not depend on places, by induction on the fields. -/
theorem toOption_readElements_placeless
    (ignores : ∀ field ∈ fields, IgnoresPlaces field.2.1.read) (expected : String)
    (ending : Ending) (count : Nat) (items : List Node)
    : (readElements expected ending.placeless count fields (placelessItems items)).toOption
      = (readElements expected ending count fields items).toOption := by
  induction fields generalizing count items with
  | nil => cases items <;> simp [placelessItems, readElements]
  | cons field fields ih =>
      obtain ⟨name, shape, fallback⟩ := field
      rw [List.forall_mem_cons] at ignores
      cases items with
      | cons item items =>
          simp [placelessItems, readElements, ignores.1 item, ih ignores.2]
      | nil =>
          have more := ih ignores.2 (count + 1) []
          cases fallback with
          | none => simp [placelessItems, readElements]
          | some value =>
              rw [placelessItems] at more
              simp [placelessItems, readElements, more]

theorem ignoresPlaces_record (ignores : ∀ field ∈ fields, IgnoresPlaces field.2.1.read)
    (name : String)
    : IgnoresPlaces (Shape.record name fields).read := by
  intro node
  cases node with
  | array start items ending =>
      simp [Node.placeless, Shape.read, toOption_readElements_placeless ignores]
  | object start members ending =>
      have readers (key : String) (read : Node → Except Fault Datum)
          (known : fieldReader key fields = some read)
          : IgnoresPlaces read := by
        rw [fieldReader_eq] at known
        obtain ⟨field, found, rfl⟩ := Option.map_eq_some_iff.mp known
        obtain ⟨before, after, split, -⟩ := List.lookup_eq_some_iff.mp found
        exact ignores (key, field) (by simp [split])
      simp only [Node.placeless, Shape.read, toOption_bind,
        toOption_readFields_placeless readers,
        toOption_completeFields ending.placeless.stop ending.stop]
  | scalar | string | absent | finish | cut =>
      simp [Node.placeless, Shape.read, Node.toOption_wrongType]

end

/-- What a shape reads does not depend on places, by recursion on the shape. -/
theorem Shape.ignoresPlaces (shape : Shape) : IgnoresPlaces shape.read := by
  intro node
  match shape with
  | .text => simp [Shape.read, Node.toOption_readText_placeless]
  | .integer type => simp [Shape.read, Node.toOption_readInteger_placeless]
  | .double => simp [Shape.read, Node.toOption_readDouble_placeless]
  | .texts => simp [Shape.read, Node.toOption_readTexts_placeless]
  | .record name fields =>
      have ignores : ∀ field ∈ fields, IgnoresPlaces field.2.1.read := fun field member =>
        field.2.1.ignoresPlaces
      exact ignoresPlaces_record ignores name node
termination_by sizeOf shape
decreasing_by exact sizeOf_field_lt member name

end

-----------------------------------------------------------------------------------------
-- Texts with the same tokens
-----------------------------------------------------------------------------------------

namespace Document

theorem toOption_trailingFault?_placeless (document : Document)
    : (guardFault document.placeless.trailingFault?).toOption
      = (guardFault document.trailingFault?).toOption := by
  cases trailing : document.trailing <;>
    simp [placeless, trailingFault?, trailing, guardFault]

theorem toOption_read_placeless (document : Document)
    : document.placeless.read.toOption = document.read.toOption := by
  have root : document.placeless.root = document.root.placeless := rfl
  simp [read, toOption_bind, toOption_trailingFault?_placeless, root,
    Node.toOption_read_placeless]

theorem toOption_readAs_placeless (shape : Shape) (document : Document)
    : (document.placeless.readAs shape).toOption = (document.readAs shape).toOption := by
  have root : document.placeless.root = document.root.placeless := rfl
  simp [readAs, toOption_bind, toOption_trailingFault?_placeless, root,
    shape.ignoresPlaces document.root]

end Document

/-- Texts whose tokens are the same but for their places hold the same, whether as any value or
by a shape.
-/
theorem decode_eq_of_placeless {text other : Bytes}
    (same : (tokens text).map Token.placeless = (tokens other).map Token.placeless)
    : (decode text).toOption = (decode other).toOption
      ∧ ∀ shape, (decodeAs shape text).toOption = (decodeAs shape other).toOption := by
  have documents : (Document.ofBytes text).placeless = (Document.ofBytes other).placeless := by
    rw [Document.ofBytes, Document.ofBytes, Document.placeless_ofTokens,
      Document.placeless_ofTokens, same]
  refine ⟨?_, fun shape => ?_⟩
  · rw [decode, decode, ← Document.toOption_read_placeless, documents,
      Document.toOption_read_placeless]
  · rw [decodeAs, decodeAs, ← Document.toOption_readAs_placeless, documents,
      Document.toOption_readAs_placeless]

end TaggedConfig.Json
