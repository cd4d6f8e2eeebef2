import TaggedConfig.Json.Record
import TaggedConfig.Proofs.Outcome

/-! Typed decoding of values.
A text that decodes both to a value and by a shape gives the same either way: what a record
takes from a repeated name, an unknown name or an array is what its value holds.
-/

namespace TaggedConfig.Json

open Outcome

-----------------------------------------------------------------------------------------
-- The second way: by a shape from a value
-----------------------------------------------------------------------------------------

/-- The text of a string. -/
def text? : Json → Option String
  | .string text => some text
  | _ => none

mutual

/-- What a value holds by a shape. A record is taken from an object, whose other members do
not matter, or from an array of its fields in order.
-/
def Shape.ofJson? : Shape → Json → Option Datum
  | .text, .string text => some (.text text)
  | .integer type, .number (.integer value) =>
      if type.least ≤ value ∧ value ≤ type.greatest then some (.integer value) else none
  | .double, .number value => some (.double value.toDouble)
  | .texts, .array items => (items.mapM text?).map .texts
  | .record _ fields, .object members => (fieldsOfMembers? members fields).map .record
  | .record _ fields, .array items => (fieldsOfItems? fields items).map .record
  | _, _ => none

/-- The fields of a record from the members of an object. -/
def fieldsOfMembers? (members : List (String × Json))
    : List (String × Shape × Option Datum) → Option (List (String × Datum))
  | [] => some []
  | (name, shape, fallback) :: fields =>
      match members.lookup name with
      | some value => do
          let datum ← shape.ofJson? value
          let others ← fieldsOfMembers? members fields
          some ((name, datum) :: others)
      | none => do
          let datum ← fallback
          let others ← fieldsOfMembers? members fields
          some ((name, datum) :: others)

/-- The fields of a record from the items of an array. Items may be missing where there is a
default, and none may be left over.
-/
def fieldsOfItems?
    : List (String × Shape × Option Datum) → List Json → Option (List (String × Datum))
  | [], [] => some []
  | [], _ :: _ => none
  | (name, shape, _) :: fields, item :: items => do
      let datum ← shape.ofJson? item
      let others ← fieldsOfItems? fields items
      some ((name, datum) :: others)
  | (name, _, fallback) :: fields, [] => do
      let datum ← fallback
      let others ← fieldsOfItems? fields []
      some ((name, datum) :: others)

end

mutual

/-- Whether no record of the shape names a field twice. -/
def Shape.isProper : Shape → Bool
  | .record _ fields => decide (fields.map Prod.fst).Nodup && areProper fields
  | _ => true

def areProper : List (String × Shape × Option Datum) → Bool
  | [] => true
  | (_, shape, _) :: fields => shape.isProper && areProper fields

end

theorem isProper_of_mem {fields : List (String × Shape × Option Datum)} (proper : areProper fields)
    {field : String × Shape × Option Datum} (member : field ∈ fields)
    : field.2.1.isProper := by
  induction fields with
  | nil => simp at member
  | cons first fields ih =>
      simp only [areProper, Bool.and_eq_true] at proper
      rcases List.mem_cons.mp member with rfl | later
      · exact proper.1
      · exact ih proper.2 later

-----------------------------------------------------------------------------------------
-- Members of an object by name
-----------------------------------------------------------------------------------------

theorem lookup_cons_eq_ite {β : Type} (name other : String) (b : β) (entries : List (String × β))
    : ((name, b) :: entries).lookup other
      = if other = name then some b else entries.lookup other := by
  rw [List.lookup_cons]
  by_cases same : other = name
  · rw [if_pos same, beq_iff_eq.mpr same]
  · rw [if_neg same, beq_eq_false_iff_ne.mpr same]

/-- A member put into an object is found under its name, and the others are still there. -/
theorem lookup_insertMember (name other : String) (value : Json) (members : List (String × Json))
    : (insertMember name value members).lookup other
      = if other = name then some value else members.lookup other := by
  induction members with
  | nil => exact lookup_cons_eq_ite name other value []
  | cons member members ih =>
      obtain ⟨first, old⟩ := member
      unfold insertMember
      split
      · exact lookup_cons_eq_ite name other value _
      · split
        · rename_i equal
          simp only [lookup_cons_eq_ite, equal]
          split <;> rfl
        · rename_i differ
          rw [lookup_cons_eq_ite, ih, lookup_cons_eq_ite]
          by_cases same : other = name
          · rw [if_pos same, if_pos same, if_neg (same ▸ differ)]
          · rw [if_neg same, if_neg same]

theorem fieldReader_eq (name : String) (fields : List (String × Shape × Option Datum))
    : fieldReader name fields = (fields.lookup name).map fun field => field.1.read := by
  induction fields with
  | nil => rfl
  | cons field fields ih =>
      obtain ⟨other, shape, fallback⟩ := field
      rw [fieldReader, lookup_cons_eq_ite]
      by_cases same : name = other
      · rw [if_pos same, if_pos same]
        rfl
      · rw [if_neg same, if_neg same, ih]

/-- In a list without repeated names each entry is the one found under its name. -/
theorem lookup_of_mem_of_nodup {β : Type} {entries : List (String × β)}
    (distinct : (entries.map Prod.fst).Nodup) {name : String} {b : β}
    (member : (name, b) ∈ entries)
    : entries.lookup name = some b := by
  induction entries with
  | nil => simp at member
  | cons entry entries ih =>
      obtain ⟨other, b'⟩ := entry
      obtain ⟨absent, distinct⟩ := List.nodup_cons.mp distinct
      rw [lookup_cons_eq_ite]
      rcases List.mem_cons.mp member with same | later
      · obtain ⟨rfl, rfl⟩ := Prod.mk.inj same
        rw [if_pos rfl]
      · have differ : name ≠ other := by
          rintro rfl
          exact absent (List.mem_map.mpr ⟨_, later, rfl⟩)
        rw [if_neg differ, ih distinct later]

-----------------------------------------------------------------------------------------
-- Scalars and lists of texts
-----------------------------------------------------------------------------------------

theorem Node.wrongType_ne_ok {α : Type} (expected : String) (node : Node) (a : α)
    : node.wrongType expected ≠ .ok a := by
  cases node <;> simp [wrongType, bind_eq_ok]

variable {room : Nat} {node : Node} {value : Json}

theorem Node.readText_eq_ok {text : String} (generic : node.read room = .ok value)
    (typed : node.readText = .ok text)
    : value = .string text := by
  cases node with
  | string lexeme =>
      obtain ⟨read, known, rfl⟩ := map_eq_ok.mp generic
      rw [Node.readText, known] at typed
      rw [Except.ok.inj typed]
  | _ =>
      unfold Node.readText at typed
      exact absurd typed (Node.wrongType_ne_ok _ _ _)

theorem Node.readInteger_eq_ok {type : IntegerType} {i : Int}
    (generic : node.read room = .ok value) (typed : node.readInteger type = .ok i)
    : value = .number (.integer i) ∧ type.least ≤ i ∧ i ≤ type.greatest := by
  cases node with
  | scalar lexeme =>
      obtain ⟨scalar, known, rfl⟩ := map_eq_ok.mp generic
      obtain ⟨same, again, fits⟩ := bind_eq_ok.mp typed
      obtain rfl := Except.ok.inj (known.symm.trans again)
      split at fits
      · split at fits
        · rename_i bounds
          obtain rfl := Except.ok.inj fits
          exact ⟨rfl, bounds⟩
        · contradiction
      · exact absurd fits (Node.wrongType_ne_ok _ _ _)
  | _ =>
      unfold Node.readInteger at typed
      exact absurd typed (Node.wrongType_ne_ok _ _ _)

theorem Node.readDouble_eq_ok {double : Double} (generic : node.read room = .ok value)
    (typed : node.readDouble = .ok double)
    : ∃ number : Number, value = .number number ∧ number.toDouble = double := by
  cases node with
  | scalar lexeme =>
      obtain ⟨scalar, known, rfl⟩ := map_eq_ok.mp generic
      obtain ⟨same, again, fits⟩ := bind_eq_ok.mp typed
      obtain rfl := Except.ok.inj (known.symm.trans again)
      split at fits
      · exact ⟨_, rfl, Except.ok.inj fits⟩
      · exact absurd fits (Node.wrongType_ne_ok _ _ _)
  | _ =>
      unfold Node.readDouble at typed
      exact absurd typed (Node.wrongType_ne_ok _ _ _)

/-- The value of an array is the list of the values of its items. -/
theorem Node.read_array_eq_ok {start : Nat} {items : List Node} {ending : Ending}
    (generic : (Node.array start items ending).read room = .ok value)
    : ∃ values, readItems (room - 1) items = .ok values ∧ value = .array values := by
  rw [Node.read] at generic
  split at generic
  · contradiction
  · obtain ⟨values, known, rest⟩ := bind_eq_ok.mp generic
    obtain ⟨-, -, whole⟩ := bind_eq_ok.mp rest
    exact ⟨values, known, (Except.ok.inj whole).symm⟩

/-- The value of an object has the values of its members, sorted and without repetitions. -/
theorem Node.read_object_eq_ok {start : Nat} {members : List (Name × Node)} {ending : Ending}
    (generic : (Node.object start members ending).read room = .ok value)
    : ∃ values, readMembers (room - 1) members = .ok values ∧ value = .ofMembers values := by
  rw [Node.read] at generic
  split at generic
  · contradiction
  · obtain ⟨values, known, rest⟩ := bind_eq_ok.mp generic
    obtain ⟨-, -, whole⟩ := bind_eq_ok.mp rest
    exact ⟨values, known, (Except.ok.inj whole).symm⟩

/-- The values of an array of strings are these strings, by induction on the items. -/
theorem mapM_readText_eq_ok {items : List Node} {values : List Json} {texts : List String}
    (generic : readItems room items = .ok values) (typed : items.mapM Node.readText = .ok texts)
    : values.mapM text? = some texts := by
  induction items generalizing values texts with
  | nil =>
      obtain rfl := Except.ok.inj generic
      obtain rfl := Except.ok.inj typed
      rfl
  | cons item items ih =>
      rw [List.mapM_cons] at typed
      obtain ⟨value, first, rest⟩ := bind_eq_ok.mp generic
      obtain ⟨others, later, whole⟩ := bind_eq_ok.mp rest
      obtain rfl := Except.ok.inj whole
      obtain ⟨text, firstTyped, restTyped⟩ := bind_eq_ok.mp typed
      obtain ⟨laterTexts, laterTyped, wholeTyped⟩ := bind_eq_ok.mp restTyped
      obtain rfl := Except.ok.inj wholeTyped
      obtain rfl := Node.readText_eq_ok first firstTyped
      rw [List.mapM_cons, ih later laterTyped]
      rfl

theorem Node.readTexts_eq_ok {texts : List String} (generic : node.read room = .ok value)
    (typed : node.readTexts = .ok texts)
    : ∃ values, value = .array values ∧ values.mapM text? = some texts := by
  cases node with
  | array start items ending =>
      obtain ⟨values, known, rfl⟩ := Node.read_array_eq_ok generic
      obtain ⟨read, items, rest⟩ := bind_eq_ok.mp typed
      obtain ⟨-, -, whole⟩ := bind_eq_ok.mp rest
      obtain rfl := Except.ok.inj whole
      exact ⟨values, rfl, mapM_readText_eq_ok known items⟩
  | _ =>
      unfold Node.readTexts at typed
      exact absurd typed (Node.wrongType_ne_ok _ _ _)

-----------------------------------------------------------------------------------------
-- Records
-----------------------------------------------------------------------------------------

/-- A shape whose typed reading of a node agrees with what the value of the node holds. -/
def Shape.Faithful (shape : Shape) : Prop :=
  ∀ {room node value datum},
    Node.read room node = .ok value →
      shape.read node = .ok datum → shape.ofJson? value = some datum

/-- The members that were put into an object and the fields that were found for a record, name
by name: neither, or a value that holds the datum.
-/
def FieldsAgree (fields : List (String × Shape × Option Datum)) (members : List (String × Json))
    (found : List (String × Datum))
    : Prop :=
  ∀ name field,
    fields.lookup name = some field →
      (members.lookup name = none ∧ found.lookup name = none)
      ∨ ∃ value datum,
          members.lookup name = some value
          ∧ found.lookup name = some datum
          ∧ field.1.ofJson? value = some datum

variable {fields : List (String × Shape × Option Datum)}

/-- A member of a field agrees with the field, and takes the place of an earlier one in both. -/
theorem FieldsAgree.insert {members : List (String × Json)} {found : List (String × Datum)}
    (agree : FieldsAgree fields members found) {name : String} {value : Json} {datum : Datum}
    (holds : ∀ field, fields.lookup name = some field → field.1.ofJson? value = some datum)
    : FieldsAgree fields (insertMember name value members) ((name, datum) :: found) := by
  intro other field known
  rw [lookup_insertMember, lookup_cons_eq_ite]
  by_cases same : other = name
  · rw [if_pos same, if_pos same]
    exact Or.inr ⟨value, datum, rfl, rfl, holds field (same ▸ known)⟩
  · rw [if_neg same, if_neg same]
    exact agree other field known

/-- A member that no field is named after changes nothing. -/
theorem FieldsAgree.skip {members : List (String × Json)} {found : List (String × Datum)}
    (agree : FieldsAgree fields members found) {name : String} {value : Json}
    (unknown : fields.lookup name = none)
    : FieldsAgree fields (insertMember name value members) found := by
  intro other field known
  have differ : other ≠ name := by
    rintro rfl
    rw [unknown] at known
    contradiction
  rw [lookup_insertMember, if_neg differ]
  exact agree other field known

/-- The fields found among members agree with the object of their values, by induction on the
members.
-/
theorem fieldsAgree_of_readFields (faithful : ∀ field ∈ fields, field.2.1.Faithful)
    {ending : Ending} {nodes : List (Name × Node)} {values members : List (String × Json)}
    {found known : List (String × Datum)} (agree : FieldsAgree fields members known)
    (generic : readMembers room nodes = .ok values)
    (typed : readFields (fun name => fieldReader name fields) ending known nodes = .ok found)
    : FieldsAgree fields
        (values.foldl (fun sorted (name, value) => insertMember name value sorted) members)
        found := by
  induction nodes generalizing values members known with
  | nil =>
      obtain rfl := Except.ok.inj generic
      obtain ⟨-, -, same⟩ := bind_eq_ok.mp typed
      obtain rfl := Except.ok.inj same
      exact agree
  | cons entry nodes ih =>
      obtain ⟨name, node⟩ := entry
      obtain ⟨key, named, generic⟩ := bind_eq_ok.mp generic
      obtain ⟨-, -, generic⟩ := bind_eq_ok.mp generic
      obtain ⟨value, read, generic⟩ := bind_eq_ok.mp generic
      obtain ⟨others, later, whole⟩ := bind_eq_ok.mp generic
      obtain rfl := Except.ok.inj whole
      obtain ⟨sameKey, namedAgain, typed⟩ := bind_eq_ok.mp typed
      obtain rfl := Except.ok.inj (named.symm.trans namedAgain)
      rw [List.foldl_cons]
      simp only [fieldReader_eq] at typed ih
      cases field : fields.lookup key with
      | none =>
          -- a name without a field is passed over
          rw [field] at typed
          obtain ⟨-, -, typed⟩ := bind_eq_ok.mp typed
          obtain ⟨-, -, typed⟩ := bind_eq_ok.mp typed
          exact ih (agree.skip field) later typed
      | some field' =>
          rw [field] at typed
          dsimp only [Option.map_some] at typed
          split at typed
          -- a field that is named twice is refused
          · contradiction
          · obtain ⟨-, -, typed⟩ := bind_eq_ok.mp typed
            obtain ⟨datum, readTyped, typed⟩ := bind_eq_ok.mp typed
            refine ih (agree.insert ?_) later typed
            intro other same
            obtain rfl := Option.some.inj (field.symm.trans same)
            obtain ⟨before, after, split, -⟩ := List.lookup_eq_some_iff.mp field
            exact faithful (key, field') (by simp [split]) read readTyped

/-- Fields that agree with the members of an object complete a record alike, by induction on
the fields of the record.
-/
theorem fieldsOfMembers?_of_completeFields {stop : Nat} {members : List (String × Json)}
    {found record : List (String × Datum)} (agree : FieldsAgree fields members found)
    {asked : List (String × Shape × Option Datum)}
    (listed : ∀ field ∈ asked, fields.lookup field.1 = some field.2)
    (typed : completeFields stop found asked = .ok record)
    : fieldsOfMembers? members asked = some record := by
  induction asked generalizing record with
  | nil =>
      obtain rfl := Except.ok.inj typed
      rfl
  | cons field others ih =>
      obtain ⟨name, shape, fallback⟩ := field
      rw [List.forall_mem_cons] at listed
      rw [completeFields] at typed
      rw [fieldsOfMembers?]
      rcases agree name _ listed.1 with
        ⟨noMember, notFound⟩ | ⟨value, datum, member, present, holds⟩
      · rw [noMember]
        rw [notFound] at typed
        cases fallback with
        | none => contradiction
        | some datum =>
            obtain ⟨later, completed, whole⟩ := bind_eq_ok.mp typed
            obtain rfl := Except.ok.inj whole
            simp [ih listed.2 completed]
      · rw [member]
        rw [present] at typed
        obtain ⟨later, completed, whole⟩ := bind_eq_ok.mp typed
        obtain rfl := Except.ok.inj whole
        simp only at holds
        simp [holds, ih listed.2 completed]

/-- The elements of an array give the fields of a record that its values hold, by induction on
the fields.
-/
theorem fieldsOfItems?_of_readElements (faithful : ∀ field ∈ fields, field.2.1.Faithful)
    {expected : String} {ending : Ending} {count : Nat} {items : List Node} {values : List Json}
    {record : List (String × Datum)} (generic : readItems room items = .ok values)
    (typed : readElements expected ending count fields items = .ok record)
    : fieldsOfItems? fields values = some record := by
  induction fields generalizing count items values record with
  | nil =>
      cases items with
      | nil =>
          obtain rfl := Except.ok.inj generic
          obtain ⟨-, -, whole⟩ := bind_eq_ok.mp typed
          obtain rfl := Except.ok.inj whole
          rfl
      | cons item items => contradiction
  | cons field fields ih =>
      obtain ⟨name, shape, fallback⟩ := field
      rw [List.forall_mem_cons] at faithful
      cases items with
      | nil =>
          obtain rfl := Except.ok.inj generic
          cases fallback with
          | none =>
              rw [readElements] at typed
              obtain ⟨-, -, thrown⟩ := bind_eq_ok.mp typed
              contradiction
          | some datum =>
              rw [readElements] at typed
              obtain ⟨-, -, typed⟩ := bind_eq_ok.mp typed
              obtain ⟨later, completed, whole⟩ := bind_eq_ok.mp typed
              obtain rfl := Except.ok.inj whole
              rw [fieldsOfItems?]
              simp [ih faithful.2 rfl completed]
      | cons item items =>
          obtain ⟨value, read, generic⟩ := bind_eq_ok.mp generic
          obtain ⟨others, laterRead, whole⟩ := bind_eq_ok.mp generic
          obtain rfl := Except.ok.inj whole
          rw [readElements] at typed
          obtain ⟨datum, readTyped, typed⟩ := bind_eq_ok.mp typed
          obtain ⟨later, completed, whole⟩ := bind_eq_ok.mp typed
          obtain rfl := Except.ok.inj whole
          have holds := faithful.1 read readTyped
          simp only at holds
          rw [fieldsOfItems?]
          simp [holds, ih faithful.2 laterRead completed]

/-- A record of faithful fields without repeated names is faithful: its object or array gives
the same fields on both ways.
-/
theorem Shape.faithful_record {name : String} (distinct : (fields.map Prod.fst).Nodup)
    (faithful : ∀ field ∈ fields, field.2.1.Faithful)
    : (Shape.record name fields).Faithful := by
  intro room node value datum generic typed
  cases node with
  | array start items ending =>
      obtain ⟨values, known, rfl⟩ := Node.read_array_eq_ok generic
      rw [Shape.read] at typed
      obtain ⟨record, elements, whole⟩ := bind_eq_ok.mp typed
      obtain rfl := Except.ok.inj whole
      rw [Shape.ofJson?, fieldsOfItems?_of_readElements faithful known elements]
      rfl
  | object start members ending =>
      obtain ⟨values, known, rfl⟩ := Node.read_object_eq_ok generic
      rw [Shape.read] at typed
      obtain ⟨found, gathered, rest⟩ := bind_eq_ok.mp typed
      obtain ⟨record, completed, whole⟩ := bind_eq_ok.mp rest
      obtain rfl := Except.ok.inj whole
      have start : FieldsAgree fields [] [] := fun _ _ _ => Or.inl ⟨rfl, rfl⟩
      have agree := fieldsAgree_of_readFields faithful start known gathered
      have listed : ∀ field ∈ fields, fields.lookup field.1 = some field.2 :=
        fun _ member => lookup_of_mem_of_nodup distinct member
      rw [ofMembers, Shape.ofJson?, fieldsOfMembers?_of_completeFields agree listed completed]
      rfl
  | _ =>
      simp only [Shape.read] at typed
      exact absurd typed (Node.wrongType_ne_ok _ _ _)

theorem Shape.sizeOf_field_lt {field : String × Shape × Option Datum} (member : field ∈ fields)
    (name : String)
    : sizeOf field.2.1 < sizeOf (Shape.record name fields) := by
  have smaller := List.sizeOf_lt_of_mem member
  obtain ⟨key, shape, fallback⟩ := field
  simp only [Prod.mk.sizeOf_spec, Shape.record.sizeOf_spec] at smaller ⊢
  omega

/-- A shape without repeated field names reads from a node what the value of the node holds, by
recursion on the shape.
-/
theorem Shape.faithful (shape : Shape) (proper : shape.isProper) : shape.Faithful := by
  intro room node value datum generic typed
  match shape with
  | .text =>
      rw [Shape.read] at typed
      obtain ⟨text, read, rfl⟩ := map_eq_ok.mp typed
      rw [Node.readText_eq_ok generic read, Shape.ofJson?]
  | .integer type =>
      rw [Shape.read] at typed
      obtain ⟨i, read, rfl⟩ := map_eq_ok.mp typed
      obtain ⟨rfl, bounds⟩ := Node.readInteger_eq_ok generic read
      rw [Shape.ofJson?, if_pos bounds]
  | .double =>
      rw [Shape.read] at typed
      obtain ⟨double, read, rfl⟩ := map_eq_ok.mp typed
      obtain ⟨number, rfl, rfl⟩ := Node.readDouble_eq_ok generic read
      rw [Shape.ofJson?]
  | .texts =>
      rw [Shape.read] at typed
      obtain ⟨texts, read, rfl⟩ := map_eq_ok.mp typed
      obtain ⟨values, rfl, same⟩ := Node.readTexts_eq_ok generic read
      rw [Shape.ofJson?, same, Option.map_some]
  | .record name fields =>
      simp only [Shape.isProper, Bool.and_eq_true, decide_eq_true_eq] at proper
      have faithful : ∀ field ∈ fields, field.2.1.Faithful := fun field member =>
        field.2.1.faithful (isProper_of_mem proper.2 member)
      exact faithful_record proper.1 faithful generic typed
termination_by sizeOf shape
decreasing_by exact sizeOf_field_lt member name

/-- A text that decodes to a value and by a shape decodes by the shape to what the value holds. -/
theorem ofJson?_of_decode {shape : Shape} (proper : shape.isProper) {text : Bytes} {value : Json}
    {datum : Datum} (generic : decode text = .ok value) (typed : decodeAs shape text = .ok datum)
    : shape.ofJson? value = some datum := by
  obtain ⟨root, read, rest⟩ := bind_eq_ok.mp generic
  obtain ⟨-, -, same⟩ := bind_eq_ok.mp rest
  obtain rfl := Except.ok.inj same
  obtain ⟨held, readTyped, rest⟩ := bind_eq_ok.mp typed
  obtain ⟨-, -, same⟩ := bind_eq_ok.mp rest
  obtain rfl := Except.ok.inj same
  exact shape.faithful proper read readTyped

end TaggedConfig.Json
