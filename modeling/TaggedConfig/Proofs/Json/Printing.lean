import TaggedConfig.Proofs.Json.Spelling

/-! Printed values are read back.
Wherever a value may stand, the tokens of its compact text make up the value, and building goes
on with what comes after the text.
-/

namespace TaggedConfig.Json

/-- A value whose numbers are integers. -/
inductive Integral : Json → Prop
  | null : Integral .null
  | bool {value} : Integral (.bool value)
  | number {value} : Integral (.number (.integer value))
  | string {text} : Integral (.string text)
  | array {items} (parts : ∀ item ∈ items, Integral item) : Integral (.array items)
  | object {members} (parts : ∀ member ∈ members, Integral member.2)
    : Integral (.object members)

theorem breaks_cons {b : UInt8} (outside : b ∈ outer) (rest : Bytes) : Breaks (b :: rest) := by
  intro c first
  exact Option.some.inj first ▸ outside

-----------------------------------------------------------------------------------------
-- One token after another
-----------------------------------------------------------------------------------------

namespace Document

/-- The state to which the tokens of the bytes at an offset lead. -/
def State.after (state : State) (offset : Nat) (bytes : Bytes) : State :=
  (tokensFrom offset bytes).foldl State.step state

section

variable {state : State} {offset : Nat} {rest : Bytes}

theorem State.after_token {b : UInt8} {bytes : Bytes} {token : Token} (noSpace : isSpace b = false)
    (begins : Token.begun offset b (bytes ++ rest) = token)
    (stops : token.stop? = some (offset + (b :: bytes).length))
    : state.after offset (b :: bytes ++ rest)
      = (state.step token).after (offset + (b :: bytes).length) rest := by
  have taken : offset + (b :: bytes).length - offset - 1 = bytes.length := by
    rw [List.length_cons]
    omega
  unfold State.after
  rw [List.cons_append, tokensFrom]
  simp only [noSpace, Bool.false_eq_true, if_false, begins, stops, taken, List.drop_left,
    List.foldl_cons]

theorem State.after_mark {b : UInt8} {mark : Mark} (known : Mark.ofByte? b = some mark)
    : state.after offset (b :: rest)
      = (state.step (.mark mark offset)).after (offset + 1) rest := by
  have noSpace := isSpace_eq_false_of_mark (known ▸ rfl : (Mark.ofByte? b).isSome)
  have begins : Token.begun offset b ([] ++ rest) = .mark mark offset := by
    simp [Token.begun, known]
  exact State.after_token noSpace begins rfl

theorem State.after_string (text : String)
    : state.after offset (Utf8.encode (stringText text) ++ rest)
      = (state.step
            (.string
              ⟨offset, offset + (Utf8.encode (stringText text)).length, .ok text, .ok ()⟩)).after
          (offset + (Utf8.encode (stringText text)).length) rest := by
  have lexeme := Lexeme.ofQuoted_reads (Quoted.reads_escaped text) offset rest
  rw [encode_stringText]
  generalize Utf8.encode (String.ofList (text.toList.flatMap escapedChar)) = body at lexeme
  have size : offset + (byte '"' :: (body ++ [byte '"'])).length = offset + body.length + 2 := by
    rw [List.length_cons, List.length_append, List.length_singleton]
    rfl
  have begins
      : Token.begun offset (byte '"') (body ++ [byte '"'] ++ rest)
        = .string ⟨offset, offset + body.length + 2, .ok text, .ok ()⟩ := by
    rw [List.append_assoc, List.singleton_append, ← lexeme]
    rfl
  rw [← size] at begins
  exact State.after_token (by decide) begins rfl

theorem State.after_word {b : UInt8} {tail : Bytes} {word : String} {scalar : Scalar}
    (known : wordOf? b = some (word, scalar)) (letters : ascii word = b :: tail)
    : state.after offset (ascii word ++ rest)
      = (state.step
            (.scalar ⟨offset, offset + (ascii word).length, .ok scalar, .ok ()⟩)).after
          (offset + (ascii word).length) rest := by
  have inner : b ∉ outer := wordOf?_inner known b (letters ▸ List.mem_cons_self)
  have noNumeral : (decide (b = byte '-') || isDigit b) = false := by
    unfold wordOf? at known
    repeat' split at known
    all_goals first | contradiction | (subst b; decide)
  have matched : matchWord offset (ascii word) (b :: (tail ++ rest)) = .ok () := by
    apply matchWord_eq_ok.mpr
    rw [letters, ← List.cons_append]
    exact List.prefix_append _ _
  obtain ⟨-, size, length, bytes⟩ := wordOf?_letters known
  have begins
      : Token.begun offset b (tail ++ rest)
        = .scalar ⟨offset, offset + (ascii word).length, .ok scalar, .ok ()⟩ := by
    simp only [Token.begun_inner inner, noNumeral, known, Lexeme.ofWord, matched, length, bytes]
    rfl
  rw [letters] at begins ⊢
  exact State.after_token (isSpace_eq_false_of_inner inner) begins rfl

theorem State.after_integer {i : Int} (kept : (Number.integer i).Kept) (breaks : Breaks rest)
    : state.after offset (Utf8.encode (toString i) ++ rest)
      = (state.step
            (.scalar
              ⟨offset, offset + (Utf8.encode (toString i)).length, .ok (.number (.integer i)),
                .ok ()⟩)).after
          (offset + (Utf8.encode (toString i)).length) rest := by
  have lexeme := Lexeme.ofNumeral_toString kept breaks offset
  obtain ⟨b, tail, written, numeral⟩ := exists_toString i
  have inner : b ∉ outer := by
    intro outside
    rcases Bool.or_eq_true_iff.mp numeral with minus | digit
    · exact absurd outside (of_decide_eq_true minus ▸ by decide)
    · exact absurd digit (by simp [outer_not_digit b outside])
  rw [written] at lexeme ⊢
  have begins := Token.begun_inner inner offset (tail ++ rest)
  rw [numeral, if_pos rfl, ← List.cons_append, lexeme] at begins
  exact State.after_token (isSpace_eq_false_of_inner inner) begins rfl

end

-----------------------------------------------------------------------------------------
-- Parts of an array or object
-----------------------------------------------------------------------------------------

theorem length_enclosed (offset : Nat) (first last : UInt8) (bytes : Bytes)
    : offset + (first :: (bytes ++ [last])).length = offset + 1 + bytes.length + 1 := by
  rw [List.length_cons, List.length_append, List.length_singleton]
  omega

/-- A value may come next. -/
def Stage.TakesValue (stage : Stage) : Prop :=
  stage = .value ∨ stage = .firstItem ∨ stage = .nextItem

/-- A name may come next. -/
def Stage.TakesName (stage : Stage) : Prop := stage = .firstName ∨ stage = .nextName

/-- Where a value may stand, the bytes make up a tree that reads as the value, unless what comes
after them goes on in a word or numeral.
-/
def Prints (room : Nat) (bytes : Bytes) (value : Json) : Prop :=
  ∀ offset rest,
    Breaks rest →
      ∃ node : Node,
        node.read room = .ok value
        ∧ ∀ frames stage,
            Stage.TakesValue stage →
              State.after (.building frames stage) offset (bytes ++ rest)
              = State.after (.put node frames) (offset + bytes.length) rest

section

variable {α β : Type} (frame : List β → Frame) (Takes : Stage → Prop)

/-- Where a part of an array or object may stand, the bytes add a part to it. -/
def Adds (Reads : β → Prop) (bytes : Bytes) : Prop :=
  ∀ offset rest,
    Breaks rest →
      ∃ part,
        Reads part
        ∧ ∀ done frames stage,
            Takes stage →
              State.after (.building (frame done :: frames) stage) offset (bytes ++ rest)
              = State.after (.building (frame (part :: done) :: frames) .separator)
                  (offset + bytes.length) rest

/-- Parts with commas between them are added one by one, by induction on them. -/
theorem adds_parts {written : α → Bytes} {Reads : β → α → Prop} {next : Stage} (takes : Takes next)
    (comma
      : ∀ done frames offset,
          State.step (.building (frame done :: frames) .separator) (.mark .comma offset)
          = .building (frame done :: frames) next)
    {values : List α}
    (each : ∀ value ∈ values, Adds frame Takes (Reads · value) (written value))
    (filled : values ≠ []) {offset : Nat} {rest : Bytes} (breaks : Breaks rest)
    : ∃ parts,
        List.Forall₂ Reads parts values
        ∧ ∀ done frames stage,
            Takes stage →
              State.after (.building (frame done :: frames) stage) offset
                ([byte ','].intercalate (values.map written) ++ rest)
              = State.after (.building (frame (parts.reverse ++ done) :: frames) .separator)
                  (offset + ([byte ','].intercalate (values.map written)).length) rest := by
  induction values generalizing offset with
  | nil => contradiction
  | cons value values ih =>
      obtain ⟨first, later⟩ := List.forall_mem_cons.mp each
      cases values with
      | nil =>
          obtain ⟨part, reads, adds⟩ := first offset rest breaks
          refine ⟨[part], .cons reads .nil, ?_⟩
          intro done frames stage takes
          rw [List.map_singleton, List.intercalate_singleton]
          exact adds done frames stage takes
      | cons following values =>
          have split
              : [byte ','].intercalate ((value :: following :: values).map written)
                = written value
                  ++ byte ',' :: [byte ','].intercalate ((following :: values).map written) := by
            rw [List.map_cons, List.map_cons, List.intercalate_cons_cons, List.append_assoc]
            rfl
          rw [split]
          generalize [byte ','].intercalate ((following :: values).map written) = bytes at ih
          obtain ⟨part, reads, adds⟩ :=
            first offset (byte ',' :: (bytes ++ rest)) (breaks_cons (by decide) _)
          obtain ⟨parts, others, more⟩ :=
            @ih later (by simp) (offset + (written value).length + 1)
          refine ⟨part :: parts, .cons reads others, ?_⟩
          intro done frames stage takes'
          calc
            _ = State.after (.building (frame (part :: done) :: frames) .separator)
                  (offset + (written value).length) (byte ',' :: (bytes ++ rest)) := by
              rw [List.append_assoc, List.cons_append, adds done frames stage takes']
            _ = State.after (.building (frame (part :: done) :: frames) next)
                  (offset + (written value).length + 1) (bytes ++ rest) := by
              rw [State.after_mark (rfl : Mark.ofByte? (byte ',') = some .comma), comma]
            _ = State.after (.building (frame (parts.reverse ++ part :: done) :: frames) .separator)
                  (offset + (written value).length + 1 + bytes.length) rest :=
              more (part :: done) frames next takes
            _ = _ := by
              rw [List.reverse_cons, List.append_assoc, List.singleton_append, List.length_append,
                List.length_cons]
              congr 1
              omega

/-- Parts with commas between them and a bracket after them are those of the whole. -/
theorem encloses_parts {written : α → Bytes} {Reads : β → α → Prop} {first next : Stage}
    (takesFirst : Takes first) (takesNext : Takes next)
    (comma
      : ∀ done frames offset,
          State.step (.building (frame done :: frames) .separator) (.mark .comma offset)
          = .building (frame done :: frames) next)
    {bracket : UInt8} {closing : Mark} (known : Mark.ofByte? bracket = some closing)
    (closes
      : ∀ done frames offset stage,
          stage = first ∨ stage = .separator →
            State.step (.building (frame done :: frames) stage) (.mark closing offset)
            = .put ((frame done).close (.closed (offset + 1))) frames)
    {values : List α}
    (each : ∀ value ∈ values, Adds frame Takes (Reads · value) (written value))
    (offset : Nat) (rest : Bytes)
    : ∃ parts stop,
        List.Forall₂ Reads parts values
        ∧ ∀ frames,
            State.after (.building (frame [] :: frames) first) offset
              ([byte ','].intercalate (values.map written) ++ bracket :: rest)
            = State.after (.put ((frame parts.reverse).close (.closed stop)) frames)
                (offset + ([byte ','].intercalate (values.map written)).length + 1) rest := by
  have outside : bracket ∈ outer := mem_outer_of_mark (known ▸ rfl)
  by_cases filled : values = []
  · subst filled
    refine ⟨[], offset + 1, .nil, ?_⟩
    intro frames
    exact (State.after_mark known).trans (by rw [closes _ _ _ _ (Or.inl rfl)]; rfl)
  · obtain ⟨parts, reads, adds⟩ :=
      adds_parts frame Takes takesNext comma each filled (breaks_cons outside rest)
    refine ⟨parts, offset + ([byte ','].intercalate (values.map written)).length + 1, reads, ?_⟩
    intro frames
    rw [adds [] frames first takesFirst, State.after_mark known, closes _ _ _ _ (Or.inr rfl),
      List.append_nil]

end

theorem readItems_of_forall₂ {room : Nat} {nodes : List Node} {items : List Json}
    (reads : List.Forall₂ (fun node item => node.read room = .ok item) nodes items)
    : readItems room nodes = .ok items := by
  induction reads with
  | nil => rfl
  | cons first _ ih => simp [readItems, first, ih]

/-- A member of a tree that reads as the member of an object. -/
structure MemberReads (room : Nat) (part : Name × Node) (member : String × Json) : Prop where
  name : part.1.lexeme.reading = .ok member.1
  colon : part.1.follow.fault? = none
  value : part.2.read room = .ok member.2

theorem readMembers_of_forall₂ {room : Nat} {parts : List (Name × Node)}
    {members : List (String × Json)} (reads : List.Forall₂ (MemberReads room) parts members)
    : readMembers room parts = .ok members := by
  induction reads with
  | nil => rfl
  | cons first _ ih => simp [readMembers, first.name, first.colon, first.value, guardFault, ih]

-----------------------------------------------------------------------------------------
-- Values where they may stand
-----------------------------------------------------------------------------------------

namespace Prints

variable {room : Nat}

theorem ofScalar {bytes : Bytes} {scalar : Scalar}
    (reads
      : ∀ (state : State) offset rest,
          Breaks rest →
            state.after offset (bytes ++ rest)
            = (state.step (.scalar ⟨offset, offset + bytes.length, .ok scalar, .ok ()⟩)).after
                (offset + bytes.length) rest)
    : Prints room bytes scalar.toJson := by
  intro offset rest breaks
  refine ⟨.scalar ⟨offset, offset + bytes.length, .ok scalar, .ok ()⟩, rfl, ?_⟩
  intro frames stage takes
  rw [reads _ offset rest breaks]
  rcases takes with rfl | rfl | rfl <;> rfl

theorem word {b : UInt8} {tail : Bytes} {word : String} {scalar : Scalar}
    (known : wordOf? b = some (word, scalar)) (letters : ascii word = b :: tail)
    : Prints room (ascii word) scalar.toJson :=
  ofScalar fun _ _ _ _ => State.after_word known letters

theorem string (text : String) : Prints room (Utf8.encode (stringText text)) (.string text) := by
  intro offset rest _
  refine ⟨.string ⟨offset, offset + (Utf8.encode (stringText text)).length, .ok text, .ok ()⟩,
    rfl, ?_⟩
  intro frames stage takes
  rw [State.after_string]
  rcases takes with rfl | rfl | rfl <;> rfl

theorem array {items : List Json}
    (parts : ∀ item ∈ items, Prints room (Utf8.encode item.text) item)
    : Prints (room + 1) (Utf8.encode (Json.array items).text) (.array items) := by
  intro offset rest breaks
  have each (item : Json) (member : item ∈ items)
      : Adds (Frame.array offset) Stage.TakesValue (fun node => node.read room = .ok item)
          (Utf8.encode item.text) := by
    intro start rest breaks
    obtain ⟨node, read, builds⟩ := parts item member start rest breaks
    exact ⟨node, read, fun done frames => builds (.array offset done :: frames)⟩
  obtain ⟨nodes, stop, reads, encloses⟩ :=
    encloses_parts (Frame.array offset) Stage.TakesValue (Or.inr (Or.inl rfl))
      (Or.inr (Or.inr rfl)) (fun _ _ _ => rfl) (rfl : Mark.ofByte? (byte ']') = some .endArray)
      (by rintro done frames start stage (rfl | rfl) <;> rfl) each (offset + 1) rest
  refine ⟨.array offset nodes (.closed stop), ?_, ?_⟩
  · simp [Node.read, readItems_of_forall₂ reads, Ending.arrayFault?, guardFault]
  · intro frames stage takes
    have begin
        : State.step (.building frames stage) (.mark .beginArray offset)
          = .building (.array offset [] :: frames) .firstItem := by
      rcases takes with rfl | rfl | rfl <;> rfl
    rw [encode_array, length_enclosed, List.cons_append, List.append_assoc, List.singleton_append,
      State.after_mark (rfl : Mark.ofByte? (byte '[') = some .beginArray), begin, encloses frames,
      Frame.close, List.reverse_reverse]

/-- A name, a colon and a value add a member to an object. -/
theorem adds {value : Json} (prints : Prints room (Utf8.encode value.text) value) (name : String)
    (start : Nat)
    : Adds (Frame.object start) Stage.TakesName (MemberReads room · (name, value))
        (memberBytes (name, value)) := by
  intro offset rest breaks
  have written
      : memberBytes (name, value) ++ rest
        = Utf8.encode (stringText name) ++ byte ':' :: (Utf8.encode value.text ++ rest) := by
    simp [memberBytes]
  have size
      : offset + (memberBytes (name, value)).length
        = offset + (Utf8.encode (stringText name)).length + 1
          + (Utf8.encode value.text).length := by
    simp only [memberBytes, List.length_append, List.length_cons]
    omega
  rw [written, size]
  generalize colon : offset + (Utf8.encode (stringText name)).length = stop
  obtain ⟨node, read, builds⟩ := prints (stop + 1) rest breaks
  refine ⟨(⟨⟨offset, stop, .ok name, .ok ()⟩, .colon stop⟩, node), ⟨rfl, rfl, read⟩, ?_⟩
  intro done frames stage takes
  calc
    _ = State.after
          (.building (.object start done :: frames) (.colon ⟨offset, stop, .ok name, .ok ()⟩))
          stop (byte ':' :: (Utf8.encode value.text ++ rest)) := by
      rw [State.after_string, colon]
      rcases takes with rfl | rfl <;> rfl
    _ = State.after
          (.building
            (.member start done ⟨⟨offset, stop, .ok name, .ok ()⟩, .colon stop⟩ :: frames) .value)
          (stop + 1) (Utf8.encode value.text ++ rest) := by
      rw [State.after_mark (rfl : Mark.ofByte? (byte ':') = some .colon)]
      rfl
    _ = _ := builds _ .value (Or.inl rfl)

theorem object {members : List (String × Json)}
    (sorted : (members.map Prod.fst).Pairwise (· < ·))
    (parts : ∀ member ∈ members, Prints room (Utf8.encode member.2.text) member.2)
    : Prints (room + 1) (Utf8.encode (Json.object members).text) (.object members) := by
  intro offset rest breaks
  obtain ⟨nodes, stop, reads, encloses⟩ :=
    encloses_parts (Frame.object offset) Stage.TakesName (Or.inl rfl) (Or.inr rfl)
      (fun _ _ _ => rfl) (rfl : Mark.ofByte? (byte '\x7d') = some .endObject)
      (by rintro done frames start stage (rfl | rfl) <;> rfl)
      (fun member inside => (parts member inside).adds member.1 offset) (offset + 1) rest
  refine ⟨.object offset nodes (.closed stop), ?_, ?_⟩
  · simp [Node.read, readMembers_of_forall₂ reads, Ending.objectFault?, guardFault,
      ofMembers_of_sorted sorted]
  · intro frames stage takes
    have begin
        : State.step (.building frames stage) (.mark .beginObject offset)
          = .building (.object offset [] :: frames) .firstName := by
      rcases takes with rfl | rfl | rfl <;> rfl
    rw [encode_object, length_enclosed, List.cons_append, List.append_assoc, List.singleton_append,
      State.after_mark (rfl : Mark.ofByte? (byte '\x7b') = some .beginObject), begin,
      encloses frames, Frame.close, List.reverse_reverse]

end Prints

/-- Every readable value whose numbers are integers is printed as itself, by induction on it. -/
theorem prints_text {room : Nat} {value : Json} (readable : Readable room value)
    (integral : value.Integral)
    : Prints room (Utf8.encode value.text) value := by
  induction readable with
  | null => exact .word (rfl : wordOf? (byte 'n') = some ("null", .null)) rfl
  | @bool _ value =>
      cases value with
      | false => exact .word (rfl : wordOf? (byte 'f') = some ("false", .bool false)) rfl
      | true => exact .word (rfl : wordOf? (byte 't') = some ("true", .bool true)) rfl
  | number kept =>
      cases integral with
      | number => exact .ofScalar fun _ _ _ breaks => State.after_integer kept breaks
  | string => exact .string _
  | array _ ih =>
      cases integral with
      | array integers => exact .array fun item member => ih item member (integers item member)
  | object sorted _ ih =>
      cases integral with
      | object integers =>
          exact .object sorted fun member inside => ih member inside (integers member inside)

end Document

/-- The compact text of a readable value whose numbers are integers decodes to the value. -/
theorem decode_text {value : Json} (readable : Readable nestingLimit value)
    (integral : value.Integral)
    : decode (Utf8.encode value.text) = .ok value := by
  obtain ⟨node, read, builds⟩ := Document.prints_text readable integral 0 [] nofun
  have whole
      : (tokens (Utf8.encode value.text)).foldl Document.State.step (.building [] .value)
        = .complete node := by
    have built := builds [] .value (Or.inl rfl)
    rw [List.append_nil] at built
    refine built.trans ?_
    rw [Document.State.after, tokensFrom]
    rfl
  rw [decode, Document.ofBytes, Document.ofTokens, whole]
  simp [Document.State.document, Document.read, Document.trailingFault?, read, guardFault]

end TaggedConfig.Json
