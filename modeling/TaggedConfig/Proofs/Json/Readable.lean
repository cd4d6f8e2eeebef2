import TaggedConfig.Proofs.Json.Breaking

/-! The values that JSON texts have.
Their integers are of 64 bits, their objects name each member once and in order, and no more
brackets stand open around a part than reading allows.
-/

namespace TaggedConfig.Json

/-- A number that is kept as it is: an integer is one of 64 bits. -/
def Number.Kept : Number → Prop
  | .integer value => leastInteger ≤ value ∧ value ≤ greatestInteger
  | .double _ => True

/-- A value that can be read with room for so many more levels of nesting. -/
inductive Readable : Nat → Json → Prop
  | null {room} : Readable room .null
  | bool {room value} : Readable room (.bool value)
  | number {room number} (kept : number.Kept) : Readable room (.number number)
  | string {room text} : Readable room (.string text)
  | array {room items} (parts : ∀ item ∈ items, Readable room item)
    : Readable (room + 1) (.array items)
  | object {room members} (sorted : (members.map Prod.fst).Pairwise (· < ·))
    (parts : ∀ member ∈ members, Readable room member.2)
    : Readable (room + 1) (.object members)

/-- More room does no harm, by induction on what is read. -/
theorem Readable.mono {room more : Nat} {value : Json} (readable : Readable room value)
    (within : room ≤ more)
    : Readable more value := by
  induction readable generalizing more with
  | null => exact .null
  | bool => exact .bool
  | number kept => exact .number kept
  | string => exact .string
  | array _ ih =>
      obtain ⟨more, rfl⟩ := Nat.exists_eq_succ_of_ne_zero (Nat.ne_zero_of_lt within)
      exact .array fun item member => ih item member (Nat.le_of_succ_le_succ within)
  | object sorted _ ih =>
      obtain ⟨more, rfl⟩ := Nat.exists_eq_succ_of_ne_zero (Nat.ne_zero_of_lt within)
      exact .object sorted fun item member => ih item member (Nat.le_of_succ_le_succ within)

/-- What is found under a name of a readable value is readable. -/
theorem Readable.member {room : Nat} {value found : Json} {name : String}
    (readable : Readable room value) (known : value.member? name = some found)
    : Readable room found := by
  cases readable with
  | object sorted parts =>
      obtain ⟨before, after, rfl, -⟩ := List.lookup_eq_some_iff.mp known
      exact (parts (name, found) (by simp)).mono (Nat.le_succ _)
  | null | bool | number | string | array => contradiction

-----------------------------------------------------------------------------------------
-- Members in order
-----------------------------------------------------------------------------------------

/-- A member put into its place is a member, and so are only those that were there before. -/
theorem mem_insertMember {name : String} {value : Json} {members : List (String × Json)}
    {member : String × Json} (inside : member ∈ insertMember name value members)
    : member = (name, value) ∨ member ∈ members := by
  induction members with
  | nil => exact Or.inl (List.mem_singleton.mp inside)
  | cons first members ih =>
      unfold insertMember at inside
      split at inside
      · exact List.mem_cons.mp inside
      · split at inside <;> rcases List.mem_cons.mp inside with rfl | inside
        · exact Or.inl rfl
        · exact Or.inr (List.mem_cons_of_mem _ inside)
        · exact Or.inr List.mem_cons_self
        · exact (ih inside).imp_right (List.mem_cons_of_mem _)

/-- A member put into its place leaves the members in order. -/
theorem sorted_insertMember {name : String} {value : Json} {members : List (String × Json)}
    (sorted : (members.map Prod.fst).Pairwise (· < ·))
    : ((insertMember name value members).map Prod.fst).Pairwise (· < ·) := by
  induction members with
  | nil => simp [insertMember]
  | cons first members ih =>
      obtain ⟨least, later⟩ := List.pairwise_cons.mp sorted
      unfold insertMember
      split
      · rename_i before
        refine List.pairwise_cons.mpr ⟨fun other member => ?_, sorted⟩
        rcases List.mem_cons.mp member with rfl | member
        · exact before
        · exact String.lt_trans before (least other member)
      · split
        · rename_i same
          exact List.pairwise_cons.mpr ⟨fun other member => same ▸ least other member, later⟩
        · rename_i notBefore differ
          refine List.pairwise_cons.mpr ⟨fun other member => ?_, ih later⟩
          obtain ⟨entry, inside, rfl⟩ := List.mem_map.mp member
          rcases mem_insertMember inside with rfl | inside
          · grind
          · exact least _ (List.mem_map_of_mem inside)

/-- A member whose name comes after all others is put at the end. -/
theorem insertMember_of_last {name : String} {value : Json} {members : List (String × Json)}
    (last : ∀ member ∈ members, member.1 < name)
    : insertMember name value members = members ++ [(name, value)] := by
  induction members with
  | nil => rfl
  | cons first members ih =>
      obtain ⟨before, last⟩ := List.forall_mem_cons.mp last
      have notBefore : ¬ name < first.1 := fun after =>
        String.lt_irrefl _ (String.lt_trans before after)
      have differ : name ≠ first.1 := fun same => String.lt_irrefl _ (same ▸ before)
      rw [insertMember, if_neg notBefore, if_neg differ, ih last, List.cons_append]

/-- Members that follow others in order are put at their end one by one, by induction on them. -/
theorem foldl_insertMember_of_sorted {before members : List (String × Json)}
    (sorted : ((before ++ members).map Prod.fst).Pairwise (· < ·))
    : members.foldl (fun sorted (name, value) => insertMember name value sorted) before
      = before ++ members := by
  induction members generalizing before with
  | nil => simp
  | cons member members ih =>
      obtain ⟨name, value⟩ := member
      have last : ∀ earlier ∈ before, earlier.1 < name := by
        intro earlier inside
        rw [List.map_append] at sorted
        exact (List.pairwise_append.mp sorted).2.2 _ (List.mem_map_of_mem inside) _ (by simp)
      have split : before ++ (name, value) :: members = before ++ [(name, value)] ++ members := by
        simp
      rw [split] at sorted ⊢
      rw [List.foldl_cons]
      simp only [insertMember_of_last last]
      exact ih sorted

theorem ofMembers_of_sorted {members : List (String × Json)}
    (sorted : (members.map Prod.fst).Pairwise (· < ·))
    : ofMembers members = .object members :=
  congrArg Json.object (foldl_insertMember_of_sorted sorted)

/-- Readable members put among others leave a readable object, by induction on them. -/
theorem readable_foldl_insertMember {room : Nat} {before members : List (String × Json)}
    (sorted : (before.map Prod.fst).Pairwise (· < ·))
    (readable : ∀ member ∈ before, Readable room member.2)
    (parts : ∀ member ∈ members, Readable room member.2)
    : Readable (room + 1)
        (.object
          (members.foldl (fun sorted (name, value) => insertMember name value sorted) before)) := by
  induction members generalizing before with
  | nil => exact .object sorted readable
  | cons member members ih =>
      obtain ⟨first, parts⟩ := List.forall_mem_cons.mp parts
      refine ih (sorted_insertMember sorted) ?_ parts
      intro other inside
      rcases mem_insertMember inside with rfl | inside
      · exact first
      · exact readable other inside

theorem readable_ofMembers {room : Nat} {members : List (String × Json)}
    (parts : ∀ member ∈ members, Readable room member.2)
    : Readable (room + 1) (ofMembers members) :=
  readable_foldl_insertMember .nil nofun parts

-----------------------------------------------------------------------------------------
-- Numbers of a text
-----------------------------------------------------------------------------------------

namespace Numeral

/-- Digits are appended only as long as the number stays within the limit. -/
theorem absorb_le {limit n : Nat} (within : n ≤ limit) (ds : List Nat)
    : (absorb limit n ds).1 ≤ limit := by
  induction ds generalizing n with
  | nil => exact within
  | cons d ds ih =>
      unfold absorb
      split
      · rename_i further
        exact ih further
      · exact within

theorem kept_of_value {numeral : Numeral} {number : Number} (h : numeral.value = .ok number)
    : number.Kept := by
  have within := absorb_le (Nat.zero_le significandLimit) numeral.whole
  simp only [value] at h
  split at h
  · cases sign : numeral.negative with
    | false =>
        simp only [sign, Bool.false_and, Bool.false_eq_true, if_false] at h
        rw [← Except.ok.inj h]
        simp only [Number.Kept, significandLimit, UInt64.size, leastInteger, greatestInteger] at *
        omega
    | true =>
        simp only [sign, Bool.true_and, if_true] at h
        split at h
        · exact Except.ok.inj h ▸ trivial
        · rename_i bounds
          rw [← Except.ok.inj h]
          simp only [Bool.or_eq_true, decide_eq_true_eq, not_or] at bounds
          simp only [Number.Kept, leastInteger, greatestInteger] at *
          omega
  · -- Whatever else is read is a floating-point number.
    repeat' split at h
    all_goals first | contradiction | exact Except.ok.inj h ▸ trivial

end Numeral

-----------------------------------------------------------------------------------------
-- Trees of a text
-----------------------------------------------------------------------------------------

/-- A word or numeral that reads as no number but one that is kept. -/
def Lexeme.Keeps (lexeme : Lexeme Scalar) : Prop :=
  ∀ number, lexeme.reading = .ok (.number number) → number.Kept

def Token.Keeps : Token → Prop
  | .scalar lexeme => lexeme.Keeps
  | .mark _ _ | .string _ | .stray _ | .finish _ => True

/-- A tree whose numbers are kept and that has everything but parts that were not reached. -/
inductive Node.Keeps : Node → Prop
  | scalar {lexeme} (keeps : lexeme.Keeps) : Node.Keeps (.scalar lexeme)
  | string {lexeme} : Node.Keeps (.string lexeme)
  | array {start items ending} (parts : ∀ item ∈ items, Node.Keeps item)
    : Node.Keeps (.array start items ending)
  | object {start members ending} (parts : ∀ member ∈ members, Node.Keeps member.2)
    : Node.Keeps (.object start members ending)
  | cut : Node.Keeps .cut

theorem Token.keeps_begun (offset : Nat) (b : UInt8) (rest : Bytes)
    : (Token.begun offset b rest).Keeps := by
  unfold Token.begun
  split
  · trivial
  · split
    · trivial
    · split
      · intro number reading
        unfold Lexeme.ofNumeral at reading
        split at reading
        · contradiction
        · contradiction
        · simp only at reading
          split at reading
          · rename_i known
            obtain rfl := Scalar.number.inj (Except.ok.inj reading)
            exact Numeral.kept_of_value known
          · contradiction
      · split
        · rename_i word value known
          intro number reading
          obtain ⟨-, -, rfl⟩ := Outcome.map_eq_ok.mp reading
          grind [wordOf?]
        · trivial

theorem Token.keeps_of_mem_tokensFrom {offset : Nat} {bytes : Bytes} {token : Token}
    (member : token ∈ tokensFrom offset bytes)
    : token.Keeps := by
  rcases exists_begun_of_mem member with ⟨start, b, rest, rfl⟩ | ⟨stop, rfl⟩
  · exact keeps_begun start b rest
  · trivial

namespace Document

def Frame.Keeps : Frame → Prop
  | .array _ items => ∀ item ∈ items, item.Keeps
  | .object _ members | .member _ members _ => ∀ member ∈ members, member.2.Keeps

/-- A state from which no value comes any more or whose numbers so far are kept. -/
def State.Keeps : State → Prop
  | .building frames _ => ∀ frame ∈ frames, frame.Keeps
  | .complete root => root.Keeps
  | .followed _ _ | .broken _ => True

theorem Frame.Keeps.close {frame : Frame} (keeps : frame.Keeps) (ending : Ending)
    : (frame.close ending).Keeps := by
  cases frame with
  | array start items => exact .array fun item inside => keeps item (List.mem_reverse.mp inside)
  | object start members =>
      exact .object fun member inside => keeps member (List.mem_reverse.mp inside)
  | member start members name =>
      refine .object fun member inside => ?_
      rcases List.mem_append.mp inside with inside | inside
      · exact keeps member (List.mem_reverse.mp inside)
      · rw [List.mem_singleton.mp inside]
        exact .cut

theorem Frame.Keeps.add {frame : Frame} (keeps : frame.Keeps) {node : Node} (part : node.Keeps)
    : (frame.add node).Keeps := by
  cases frame with
  | array start items => exact List.forall_mem_cons.mpr ⟨part, keeps⟩
  | object start members => exact keeps
  | member start members name => exact List.forall_mem_cons.mpr ⟨part, keeps⟩

section

variable {frames : List Frame}

theorem State.keeps_put {node : Node} (part : node.Keeps)
    (around : ∀ frame ∈ frames, frame.Keeps)
    : State.Keeps (.put node frames) := by
  cases frames with
  | nil => exact part
  | cons frame frames =>
      obtain ⟨inner, outer⟩ := List.forall_mem_cons.mp around
      exact List.forall_mem_cons.mpr ⟨inner.add part, outer⟩

theorem State.keeps_breakEnding (ending : Ending) (frames : List Frame)
    : State.Keeps (.breakEnding ending frames) := by
  cases frames <;> trivial

theorem keeps_stepValue {token : Token} (keeps : token.Keeps)
    (around : ∀ frame ∈ frames, frame.Keeps)
    : (stepValue frames token).Keeps := by
  unfold stepValue
  split
  · split
    · exact State.keeps_put (.scalar keeps) around
    · trivial
  · split
    · exact State.keeps_put .string around
    · trivial
  · exact List.forall_mem_cons.mpr ⟨List.forall_mem_nil _, around⟩
  · exact List.forall_mem_cons.mpr ⟨List.forall_mem_nil _, around⟩
  all_goals trivial

theorem keeps_stepName (first : Bool) (token : Token) (around : ∀ frame ∈ frames, frame.Keeps)
    : (stepName first frames token).Keeps := by
  unfold stepName
  split
  · split
    · exact around
    · trivial
    · exact State.keeps_breakEnding _ _
  · exact State.keeps_breakEnding _ _
  · split
    · obtain ⟨inner, outer⟩ := List.forall_mem_cons.mp around
      exact State.keeps_put (inner.close _) outer
    · exact State.keeps_breakEnding _ _
  · exact State.keeps_breakEnding _ _

theorem keeps_stepColon (lexeme : Lexeme String) (token : Token)
    (around : ∀ frame ∈ frames, frame.Keeps)
    : (stepColon lexeme frames token).Keeps := by
  unfold stepColon
  split
  · split
    · obtain ⟨inner, outer⟩ := List.forall_mem_cons.mp around
      exact List.forall_mem_cons.mpr ⟨inner, outer⟩
    all_goals trivial
  · exact State.keeps_breakEnding _ _

theorem keeps_stepSeparator (token : Token) (around : ∀ frame ∈ frames, frame.Keeps)
    : (stepSeparator frames token).Keeps := by
  unfold stepSeparator
  split
  · exact around
  · exact around
  · obtain ⟨inner, outer⟩ := List.forall_mem_cons.mp around
    exact State.keeps_put (inner.close _) outer
  · obtain ⟨inner, outer⟩ := List.forall_mem_cons.mp around
    exact State.keeps_put (inner.close _) outer
  · exact State.keeps_breakEnding _ _
  · exact State.keeps_breakEnding _ _

end

/-- The next token brings no number into the tree but one that is kept. -/
theorem State.Keeps.step {state : State} (keeps : state.Keeps) {token : Token}
    (kept : token.Keeps)
    : (state.step token).Keeps := by
  unfold State.step
  split
  · split
    · obtain ⟨inner, outer⟩ := List.forall_mem_cons.mp keeps
      exact State.keeps_put (inner.close _) outer
    · exact State.keeps_breakEnding _ _
    · exact State.keeps_breakEnding _ _
    · exact keeps_stepValue kept keeps
    · exact keeps_stepValue kept keeps
    · exact keeps_stepValue kept keeps
    · exact keeps_stepName _ _ keeps
    · exact keeps_stepName _ _ keeps
    · exact keeps_stepColon _ _ keeps
    · exact keeps_stepSeparator _ keeps
  · exact keeps
  · trivial
  · exact keeps

theorem State.Keeps.foldl {state : State} (keeps : state.Keeps) {tokens : List Token}
    (kept : ∀ token ∈ tokens, token.Keeps)
    : (tokens.foldl State.step state).Keeps := by
  induction tokens generalizing state with
  | nil => exact keeps
  | cons token tokens ih =>
      obtain ⟨first, later⟩ := List.forall_mem_cons.mp kept
      exact ih (keeps.step first) later

end Document

-----------------------------------------------------------------------------------------
-- Values of a text
-----------------------------------------------------------------------------------------

/-- The values of items are read one by one. -/
theorem exists_of_readItems {room : Nat} {items : List Node} {values : List Json}
    (h : readItems room items = .ok values)
    : ∀ value ∈ values, ∃ item ∈ items, item.read room = .ok value := by
  induction items generalizing values with
  | nil =>
      obtain rfl := Except.ok.inj h
      exact nofun
  | cons item items ih =>
      obtain ⟨value, first, h⟩ := Outcome.bind_eq_ok.mp h
      obtain ⟨later, others, h⟩ := Outcome.bind_eq_ok.mp h
      obtain rfl := Except.ok.inj h
      refine List.forall_mem_cons.mpr ⟨⟨item, List.mem_cons_self, first⟩, fun value inside => ?_⟩
      obtain ⟨item', inside', read⟩ := ih others value inside
      exact ⟨item', List.mem_cons_of_mem _ inside', read⟩

theorem exists_of_readMembers {room : Nat} {members : List (Name × Node)}
    {values : List (String × Json)} (h : readMembers room members = .ok values)
    : ∀ value ∈ values, ∃ member ∈ members, member.2.read room = .ok value.2 := by
  induction members generalizing values with
  | nil =>
      obtain rfl := Except.ok.inj h
      exact nofun
  | cons member members ih =>
      obtain ⟨key, -, h⟩ := Outcome.bind_eq_ok.mp h
      obtain ⟨-, -, h⟩ := Outcome.bind_eq_ok.mp h
      obtain ⟨value, first, h⟩ := Outcome.bind_eq_ok.mp h
      obtain ⟨later, others, h⟩ := Outcome.bind_eq_ok.mp h
      obtain rfl := Except.ok.inj h
      refine List.forall_mem_cons.mpr ⟨⟨member, List.mem_cons_self, first⟩, fun value inside => ?_⟩
      obtain ⟨member', inside', read⟩ := ih others value inside
      exact ⟨member', List.mem_cons_of_mem _ inside', read⟩

/-- What a tree of kept numbers reads as is readable, by induction on the tree. -/
theorem Node.Keeps.readable {node : Node} (keeps : node.Keeps) {room : Nat} {value : Json}
    (h : node.read room = .ok value)
    : Readable room value := by
  induction keeps generalizing room value with
  | @scalar lexeme keeps =>
      obtain ⟨scalar, reading, rfl⟩ := Outcome.map_eq_ok.mp h
      cases scalar with
      | null => exact .null
      | bool => exact .bool
      | number number => exact .number (keeps number reading)
  | string =>
      obtain ⟨text, -, rfl⟩ := Outcome.map_eq_ok.mp h
      exact .string
  | cut => simp [Node.read] at h
  | array _ ih =>
      cases room with
      | zero => simp [Node.read] at h
      | succ room =>
          obtain ⟨values, read, h⟩ := Outcome.bind_eq_ok.mp h
          obtain ⟨-, -, h⟩ := Outcome.bind_eq_ok.mp h
          obtain rfl := Except.ok.inj h
          refine .array fun value inside => ?_
          obtain ⟨item, inside', read'⟩ := exists_of_readItems read value inside
          exact ih item inside' read'
  | object _ ih =>
      cases room with
      | zero => simp [Node.read] at h
      | succ room =>
          obtain ⟨values, read, h⟩ := Outcome.bind_eq_ok.mp h
          obtain ⟨-, -, h⟩ := Outcome.bind_eq_ok.mp h
          obtain rfl := Except.ok.inj h
          refine readable_ofMembers fun value inside => ?_
          obtain ⟨member, inside', read'⟩ := exists_of_readMembers read value inside
          exact ih member inside' read'

/-- What a text decodes to is readable within the limit on nesting. -/
theorem readable_of_decode {text : Bytes} {value : Json} (h : decode text = .ok value)
    : Readable nestingLimit value := by
  have start : Document.State.Keeps (.building [] .value) := List.forall_mem_nil _
  have sane : ((tokens text).foldl Document.State.step (.building [] .value)).Sane :=
    (Document.State.sane_building [] .value).foldl fun _ => honest_of_mem_tokensFrom
  have keeps : ((tokens text).foldl Document.State.step (.building [] .value)).Keeps :=
    start.foldl fun _ => Token.keeps_of_mem_tokensFrom
  obtain ⟨root, whole, read⟩ := sane.complete_of_read h
  rw [whole] at keeps
  exact Node.Keeps.readable keeps read

end TaggedConfig.Json
