import TaggedConfig.Proofs.Expansion.Ceiling
import TaggedConfig.Proofs.Tag.Nesting

/-! Values that refer to variables in turn.
Main statement: where every value has a whole tag for a variable, no buffer with such a tag is ever
expanded, since the search for its tags leads to one that is replaced by what such a value is
expanded to.
-/

namespace TaggedConfig

open Run

namespace Tag

/-- The bytes have a whole tag for a variable, on its own or within another tag. -/
def HasVariable (data : Bytes) : Prop :=
  ∃ start stop, OpensAt data .variable start ∧ Closes data (start + openingSize) stop

variable {data : Bytes} {tag : Tag} {offset : Nat}

/-- The openings within a content are its own, of the same kinds. -/
theorem opensAt_content {kind : Kind} (closed : BraceAt data tag.contentStop)
    (within : offset < tag.size) (opens : OpensAt data kind (tag.contentStart + offset))
    : OpensAt (tag.content data) kind offset := by
  obtain ⟨kind', opens'⟩ := (openingAt_content closed within).mp ⟨kind, opens⟩
  have whole : OpensAt data kind' (tag.contentStart + offset) := by
    rw [OpensAt, content, List.drop_take, List.drop_drop] at opens'
    exact opens'.trans (List.take_prefix _ _)
  rwa [opens.unique whole]

/-- A tag for a variable that opens within a content is closed there too. -/
theorem hasVariable_content
    (closes : IsLeast {stop | Closes data tag.contentStart stop} tag.contentStop)
    (after : tag.contentStart ≤ offset) (before : offset < tag.contentStop)
    (opens : OpensAt data .variable offset)
    : HasVariable (tag.content data) := by
  obtain ⟨inside, rfl⟩ := Nat.exists_eq_add_of_le after
  rw [contentStop] at before
  have opens := opensAt_content closes.1.brace (by omega) opens
  obtain ⟨stop, closes⟩ := (balanced_content closes).exists_closes ⟨_, opens⟩
  exact ⟨inside, stop, opens, closes⟩

/-- A tag for a variable that opens in a tag is that tag or stands in its content. -/
theorem kind_eq_or_hasVariable_content (starts : OpensAt data tag.kind tag.start)
    (closes : IsLeast {stop | Closes data tag.contentStart stop} tag.contentStop)
    (after : tag.start ≤ offset) (before : offset < tag.stop)
    (opens : OpensAt data .variable offset)
    : tag.kind = .variable ∨ HasVariable (tag.content data) := by
  rcases Nat.eq_or_lt_of_le after with rfl | later
  · exact .inl (starts.unique opens)
  · have inside : tag.contentStart ≤ offset := by
      by_contra early
      exact (OpeningAt.disjoint ⟨_, starts⟩ later (Nat.not_le.mp early)).1 ⟨_, opens⟩
    have offset_ne : offset ≠ tag.contentStop := by
      rintro rfl
      exact not_openingAt_of_braceAt closes.1.brace ⟨_, opens⟩
    exact .inr (hasVariable_content closes inside (by rw [stop] at before; omega) opens)

end Tag

namespace Cursor

open Tag

/-- Where no tag is left open, the search for tags comes to a whole tag for a variable, by recursion
along the searches: it finds that tag, or one around it, or one before it.
-/
theorem exists_variable (cursor : Cursor) (closed : cursor.segmentation.unclosed = false)
    {start brace : Nat} (after : cursor.position ≤ start)
    (opens : OpensAt cursor.data .variable start)
    (closes : Closes cursor.data (start + openingSize) brace)
    : ∃ segment ∈ cursor.segmentation.segments,
        segment.kind = .variable ∨ HasVariable segment.content := by
  have opening : start ∈ openingsFrom cursor.data cursor.position :=
    ⟨after, Nat.lt_of_le_of_lt closes.le closes.brace.lt_length, .variable, opens⟩
  have scans := cursor.scans_search
  generalize cursor.advance = next at scans
  cases found : cursor.search with
  | exhausted =>
      rw [found] at scans
      cases scans with
      | exhausted none => exact absurd (none ▸ opening) (Set.notMem_empty start)
  | unclosed offset =>
      rw [segmentation_unclosed found] at closed
      contradiction
  | tag tag =>
      rw [found] at scans
      cases scans with
      | tag first kind ends =>
          have shorter : (⟨cursor.data, tag.stop⟩ : Cursor).remaining < cursor.remaining := by
            rw [← advance_tag found]
            exact remaining_advance_lt found
          rw [segmentation_tag found, advance_tag found] at closed ⊢
          have startLe : tag.start ≤ start := first.2 opening
          rcases Nat.lt_or_ge start tag.stop with before | later
          · exact ⟨_, List.mem_cons_self,
              kind_eq_or_hasVariable_content kind ends startLe before opens⟩
          · obtain ⟨segment, member, refers⟩ :=
              exists_variable ⟨cursor.data, tag.stop⟩ closed later opens closes
            exact ⟨segment, List.mem_cons_of_mem _ member, refers⟩
termination_by cursor.remaining

end Cursor

-----------------------------------------------------------------------------------------
-- Expansions
-----------------------------------------------------------------------------------------

/-- From a state with a property the action never succeeds, and it keeps the property. -/
abbrev Run.NeverSucceeds {σ ε α : Type} (P : σ → Prop) (action : ExceptT ε (StateM σ) α) : Prop :=
  Ensures P (fun _ => False) action

/-- Actions for the items of a list do not all succeed if one of them never does, by induction on
the list.
-/
theorem Run.NeverSucceeds.mapM {σ ε α β : Type} {P : σ → Prop} {f : α → ExceptT ε (StateM σ) β}
    {items : List α} (keeps : ∀ item, Keeps P (f item)) {item : α} (member : item ∈ items)
    (never : NeverSucceeds P (f item))
    : NeverSucceeds P (items.mapM f) := by
  induction items with
  | nil => contradiction
  | cons first items ih =>
      rw [List.mapM_cons]
      rcases List.mem_cons.mp member with rfl | later
      · exact never.bind fun _ => False.elim
      · exact (keeps first).bind_ensures fun _ => (ih later).bind fun _ => False.elim

variable {σ : Type} [Host (StateM σ)]

/-- A property of states that an expansion keeps, and from which every value that is looked up has a
whole tag for a variable.
-/
structure Expander.RefersOn (expander : Expander (StateM σ)) (P : σ → Prop) : Prop where
  logged (level : Level) (text : String) : Keeps P (Action.log level text : Action (StateM σ) Unit)
  loaded (descriptor : String) : Keeps P (expander.chain.load expander.context descriptor)
  looked (name : String)
    : Ensures P (fun value => ∀ bytes, value = some bytes → Tag.HasVariable bytes)
        (ExceptT.lift (Host.lookup name) : Action (StateM σ) (Option Bytes))

namespace Expander.RefersOn

variable {expander : Expander (StateM σ)} {P : σ → Prop}

theorem keeps_resolve (refers : expander.RefersOn P) (depth : UInt64) (kind : Tag.Kind)
    (content : Bytes)
    : Keeps P (expander.resolve depth kind content) :=
  ((compositional_keeps P).resolve (fun descriptor => ⟨rfl, refers.loaded descriptor⟩)
    (fun name => ⟨rfl, fun s holds => (refers.looked name s holds).1⟩)
    (fun level text => ⟨rfl, refers.logged level text⟩) depth kind content).2

/-- A variable stands for a value with a tag for a variable. -/
theorem ensures_resolve (refers : expander.RefersOn P) (depth : UInt64) (content : Bytes)
    : Ensures P Tag.HasVariable (expander.resolve depth .variable content) := by
  refine (refers.logged _ _).bind_ensures fun _ => ?_
  unfold lookup
  split
  · exact .throw _
  · refine (refers.looked _).bind fun value has => ?_
    cases value with
    | none => exact .throw _
    | some value =>
        dsimp only
        split
        · exact .throw _
        · exact .pure (has value rfl)

theorem keeps_expandWithin (refers : expander.RefersOn P) (ceiling : UInt64) (levels : Nat)
    (depth : UInt64) (data : Bytes)
    : Keeps P (expandWithin expander.resolve ceiling levels depth data) :=
  ((compositional_keeps P).expandWithin_alike
    (fun depth kind content => ⟨rfl, refers.keeps_resolve depth kind content⟩) ceiling levels depth
    data).2

/-- A buffer with a whole tag for a variable is never expanded, by induction on the levels: the tag,
or the one around it, is replaced by the expansion of bytes with such a tag.
-/
theorem neverSucceeds_expandWithin (refers : expander.RefersOn P) (ceiling : UInt64) (levels : Nat)
    (depth : UInt64) {data : Bytes} (has : Tag.HasVariable data)
    : NeverSucceeds P (expandWithin expander.resolve ceiling levels depth data) := by
  induction levels generalizing depth data with
  | zero => exact .throw _
  | succ levels ih =>
      have keeps := refers.keeps_expandWithin ceiling levels
      have keepsDeeper : Keeps P (deeper depth) := ((compositional_keeps P).deeper depth).2
      have replacementKeeps (kind : Tag.Kind) (raw : Bytes)
          : Keeps P (do
              let next ← deeper depth
              let content ← expandWithin expander.resolve ceiling levels next raw
              let found ← expander.resolve depth kind content
              expandWithin expander.resolve ceiling levels next found) :=
        keepsDeeper.bind fun next => (keeps next raw).bind fun content =>
          (refers.keeps_resolve depth kind content).bind (keeps next)
      have segmentKeeps (segment : Segment) :=
        (replacementKeeps segment.kind segment.content).bind fun replacement =>
          Keeps.pure (segment.literal ++ replacement)
      rw [expandWithin_succ, Segmentation.assemble, Segmentation.assembleAfter]
      cases closed : (Segmentation.ofBytes data).unclosed with
      | true =>
          refine Keeps.bind_ensures ?_ fun _ => .throw _
          exact ((compositional_keeps P).mapM (fun segment => ⟨rfl, segmentKeeps segment⟩) _).2
      | false =>
          obtain ⟨start, brace, opens, closes⟩ := has
          obtain ⟨segment, member, reference⟩ :=
            Cursor.exists_variable (.ofBytes data) closed (Nat.zero_le start) opens closes
          refine (NeverSucceeds.mapM segmentKeeps member ?_).bind fun _ => False.elim
          refine Ensures.bind ?_ fun _ => False.elim
          refine keepsDeeper.bind_ensures fun next => ?_
          rcases reference with kind | inside
          · rw [kind]
            refine (keeps next segment.content).bind_ensures fun content => ?_
            exact (refers.ensures_resolve depth content).bind fun found has => ih next has
          · exact (ih next inside).bind fun _ => False.elim

end Expander.RefersOn

end TaggedConfig
