import Mathlib
import TaggedConfig.Proofs.Tag.Segments

/-! Splices that move bytes about, followed byte by byte.
Marks tell equal bytes apart, so a stretch of a buffer is found again where splices carry it,
and it is lost as soon as one of them overlaps it.
-/

namespace TaggedConfig

-----------------------------------------------------------------------------------------
-- Splices on sequences of any items
-----------------------------------------------------------------------------------------

/-- The number of bytes of a tag, from its dollar sign to its closing brace. -/
def Tag.extent (tag : Tag) : Nat := openingSize + tag.size + 1

theorem Tag.stop_eq (tag : Tag) : tag.stop = tag.start + tag.extent := by
  simp only [Tag.stop, Tag.contentStop, Tag.contentStart, Tag.extent]
  omega

/-- A splice: the tag whose bytes are replaced, and what takes their place. -/
structure Edit where
  tag : Tag
  replacement : Bytes
  deriving DecidableEq, Repr

namespace Edit

variable {α : Type} {edit : Edit} {items inserted before own after : List α} {place : Nat}

/-- The items with those in the range of the tag replaced. -/
def apply (edit : Edit) (inserted items : List α) : List α :=
  items.take edit.tag.start ++ inserted ++ items.drop edit.tag.stop

/-- Where a stretch of `size` items from `place` on begins after the splice: where it did if
it lies before the tag, shifted if it lies after the tag, nowhere if they overlap.
-/
def carry? (edit : Edit) (size place : Nat) : Option Nat :=
  if place + size ≤ edit.tag.start then some place
  else if edit.tag.stop ≤ place then
    some (edit.tag.start + edit.replacement.length + (place - edit.tag.stop))
  else none

theorem map_apply {β : Type} (f : α → β) (edit : Edit) (inserted items : List α)
    : (edit.apply inserted items).map f = edit.apply (inserted.map f) (items.map f) := by
  simp only [apply, List.map_append, List.map_take, List.map_drop]

/-- What is left of the items around a splice keeps its order. -/
theorem remainder_sublist (edit : Edit) (items : List α)
    : (items.take edit.tag.start ++ items.drop edit.tag.stop).Sublist items := by
  have startLe : edit.tag.start ≤ edit.tag.stop := by
    rw [edit.tag.stop_eq]
    exact Nat.le_add_right _ _
  have later : (items.drop edit.tag.stop).Sublist (items.drop edit.tag.start) := by
    rw [show edit.tag.stop = edit.tag.start + (edit.tag.stop - edit.tag.start) by omega,
      ← List.drop_drop]
    exact List.drop_sublist _ _
  have whole := (List.Sublist.refl (items.take edit.tag.start)).append later
  rwa [List.take_append_drop] at whole

/-- A stretch that the splice does not touch is found where it is carried to. -/
theorem apply_of_carry {place' : Nat} (sized : inserted.length = edit.replacement.length)
    (carried : edit.carry? own.length place = some place') (placed : before.length = place)
    : ∃ before' after',
        edit.apply inserted (before ++ own ++ after) = before' ++ own ++ after'
        ∧ before'.length = place' := by
  subst placed
  unfold carry? at carried
  split at carried
  · rename_i ahead
    obtain rfl := Option.some.inj carried
    have taken
        : (before ++ own ++ after).take edit.tag.start
          = before ++ own ++ after.take (edit.tag.start - (before ++ own).length) := by
      rw [List.take_append, List.take_of_length_le]
      rwa [List.length_append]
    refine ⟨before, after.take (edit.tag.start - (before ++ own).length)
      ++ inserted ++ (before ++ own ++ after).drop edit.tag.stop, ?_, rfl⟩
    rw [apply, taken]
    simp only [List.append_assoc]
  · split at carried
    · rename_i behind
      obtain rfl := Option.some.inj carried
      have startLe : edit.tag.start ≤ before.length := by
        rw [edit.tag.stop_eq] at behind
        omega
      have taken : (before ++ own ++ after).take edit.tag.start = before.take edit.tag.start := by
        rw [List.append_assoc, List.take_append_of_le_length startLe]
      have dropped
          : (before ++ own ++ after).drop edit.tag.stop
            = before.drop edit.tag.stop ++ own ++ after := by
        rw [List.append_assoc, List.drop_append_of_le_length behind, List.append_assoc]
      refine ⟨before.take edit.tag.start ++ inserted ++ before.drop edit.tag.stop, after, ?_, ?_⟩
      · rw [apply, taken, dropped]
        simp only [List.append_assoc]
      · simp only [List.length_append, List.length_take, List.length_drop, sized,
          Nat.min_eq_left startLe]
    · contradiction

end Edit

-----------------------------------------------------------------------------------------
-- Bytes that can be told apart
-----------------------------------------------------------------------------------------

/-- A byte, with its offset in an earlier buffer if it stood there already. -/
abbrev MarkedByte := UInt8 × Option Nat

namespace MarkedByte

/-- The bytes of a buffer, each marked with its offset. -/
def ofBuffer (data : Bytes) : List MarkedByte := data.zipIdx.map fun (b, i) => (b, some i)

/-- Bytes that come into a buffer later. -/
def ofReplacement (replacement : Bytes) : List MarkedByte := replacement.map fun b => (b, none)

/-- No byte of the earlier buffer occurs twice. -/
def Distinct (items : List MarkedByte) : Prop :=
  items.Pairwise fun first second => first.2.isSome → first ≠ second

theorem map_ofBuffer (data : Bytes) : (ofBuffer data).map Prod.fst = data := by
  rw [ofBuffer, List.map_map]
  exact List.zipIdx_map_fst 0 data

theorem map_ofReplacement (replacement : Bytes)
    : (ofReplacement replacement).map Prod.fst = replacement := by
  simp [ofReplacement, Function.comp_def]

theorem length_ofReplacement (replacement : Bytes)
    : (ofReplacement replacement).length = replacement.length :=
  List.length_map _

theorem isSome_of_mem_ofBuffer {data : Bytes} {item : MarkedByte} (member : item ∈ ofBuffer data)
    : item.2.isSome := by
  obtain ⟨⟨b, i⟩, -, rfl⟩ := List.mem_map.mp member
  rfl

theorem not_isSome_of_mem_ofReplacement {replacement : Bytes} {item : MarkedByte}
    (member : item ∈ ofReplacement replacement)
    : ¬ item.2.isSome := by
  obtain ⟨b, -, rfl⟩ := List.mem_map.mp member
  simp

theorem distinct_ofBuffer (data : Bytes) : Distinct (ofBuffer data) := by
  rw [Distinct, List.pairwise_iff_getElem]
  intro i j hi hj before _ same
  have offsets := congrArg Prod.snd same
  simp only [ofBuffer, List.getElem_map, List.getElem_zipIdx, Option.some.injEq] at offsets
  omega

/-- A splice brings no byte of the earlier buffer in. -/
theorem mem_of_mem_apply {edit : Edit} {items : List MarkedByte} {item : MarkedByte}
    (marked : item.2.isSome) (member : item ∈ edit.apply (ofReplacement edit.replacement) items)
    : item ∈ items.take edit.tag.start ++ items.drop edit.tag.stop := by
  simp only [Edit.apply, List.mem_append] at member ⊢
  rcases member with (early | inserted) | late
  · exact Or.inl early
  · exact absurd marked (not_isSome_of_mem_ofReplacement inserted)
  · exact Or.inr late

theorem Distinct.apply {items : List MarkedByte} (distinct : Distinct items) (edit : Edit)
    : Distinct (edit.apply (ofReplacement edit.replacement) items) := by
  have rest := List.Pairwise.sublist (edit.remainder_sublist items) distinct
  obtain ⟨early, late, across⟩ := List.pairwise_append.mp rest
  have fresh : Distinct (ofReplacement edit.replacement) := by
    refine List.Pairwise.imp_of_mem ?_ (List.pairwise_of_forall fun _ _ => trivial)
    intro first second member _ _ marked
    exact absurd marked (not_isSome_of_mem_ofReplacement member)
  refine List.pairwise_append.mpr ⟨List.pairwise_append.mpr ⟨early, fresh, ?_⟩, late, ?_⟩
  · intro first _ second member marked same
    exact not_isSome_of_mem_ofReplacement member (same ▸ marked)
  · intro first member second later marked
    rcases List.mem_append.mp member with kept | inserted
    · exact across first kept second later marked
    · exact absurd marked (not_isSome_of_mem_ofReplacement inserted)

/-- Bytes that can be told apart stand in one place only. -/
theorem Distinct.place_unique {own before after before' after' : List MarkedByte}
    (distinct : Distinct (before ++ own ++ after))
    (same : before ++ own ++ after = before' ++ own ++ after') (nonempty : own ≠ [])
    (marked : ∀ item ∈ own, item.2.isSome)
    : before.length = before'.length := by
  obtain ⟨head, tail, rfl⟩ := List.exists_cons_of_ne_nil nonempty
  have first : (before ++ head :: tail ++ after)[before.length]? = some head := by simp
  have second : (before ++ head :: tail ++ after)[before'.length]? = some head := by
    rw [same]
    simp
  obtain ⟨inFirst, atFirst⟩ := List.getElem?_eq_some_iff.mp first
  obtain ⟨inSecond, atSecond⟩ := List.getElem?_eq_some_iff.mp second
  have apart := List.pairwise_iff_getElem.mp distinct
  have markedHead := marked head (by simp)
  rcases Nat.lt_trichotomy before.length before'.length with less | equal | greater
  · exact absurd (atFirst.trans atSecond.symm)
      (apart _ _ inFirst inSecond less (by rwa [atFirst]))
  · exact equal
  · exact absurd (atSecond.trans atFirst.symm)
      (apart _ _ inSecond inFirst greater (by rwa [atSecond]))

/-- A stretch that the splice overlaps loses a byte: the first one that is in both. -/
theorem exists_lost {edit : Edit} {before own after : List MarkedByte}
    (distinct : Distinct (before ++ own ++ after))
    (within : edit.tag.stop ≤ (before ++ own ++ after).length) (nonempty : own ≠ [])
    (marked : ∀ item ∈ own, item.2.isSome)
    (overlapping : edit.carry? own.length before.length = none)
    : ∃ item ∈ own,
        item ∉ edit.apply (ofReplacement edit.replacement) (before ++ own ++ after) := by
  have positive : edit.tag.start < edit.tag.stop := by
    rw [edit.tag.stop_eq, Tag.extent]
    omega
  have overlap : edit.tag.start < before.length + own.length ∧ before.length < edit.tag.stop := by
    unfold Edit.carry? at overlapping
    split at overlapping
    · contradiction
    · split at overlapping
      · contradiction
      · omega
  have positiveOwn := List.length_pos_of_ne_nil nonempty
  obtain ⟨index, atIndex⟩ : ∃ index, index = max edit.tag.start before.length := ⟨_, rfl⟩
  have inOwn : index - before.length < own.length := by omega
  have inAll : index < (before ++ own ++ after).length := by
    simp only [List.length_append]
    omega
  have found : (before ++ own ++ after)[index] = own[index - before.length] := by
    rw [List.getElem_append_left (by rw [List.length_append]; omega),
      List.getElem_append_right (by omega)]
  have markedItem := marked _ (List.getElem_mem inOwn)
  refine ⟨_, List.getElem_mem inOwn, fun member => ?_⟩
  have apart := List.pairwise_iff_getElem.mp distinct
  rcases List.mem_append.mp (mem_of_mem_apply markedItem member) with early | late
  · obtain ⟨other, bound, same⟩ := List.getElem_of_mem early
    rw [List.length_take] at bound
    rw [List.getElem_take] at same
    exact apart other index (by omega) inAll (by omega) (same ▸ markedItem) (same.trans found.symm)
  · obtain ⟨other, bound, same⟩ := List.getElem_of_mem late
    rw [List.length_drop] at bound
    rw [List.getElem_drop] at same
    exact apart index (edit.tag.stop + other) inAll (by omega) (by omega) (found ▸ markedItem)
      (found.trans same.symm)

end MarkedByte

end TaggedConfig
