import Mathlib
import TaggedConfig.Proofs.Tag.Marking

/-! Tags that are kept while other tags are spliced.
A tag stores offsets, and a splice moves the bytes after it: a tag is still good exactly as
long as the splices since it was found have left its bytes where they were.
-/

namespace TaggedConfig

-----------------------------------------------------------------------------------------
-- Searching and splicing in any order
-----------------------------------------------------------------------------------------

/-- A tag that was found and has not been spliced yet. -/
structure FoundTag where
  tag : Tag
  /-- The buffer as it stood when the tag was found. -/
  buffer : Bytes
  /-- The splices since then, first to last. -/
  edits : List Edit := []
  deriving DecidableEq, Repr

namespace FoundTag

/-- The bytes of the tag as they stood when it was found. -/
def bytes (found : FoundTag) : Bytes :=
  (found.buffer.drop found.tag.start).take found.tag.extent

/-- The bytes of the tag, marked with their offsets in the buffer in which it was found. -/
def own (found : FoundTag) : List MarkedByte :=
  ((MarkedByte.ofBuffer found.buffer).drop found.tag.start).take found.tag.extent

/-- The buffer after the splices since the tag was found. What stood in the buffer then is
marked with its offset.
-/
def current (found : FoundTag) : List MarkedByte :=
  found.edits.foldl
    (fun items edit => edit.apply (MarkedByte.ofReplacement edit.replacement) items)
    (MarkedByte.ofBuffer found.buffer)

/-- Where the bytes of the tag begin after the splices, if none of them overlapped. -/
def place? (found : FoundTag) : Option Nat :=
  found.edits.foldlM (fun place edit => edit.carry? found.tag.extent place) found.tag.start

/-- The same tag after one more splice. -/
def after (found : FoundTag) (edit : Edit) : FoundTag :=
  { found with edits := found.edits ++ [edit] }

theorem current_after (found : FoundTag) (edit : Edit)
    : (found.after edit).current
      = edit.apply (MarkedByte.ofReplacement edit.replacement) found.current := by
  simp only [current, after, List.foldl_append, List.foldl_cons, List.foldl_nil]

theorem place?_after (found : FoundTag) (edit : Edit)
    : (found.after edit).place? = found.place?.bind (edit.carry? found.tag.extent) := by
  simp only [place?, after, List.foldlM_append, List.foldlM_cons, List.foldlM_nil, bind_pure]
  rfl

/-- The bytes of a tag stay in their place as long as only later tags are spliced. -/
theorem place?_of_later {found : FoundTag}
    (later : ∀ edit ∈ found.edits, found.tag.stop ≤ edit.tag.start)
    : found.place? = some found.tag.start := by
  obtain ⟨tag, buffer, edits⟩ := found
  unfold place?
  dsimp only at later ⊢
  induction edits with
  | nil => rfl
  | cons edit edits ih =>
      rw [List.forall_mem_cons] at later
      rw [List.foldlM_cons, Edit.carry?, if_pos (tag.stop_eq ▸ later.1)]
      exact ih later.2

theorem isSome_of_mem_own {found : FoundTag} {item : MarkedByte} (member : item ∈ found.own)
    : item.2.isSome :=
  MarkedByte.isSome_of_mem_ofBuffer (List.mem_of_mem_drop (List.mem_of_mem_take member))

theorem map_own (found : FoundTag) : found.own.map Prod.fst = found.bytes := by
  rw [own, List.map_take, List.map_drop, MarkedByte.map_ofBuffer, bytes]

/-- What is known of a found tag in a buffer: its bytes are in the place that is kept for
them, or one of them is lost.
-/
structure Sound (found : FoundTag) (data : Bytes) : Prop where
  within : found.tag.stop ≤ found.buffer.length
  current : found.current.map Prod.fst = data
  distinct : MarkedByte.Distinct found.current
  placed
    : ∀ place,
        found.place? = some place →
          ∃ before after, found.current = before ++ found.own ++ after ∧ before.length = place
  lost : found.place? = none → ∃ item ∈ found.own, item ∉ found.current

theorem Sound.length_own {found : FoundTag} {data : Bytes} (sound : found.Sound data)
    : found.own.length = found.tag.extent := by
  have within := sound.within
  have length := congrArg List.length (MarkedByte.map_ofBuffer found.buffer)
  rw [List.length_map] at length
  rw [found.tag.stop_eq] at within
  rw [own, List.length_take, List.length_drop, length]
  omega

theorem Sound.own_ne_nil {found : FoundTag} {data : Bytes} (sound : found.Sound data)
    : found.own ≠ [] := by
  rw [← List.length_pos_iff, sound.length_own, Tag.extent]
  omega

/-- A tag that has just been found is where it was found. -/
theorem sound_of_search {cursor : Cursor} {tag : Tag} (h : cursor.search = .tag tag)
    : (⟨tag, cursor.data, []⟩ : FoundTag).Sound cursor.data where
  within := (Cursor.search_bounds h).2
  current := MarkedByte.map_ofBuffer cursor.data
  distinct := MarkedByte.distinct_ofBuffer cursor.data
  placed place kept := by
    obtain rfl := Option.some.inj kept
    have within := (Cursor.search_bounds h).2
    have length := congrArg List.length (MarkedByte.map_ofBuffer cursor.data)
    rw [List.length_map] at length
    rw [tag.stop_eq] at within
    refine ⟨(MarkedByte.ofBuffer cursor.data).take tag.start,
      ((MarkedByte.ofBuffer cursor.data).drop tag.start).drop tag.extent, ?_, ?_⟩
    · rw [List.append_assoc, own, List.take_append_drop, List.take_append_drop]
      rfl
    · rw [List.length_take, length, Nat.min_eq_left (by omega)]
  lost absent := by simp [place?] at absent

/-- One more splice carries the bytes of a tag along, or takes one of them. -/
theorem Sound.after {found : FoundTag} {cursor : Cursor} (sound : found.Sound cursor.data)
    (edit : Edit) (within : edit.tag.stop ≤ cursor.data.length)
    : (found.after edit).Sound (cursor.splice edit.tag edit.replacement).data where
  within := sound.within
  current := by
    rw [current_after, Edit.map_apply, MarkedByte.map_ofReplacement, sound.current]
    rfl
  distinct := by
    rw [current_after]
    exact sound.distinct.apply edit
  placed place' kept := by
    rw [place?_after] at kept
    obtain ⟨place, before, carried⟩ := Option.bind_eq_some_iff.mp kept
    obtain ⟨early, late, whole, placed⟩ := sound.placed place before
    rw [← sound.length_own] at carried
    rw [current_after, whole]
    exact Edit.apply_of_carry (MarkedByte.length_ofReplacement _) carried placed
  lost absent := by
    rw [place?_after] at absent
    rw [current_after]
    have length := congrArg List.length sound.current
    rw [List.length_map] at length
    cases before : found.place? with
    | none =>
        obtain ⟨item, member, gone⟩ := sound.lost before
        refine ⟨item, member, fun back => gone ?_⟩
        exact (edit.remainder_sublist _).subset
          (MarkedByte.mem_of_mem_apply (isSome_of_mem_own member) back)
    | some place =>
        obtain ⟨early, late, whole, placed⟩ := sound.placed place before
        rw [before, Option.bind_some, ← sound.length_own, ← placed] at absent
        have distinct := sound.distinct
        rw [whole] at distinct length ⊢
        rw [← length] at within
        exact MarkedByte.exists_lost distinct within sound.own_ne_nil
          (fun _ => isSome_of_mem_own) absent

end FoundTag

namespace Cursor

/-- The cursors that come of a buffer by searches and splices, each with the tags that have
been found and not spliced. A splice takes any of these tags.
-/
inductive Run (data : Bytes) : Cursor → List FoundTag → Prop
  | start : Run data (ofBytes data) []
  | found {cursor tags tag} (run : Run data cursor tags) (search : cursor.search = .tag tag)
    : Run data cursor.advance (⟨tag, cursor.data, []⟩ :: tags)
  | missed {cursor tags} (run : Run data cursor tags) (search : ∀ tag, cursor.search ≠ .tag tag)
    : Run data cursor.advance tags
  | spliced {cursor next earlier found later replacement}
    (run : Run data cursor (earlier ++ found :: later))
    (splice : cursor.splice? found.tag replacement = some next)
    : Run data next ((earlier ++ later).map (·.after ⟨found.tag, replacement⟩))

theorem data_advance (cursor : Cursor) : cursor.advance.data = cursor.data := by
  unfold advance
  split <;> rfl

theorem splice?_eq_some {cursor next : Cursor} {tag : Tag} {replacement : Bytes}
    (h : cursor.splice? tag replacement = some next)
    : tag.stop ≤ cursor.data.length ∧ cursor.splice tag replacement = next := by
  unfold splice? at h
  split at h
  · exact ⟨‹_›, Option.some.inj h⟩
  · contradiction

/-- Every run keeps account of the bytes of the tags it has found, by induction: a search
leaves the buffer as it is, and a splice carries them along.
-/
theorem Run.sound {data : Bytes} {cursor : Cursor} {tags : List FoundTag}
    (run : Run data cursor tags)
    : ∀ found ∈ tags, found.Sound cursor.data := by
  induction run with
  | start => simp
  | @found cursor tags tag _ search ih =>
      rw [List.forall_mem_cons, data_advance]
      exact ⟨FoundTag.sound_of_search search, ih⟩
  | @missed cursor tags _ _ ih =>
      rw [data_advance]
      exact ih
  | @spliced cursor next earlier found later replacement _ splice ih =>
      obtain ⟨within, rfl⟩ := splice?_eq_some splice
      intro other member
      obtain ⟨kept, among, rfl⟩ := List.mem_map.mp member
      refine (ih kept ?_).after ⟨found.tag, replacement⟩ within
      rcases List.mem_append.mp among with early | late
      · exact List.mem_append_left _ early
      · exact List.mem_append_right _ (List.mem_cons_of_mem _ late)

/-- A splice of a tag that was found earlier stays within the buffer, takes exactly the bytes
that the tag had when it was found and leaves all other bytes, if and only if the splices since
then have left these bytes at the offset of the tag. Bytes are told apart by where they came
from, so equal bytes that stand there by chance do not count.
-/
theorem splice_found_iff {data : Bytes} {cursor : Cursor} {tags : List FoundTag}
    (run : Run data cursor tags) {found : FoundTag} (member : found ∈ tags)
    (replacement : Bytes)
    : found.current.map Prod.fst = cursor.data
      ∧ found.own.map Prod.fst = found.bytes
      ∧ ((∃ before after,
            found.current = before ++ found.own ++ after
            ∧ cursor.splice? found.tag replacement
              = some
                ⟨before.map Prod.fst ++ replacement ++ after.map Prod.fst,
                  before.length + replacement.length⟩
            ∧ before.length = found.tag.start)
          ↔ found.place? = some found.tag.start) := by
  have sound := run.sound found member
  refine ⟨sound.current, found.map_own, ?_, ?_⟩
  · rintro ⟨before, after, whole, -, start⟩
    cases kept : found.place? with
    | none =>
        obtain ⟨item, owned, gone⟩ := sound.lost kept
        exact absurd (by simp [whole, owned]) gone
    | some place =>
        obtain ⟨before', after', whole', placed⟩ := sound.placed place kept
        have distinct := sound.distinct
        rw [whole'] at distinct
        have same := distinct.place_unique (whole'.symm.trans whole) sound.own_ne_nil
          fun _ => FoundTag.isSome_of_mem_own
        rw [← placed, same, start]
  · intro kept
    obtain ⟨before, after, whole, placed⟩ := sound.placed _ kept
    refine ⟨before, after, whole, ?_, placed⟩
    have buffer := sound.current
    rw [whole, List.map_append, List.map_append] at buffer
    have early : (before.map Prod.fst).length = found.tag.start := by
      rw [List.length_map, placed]
    have taken : cursor.data.take found.tag.start = before.map Prod.fst := by
      rw [← buffer, List.append_assoc, ← early, List.take_left]
    have reach : (before.map Prod.fst ++ found.own.map Prod.fst).length = found.tag.stop := by
      rw [List.length_append, early, List.length_map, sound.length_own, found.tag.stop_eq]
    have dropped : cursor.data.drop found.tag.stop = after.map Prod.fst := by
      rw [← buffer, ← reach, List.drop_left]
    have within : found.tag.stop ≤ cursor.data.length := by
      rw [← buffer, List.length_append, reach]
      exact Nat.le_add_right _ _
    rw [splice?, if_pos within, splice, taken, dropped, placed]

/-- A buffer of two tags. -/
def twoTags : Bytes := ascii "$\x7bENV:A\x7d$\x7bENV:B\x7d"

def firstTag : Tag := ⟨.variable, 0, 1⟩

def secondTag : Tag := ⟨.variable, 8, 1⟩

/-- Both tags are found before either is spliced. -/
theorem run_twoTags
    : Run twoTags ⟨twoTags, 16⟩ [⟨secondTag, twoTags, []⟩, ⟨firstTag, twoTags, []⟩] := by
  have first : (ofBytes twoTags).search = .tag firstTag := by decide
  have second : (⟨twoTags, 8⟩ : Cursor).search = .tag secondTag := by decide
  have after : Run twoTags ⟨twoTags, 8⟩ [⟨firstTag, twoTags, []⟩] := by
    have run := Run.found .start first
    rwa [advance_tag first] at run
  have run := Run.found after second
  rwa [advance_tag second] at run

/-- The first tag, after the second one has been spliced. -/
def remainingTag : FoundTag := ⟨firstTag, twoTags, [⟨secondTag, ascii "b"⟩]⟩

/-- When the second tag is spliced first, the first one is still good. -/
theorem splice_found_iff_backwards
    : Run twoTags ⟨ascii "$\x7bENV:A\x7db", 9⟩ [remainingTag]
      ∧ remainingTag.place? = some remainingTag.tag.start
      ∧ ∃ before after,
          remainingTag.current = before ++ remainingTag.own ++ after
          ∧ (⟨ascii "$\x7bENV:A\x7db", 9⟩ : Cursor).splice? remainingTag.tag (ascii "a")
            = some
              ⟨before.map Prod.fst ++ ascii "a" ++ after.map Prod.fst,
                before.length + (ascii "a").length⟩
          ∧ before.length = remainingTag.tag.start := by
  have spliced
      : (⟨twoTags, 16⟩ : Cursor).splice? secondTag (ascii "b")
        = some ⟨ascii "$\x7bENV:A\x7db", 9⟩ := by decide
  have run : Run twoTags ⟨ascii "$\x7bENV:A\x7db", 9⟩ [remainingTag] :=
    @Run.spliced _ _ _ [] _ _ _ run_twoTags spliced
  have kept : remainingTag.place? = some remainingTag.tag.start :=
    FoundTag.place?_of_later (by decide)
  have member : remainingTag ∈ [remainingTag] := List.mem_singleton_self _
  exact ⟨run, kept, (splice_found_iff run member (ascii "a")).2.2.mpr kept⟩

/-- When the first tag is spliced by more bytes than it had, the offsets of the second one
lead into these bytes.
-/
theorem splice_stale_tag
    : ¬ ∀ (data : Bytes) (cursor : Cursor) (tags : List FoundTag) (found : FoundTag)
          (replacement : Bytes),
          Run data cursor tags →
            found ∈ tags →
              ∃ before after,
                cursor.data = before ++ found.bytes ++ after
                ∧ cursor.splice? found.tag replacement
                  = some ⟨before ++ replacement ++ after, before.length + replacement.length⟩ := by
  intro claim
  have spliced
      : (⟨twoTags, 16⟩ : Cursor).splice? firstTag (ascii "0123456789AB")
        = some ⟨ascii "0123456789AB$\x7bENV:B\x7d", 12⟩ := by decide
  have run
      : Run twoTags ⟨ascii "0123456789AB$\x7bENV:B\x7d", 12⟩
          [⟨secondTag, twoTags, [⟨firstTag, ascii "0123456789AB"⟩]⟩] :=
    @Run.spliced _ _ _ [⟨secondTag, twoTags, []⟩] _ [] _ run_twoTags spliced
  obtain ⟨before, after, whole, replaced⟩ := claim _ _ _ _ (ascii "y") run
    (List.mem_singleton_self _)
  have misplaced
      : (⟨ascii "0123456789AB$\x7bENV:B\x7d", 12⟩ : Cursor).splice? secondTag (ascii "y")
        = some ⟨ascii "01234567yV:B\x7d", 9⟩ := by decide
  have place : before.length = 8 := by
    have position := congrArg Cursor.position (Option.some.inj (replaced.symm.trans misplaced))
    simpa [ascii] using position
  have dollar
      : (before ++ (⟨secondTag, twoTags, [⟨firstTag, ascii "0123456789AB"⟩]⟩ : FoundTag).bytes
          ++ after)[8]?
        = some (byte '$') := by
    rw [List.append_assoc, List.getElem?_append_right (Nat.le_of_eq place), place]
    rfl
  rw [← whole] at dollar
  exact absurd dollar (by decide)

end Cursor

end TaggedConfig
