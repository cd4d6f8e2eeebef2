import Mathlib.Logic.Function.Iterate
import TaggedConfig.Proofs.Tag.Nesting
import TaggedConfig.Proofs.Tag.Staleness

/-! Searches that may each be followed by a splice of the tag that was found.
Main statement: they find what searches of the untouched buffer find. A replacement only moves the
tags after it by as many bytes as it is longer or shorter than its tag.
-/

namespace TaggedConfig

namespace Cursor

-----------------------------------------------------------------------------------------
-- Where a search and a splice leave the cursor
-----------------------------------------------------------------------------------------

theorem position_le_advance (cursor : Cursor) : cursor.position ≤ cursor.advance.position := by
  have scans := cursor.scans_search
  generalize cursor.advance = next, cursor.search = outcome at scans
  cases scans with
  | exhausted => exact Nat.le_max_left _ _
  | @tag tag first =>
      have stop := tag.stop_eq
      have after := first.1.1
      dsimp only
      omega
  | unclosed first => exact first.1.1

theorem advance_within {cursor : Cursor} (within : cursor.position ≤ cursor.data.length)
    : cursor.advance.position ≤ cursor.data.length := by
  cases found : cursor.search with
  | exhausted =>
      rw [advance, found]
      exact Nat.max_le.mpr ⟨within, Nat.sub_le _ _⟩
  | tag tag =>
      rw [advance_tag found]
      exact (search_bounds found).2
  | unclosed offset =>
      rw [advance, found]
      exact Nat.le_of_lt (search_unclosed_lt found)

/-- A tag that was found can be spliced: it lies within the buffer, which the search leaves as it
is.
-/
theorem isSome_splice? {cursor : Cursor} {tag : Tag} (found : cursor.search = .tag tag)
    (replacement : Bytes)
    : (cursor.advance.splice? tag replacement).isSome := by
  rw [splice?, data_advance, if_pos (search_bounds found).2]
  rfl

/-- What lies before a tag is not changed by its splice. -/
theorem content_splice {cursor : Cursor} {tag other : Tag} (before : other.stop ≤ tag.start)
    (within : tag.start ≤ cursor.data.length) (replacement : Bytes)
    : other.content (cursor.splice tag replacement).data = other.content cursor.data := by
  have short : other.stop ≤ (cursor.data.take tag.start).length := by
    rwa [List.length_take, Nat.min_eq_left within]
  have whole : other.content cursor.data = other.content (cursor.data.take tag.start) := by
    have longer := content_append_right short (cursor.data.drop tag.start)
    rwa [List.take_append_drop] at longer
  rw [splice, List.append_assoc, content_append_right short, whole]

-----------------------------------------------------------------------------------------
-- Cursors before the same bytes
-----------------------------------------------------------------------------------------

/-- The second cursor has the same bytes to search as the first one, `growth` bytes further on in
its buffer.
-/
structure Displaced (growth : Int) (plain cursor : Cursor) : Prop where
  rest : cursor.data.drop cursor.position = plain.data.drop plain.position
  plainWithin : plain.position ≤ plain.data.length
  within : cursor.position ≤ cursor.data.length
  place : (cursor.position : Int) = plain.position + growth

/-- Searches from the two cursors come to the same: tags of one kind and content, the end of the
buffer, or an opening that no brace closes. Offsets are `growth` bytes further on in the second.
-/
inductive FindsAlike (growth : Int) (plain cursor : Cursor) : Prop
  | tag {found found' : Tag} (plainSearch : plain.search = .tag found)
    (search : cursor.search = .tag found') (kind : found'.kind = found.kind)
    (size : found'.size = found.size)
    (content : found'.content cursor.data = found.content plain.data)
    (start : (found'.start : Int) = found.start + growth)
  | exhausted (plainSearch : plain.search = .exhausted) (search : cursor.search = .exhausted)
  | unclosed {offset offset' : Nat} (plainSearch : plain.search = .unclosed offset)
    (search : cursor.search = .unclosed offset') (place : (offset' : Int) = offset + growth)

theorem displaced_self {cursor : Cursor} (within : cursor.position ≤ cursor.data.length)
    : Displaced 0 cursor cursor :=
  ⟨rfl, within, within, (Int.add_zero _).symm⟩

/-- The bytes before the cursor only shift what a search finds. -/
theorem search_eq_shift {cursor : Cursor} (within : cursor.position ≤ cursor.data.length)
    : cursor.search
      = (ofBytes (cursor.data.drop cursor.position)).search.shift cursor.position := by
  have shifted :=
    search_append (cursor.data.take cursor.position) (cursor.data.drop cursor.position)
  rwa [List.take_append_drop, List.length_take, Nat.min_eq_left within] at shifted

theorem content_eq_shift {cursor : Cursor} (within : cursor.position ≤ cursor.data.length)
    (tag : Tag)
    : (tag.shift cursor.position).content cursor.data
      = tag.content (cursor.data.drop cursor.position) := by
  have shifted :=
    Tag.content_shift (cursor.data.take cursor.position) (cursor.data.drop cursor.position) tag
  rwa [List.take_append_drop, List.length_take, Nat.min_eq_left within] at shifted

section

variable {growth : Int} {plain cursor : Cursor}

/-- Searches see the bytes after the cursor only. -/
theorem Displaced.findsAlike (displaced : Displaced growth plain cursor)
    : FindsAlike growth plain cursor := by
  have plainSearch := search_eq_shift displaced.plainWithin
  have search := search_eq_shift displaced.within
  have place := displaced.place
  rw [displaced.rest] at search
  cases found : (ofBytes (plain.data.drop plain.position)).search with
  | exhausted =>
      rw [found] at plainSearch search
      exact .exhausted plainSearch search
  | unclosed offset =>
      rw [found] at plainSearch search
      refine .unclosed plainSearch search ?_
      push_cast
      omega
  | tag tag =>
      rw [found] at plainSearch search
      refine .tag plainSearch search rfl rfl ?_ ?_
      · rw [content_eq_shift displaced.within, content_eq_shift displaced.plainWithin,
          displaced.rest]
      · simp only [Tag.shift]
        push_cast
        omega

/-- Both cursors may be moved on by as many bytes. -/
theorem Displaced.move (displaced : Displaced growth plain cursor) {plain' cursor' : Cursor}
    (plainData : plain'.data = plain.data) (data : cursor'.data = cursor.data)
    (onward : plain.position ≤ plain'.position)
    (plainWithin : plain'.position ≤ plain.data.length)
    (place : (cursor'.position : Int) = plain'.position + growth)
    : Displaced growth plain' cursor' := by
  have before := displaced.place
  have within := displaced.within
  have lengths := congrArg List.length displaced.rest
  rw [List.length_drop, List.length_drop] at lengths
  have moved : cursor'.position = cursor.position + (plain'.position - plain.position) := by
    omega
  refine ⟨?_, by rwa [plainData], by rw [data]; omega, place⟩
  calc
    cursor'.data.drop cursor'.position
        = (cursor.data.drop cursor.position).drop (plain'.position - plain.position) := by
      rw [data, List.drop_drop, moved]
    _ = plain'.data.drop plain'.position := by
      rw [displaced.rest, List.drop_drop, plainData, Nat.add_sub_cancel' onward]

/-- Cursors before the same bytes are so after a search. -/
theorem Displaced.advance (displaced : Displaced growth plain cursor)
    : Displaced growth plain.advance cursor.advance := by
  refine displaced.move (data_advance plain) (data_advance cursor) plain.position_le_advance
    (advance_within displaced.plainWithin) ?_
  cases displaced.findsAlike with
  | @tag found found' plainSearch search _ size _ start =>
      rw [advance_tag plainSearch, advance_tag search]
      simp only [Tag.stop_eq, Tag.extent, size]
      push_cast
      omega
  | exhausted plainSearch search =>
      have before := displaced.place
      have plainWithin := displaced.plainWithin
      have within := displaced.within
      have lengths := congrArg List.length displaced.rest
      rw [List.length_drop, List.length_drop] at lengths
      simp only [Cursor.advance, plainSearch, search]
      omega
  | unclosed plainSearch search place =>
      simp only [Cursor.advance, plainSearch, search]
      exact place

/-- After a splice the same bytes come as after the tag, as much further on as the replacement is
longer.
-/
theorem Displaced.splice {tag : Tag} (displaced : Displaced growth plain cursor)
    (after : cursor.position = tag.stop) (replacement : Bytes)
    : Displaced (growth + (replacement.length - tag.extent)) plain
        (cursor.splice tag replacement) := by
  have within := displaced.within
  have place := displaced.place
  have stop := tag.stop_eq
  have before
      : (cursor.data.take tag.start ++ replacement).length = tag.start + replacement.length := by
    rw [List.length_append, List.length_take, Nat.min_eq_left (by omega)]
  refine ⟨?_, displaced.plainWithin, ?_, ?_⟩
  · rw [← displaced.rest, after, Cursor.splice, ← before, List.drop_left]
  · rw [Cursor.splice, List.length_append, before]
    exact Nat.le_add_right _ _
  · rw [Cursor.splice]
    push_cast
    omega

end

-----------------------------------------------------------------------------------------
-- Searches and splices by turns
-----------------------------------------------------------------------------------------

/-- A search, and what has taken the place of the tag that it found. -/
structure Turn where
  /-- The cursor from which the search began. -/
  cursor : Cursor
  /-- The bytes that the tag was replaced by, unless it was left as it is. -/
  replacement? : Option Bytes := none
  deriving DecidableEq, Repr

namespace Turn

/-- By how many bytes the turn made the buffer longer. -/
def growth (turn : Turn) : Int :=
  match turn.cursor.search, turn.replacement? with
  | .tag tag, some replacement => replacement.length - tag.extent
  | _, _ => 0

/-- By how many bytes the turns together made the buffer longer. -/
def totalGrowth (turns : List Turn) : Int := (turns.map growth).sum

theorem growth_searched (cursor : Cursor) : (⟨cursor, none⟩ : Turn).growth = 0 := by
  unfold growth
  split
  · contradiction
  · rfl

theorem growth_spliced {cursor : Cursor} {tag : Tag} (search : cursor.search = .tag tag)
    (replacement : Bytes)
    : (⟨cursor, some replacement⟩ : Turn).growth = replacement.length - tag.extent := by
  simp only [growth, search]

theorem totalGrowth_append (turns : List Turn) (turn : Turn)
    : totalGrowth (turns ++ [turn]) = totalGrowth turns + turn.growth := by
  simp [totalGrowth]

end Turn

open Turn

/-- The cursors that come of a buffer by searches, each with the turns that led to it, first to
last. The tag that a search finds is spliced at once or never.
-/
inductive Turns (data : Bytes) : Cursor → List Turn → Prop
  | start : Turns data (ofBytes data) []
  | searched {cursor turns} (run : Turns data cursor turns)
    : Turns data cursor.advance (turns ++ [⟨cursor, none⟩])
  | spliced {cursor turns tag replacement next} (run : Turns data cursor turns)
    (search : cursor.search = .tag tag)
    (splice : cursor.advance.splice? tag replacement = some next)
    : Turns data next (turns ++ [⟨cursor, some replacement⟩])

namespace Turns

variable {data : Bytes} {cursor : Cursor} {turns : List Turn}

/-- The cursor stays before the same bytes as one that as many searches have moved through the
untouched buffer. By induction on the turns.
-/
theorem displaced (run : Turns data cursor turns)
    : Displaced (totalGrowth turns) (advance^[turns.length] (ofBytes data)) cursor := by
  induction run with
  | start => exact displaced_self (Nat.zero_le _)
  | searched _ ih =>
      rw [totalGrowth_append, growth_searched, Int.add_zero, List.length_append,
        List.length_singleton, Function.iterate_succ_apply']
      exact ih.advance
  | spliced _ search splice ih =>
      obtain ⟨-, rfl⟩ := splice?_eq_some splice
      rw [totalGrowth_append, growth_spliced search, List.length_append, List.length_singleton,
        Function.iterate_succ_apply']
      exact ih.advance.splice (by rw [advance_tag search]) _

/-- Every turn began at a cursor to which the turns before it had led, by induction on the turns. -/
theorem before_turn (run : Turns data cursor turns) {i : Nat} (inside : i < turns.length)
    : Turns data turns[i].cursor (turns.take i) := by
  have last {turns : List Turn} {turn : Turn} (begins : Turns data turn.cursor turns)
      (earlier : ∀ inside : i < turns.length, Turns data turns[i].cursor (turns.take i))
      (inside : i < (turns ++ [turn]).length)
      : Turns data (turns ++ [turn])[i].cursor ((turns ++ [turn]).take i) := by
    rcases Nat.lt_or_ge i turns.length with less | _
    · rw [List.getElem_append_left less, List.take_append_of_le_length (Nat.le_of_lt less)]
      exact earlier less
    · rw [List.length_append, List.length_singleton] at inside
      obtain rfl : i = turns.length := by omega
      rwa [List.getElem_concat_length rfl, List.take_left]
  induction run with
  | start => contradiction
  | searched run ih => exact last run ih inside
  | spliced run _ _ ih => exact last run ih inside

/-- A tag that was left as it is lies before the cursor with the content that it had, by induction
on the turns.
-/
theorem kept (run : Turns data cursor turns) {turn : Turn} (member : turn ∈ turns)
    (left : turn.replacement? = none) {tag : Tag} (found : turn.cursor.search = .tag tag)
    : tag.stop ≤ cursor.position ∧ tag.content cursor.data = tag.content turn.cursor.data := by
  induction run with
  | start => contradiction
  | @searched cursor turns _ ih =>
      rw [data_advance]
      rcases List.mem_append.mp member with earlier | last
      · obtain ⟨before, same⟩ := ih earlier
        exact ⟨Nat.le_trans before cursor.position_le_advance, same⟩
      · obtain rfl := List.mem_singleton.mp last
        exact ⟨by rw [advance_tag found], rfl⟩
  | @spliced cursor turns other replacement _ run search splice ih =>
      obtain ⟨-, rfl⟩ := splice?_eq_some splice
      rcases List.mem_append.mp member with earlier | last
      · obtain ⟨before, same⟩ := ih earlier
        have bounds := search_bounds search
        have stop := other.stop_eq
        refine ⟨?_, ?_⟩
        · rw [Cursor.splice]
          dsimp only
          omega
        · rw [content_splice (by omega) (by rw [data_advance]; omega), data_advance, same]
      · obtain rfl := List.mem_singleton.mp last
        contradiction

end Turns

/-- Whatever takes the place of the tags, each search finds what it would find had nothing been
replaced: at every moment the bytes from the cursor on are the last ones of the original buffer, the
tags have the same kinds and contents, their offsets differ by what the buffer has grown before
them, and the end or an opening without its brace is come to after the same tags. A tag lies within
the buffer when it is found, so that it can be spliced, and as long as it is left as it is.
-/
theorem searches_ignore_replacements {data : Bytes} {cursor : Cursor} {turns : List Turn}
    (run : Turns data cursor turns)
    : (cursor.data.drop cursor.position <:+ data ∧ cursor.position ≤ cursor.data.length)
      ∧ (∀ (i : Nat) (_ : i < turns.length),
          FindsAlike (totalGrowth (turns.take i)) (advance^[i] (ofBytes data)) turns[i].cursor)
      ∧ FindsAlike (totalGrowth turns) (advance^[turns.length] (ofBytes data)) cursor
      ∧ (∀ tag,
          cursor.search = .tag tag →
            tag.stop ≤ cursor.data.length
            ∧ (tag.content cursor.data).length = tag.size
            ∧ ∀ replacement, (cursor.advance.splice? tag replacement).isSome)
      ∧ ∀ turn ∈ turns,
          turn.replacement? = none →
            ∀ tag,
              turn.cursor.search = .tag tag →
                tag.stop ≤ cursor.data.length
                ∧ tag.content cursor.data = tag.content turn.cursor.data := by
  have displaced := run.displaced
  refine ⟨⟨?_, displaced.within⟩, fun i inside => ?_, displaced.findsAlike, fun tag found => ?_,
    fun turn member left tag found => ?_⟩
  · have untouched (calls : Nat) : (advance^[calls] (ofBytes data)).data = data := by
      induction calls with
      | zero => rfl
      | succ calls ih => rw [Function.iterate_succ_apply', data_advance, ih]
    rw [displaced.rest, untouched]
    exact List.drop_suffix _ _
  · have before := (run.before_turn inside).displaced
    rw [List.length_take, Nat.min_eq_left (Nat.le_of_lt inside)] at before
    exact before.findsAlike
  · have bounds := search_bounds found
    exact ⟨bounds.2, Tag.length_content (Nat.le_of_succ_le bounds.2), isSome_splice? found⟩
  · obtain ⟨before, same⟩ := run.kept member left found
    exact ⟨Nat.le_trans before displaced.within, same⟩

/-- Three tags between other bytes. -/
def threeTags : Bytes := ascii "[$\x7bENV:A\x7d,$\x7bSRC:b\x7d]$\x7bENV:C\x7d"

/-- The same with the first tag replaced by bytes that begin with another tag. -/
def refilledTags : Bytes := ascii "[$\x7bENV:Z\x7d!!,$\x7bSRC:b\x7d]$\x7bENV:C\x7d"

/-- The tag within the replacement of the first tag is never found, and the third one is found two
bytes further on.
-/
theorem searches_ignore_replacements_lookalike
    : Turns threeTags ⟨refilledTags, 20⟩
        [⟨ofBytes threeTags, some (ascii "$\x7bENV:Z\x7d!!")⟩, ⟨⟨refilledTags, 11⟩, none⟩]
      ∧ ascii "]$\x7bENV:C\x7d" <:+ threeTags
      ∧ FindsAlike 2 (advance^[2] (ofBytes threeTags)) ⟨refilledTags, 20⟩ := by
  have first : (ofBytes threeTags).search = .tag ⟨.variable, 1, 1⟩ := by decide +kernel
  have spliced
      : (ofBytes threeTags).advance.splice? ⟨.variable, 1, 1⟩ (ascii "$\x7bENV:Z\x7d!!")
        = some ⟨refilledTags, 11⟩ := by
    decide +kernel
  have second : (⟨refilledTags, 11⟩ : Cursor).advance = ⟨refilledTags, 20⟩ := by decide +kernel
  have run := Turns.searched (.spliced .start first spliced)
  rw [second] at run
  obtain ⟨⟨rest, -⟩, -, alike, -⟩ := searches_ignore_replacements run
  exact ⟨run, rest, alike⟩

end Cursor

end TaggedConfig
