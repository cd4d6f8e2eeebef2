import TaggedConfig.Proofs.Tag.Grammar

/-! Buffers that are searched to their end, each search going on after the tag before.
Main statement: at a cut that runs through no tag and no opening, the segments of a buffer are those
of its two parts.
-/

namespace TaggedConfig

namespace Cursor

/-- What the searches of a buffer come to, one after another until one of them finds no tag. -/
inductive Meets : Cursor → Outcome → Prop
  | now (cursor : Cursor) : Meets cursor cursor.search
  | later {cursor : Cursor} {tag : Tag} {outcome : Outcome} (found : cursor.search = .tag tag)
    (meets : Meets cursor.advance outcome)
    : Meets cursor outcome

theorem Meets.of_search {cursor : Cursor} {outcome : Outcome} (found : cursor.search = outcome)
    : cursor.Meets outcome :=
  found ▸ .now cursor

/-- A search that finds no tag is the last. -/
theorem Meets.eq_search {cursor : Cursor} {outcome : Outcome} (meets : cursor.Meets outcome)
    (last : ∀ tag, cursor.search ≠ .tag tag)
    : cursor.search = outcome := by
  cases meets with
  | now => rfl
  | later found => exact absurd found (last _)

/-- What is met is found from some place of the same buffer, by induction on the searches. -/
theorem Meets.exists_search {cursor : Cursor} {outcome : Outcome} (meets : cursor.Meets outcome)
    : ∃ position, ({ cursor with position } : Cursor).search = outcome := by
  induction meets with
  | now cursor => exact ⟨cursor.position, rfl⟩
  | later found _ ih =>
      rw [advance_tag found] at ih
      exact ih

-----------------------------------------------------------------------------------------
-- Segments and what searches meet
-----------------------------------------------------------------------------------------

/-- The tags of the segments are tags that are met, by recursion along the searches. -/
theorem exists_meets_of_mem_segmentation {cursor : Cursor} {segment : Segment}
    (member : segment ∈ cursor.segmentation.segments)
    : ∃ tag,
        cursor.Meets (.tag tag)
        ∧ segment.kind = tag.kind
        ∧ segment.content = tag.content cursor.data := by
  fun_induction segmentation cursor with
  | case1 | case2 => contradiction
  | case3 cursor tag found _ _ ih =>
      rcases List.mem_cons.mp member with rfl | member
      · exact ⟨tag, .of_search found, rfl, rfl⟩
      · obtain ⟨other, meets, kind, content⟩ := ih member
        rw [advance_tag found] at content
        exact ⟨other, .later found meets, kind, content⟩

/-- The segments end at an opening that no brace closes exactly if one is met, by recursion along
the searches.
-/
theorem unclosed_segmentation_iff {cursor : Cursor}
    : cursor.segmentation.unclosed = true ↔ ∃ offset, cursor.Meets (.unclosed offset) := by
  fun_induction segmentation cursor with
  | case1 cursor found =>
      refine iff_of_false nofun ?_
      rintro ⟨offset, meets⟩
      cases found.symm.trans (meets.eq_search (by simp [found]))
  | case2 cursor offset found => exact iff_of_true rfl ⟨offset, .of_search found⟩
  | case3 cursor tag found _ _ ih =>
      refine ih.trans ⟨?_, ?_⟩
      · rintro ⟨offset, meets⟩
        exact ⟨offset, .later found meets⟩
      · rintro ⟨offset, meets⟩
        generalize known : Outcome.unclosed offset = outcome at meets
        cases meets with
        | now => cases found.symm.trans known.symm
        | later _ meets => exact ⟨offset, known ▸ meets⟩

end Cursor

-----------------------------------------------------------------------------------------
-- Searches with more bytes after the buffer
-----------------------------------------------------------------------------------------

namespace Tag

/-- Where a brace is to come, the bytes after it do not matter to an opening. -/
theorem opening?_append_of_mem {bytes : Bytes} (brace : byte '}' ∈ bytes) (more : Bytes)
    : opening? (bytes ++ more) = opening? bytes := by
  obtain ⟨before, after, rfl⟩ := List.append_of_mem brace
  cases opened : opening? (before ++ byte '}' :: after) with
  | some kind => exact opening?_append opened more
  | none =>
      rw [List.append_assoc, List.cons_append]
      cases longer : opening? (before ++ byte '}' :: (after ++ more)) with
      | none => rfl
      | some kind =>
          have inside := opening?_append_cons (brace_notMem_opening kind) longer
          cases opened.symm.trans (opening?_append inside (byte '}' :: after))

theorem brace_mem_of_closing? {openTags offset stop : Nat} {bytes : Bytes}
    (closed : closing? openTags offset bytes = some stop)
    : byte '}' ∈ bytes := by
  obtain ⟨rest, whole⟩ := closing?_brace closed
  exact List.mem_of_mem_drop (whole ▸ List.mem_cons_self)

/-- A closing brace is found whatever follows it, by induction on the bytes. -/
theorem closing?_append_right {openTags offset stop : Nat} {bytes : Bytes}
    (closed : closing? openTags offset bytes = some stop) (more : Bytes)
    : closing? openTags offset (bytes ++ more) = some stop := by
  induction bytes generalizing openTags offset with
  | nil => contradiction
  | cons b rest ih =>
      have same := opening?_append_of_mem (brace_mem_of_closing? closed) more
      rw [List.cons_append] at same ⊢
      unfold closing? at closed ⊢
      rw [same]
      split
      · rename_i brace
        rw [if_pos brace] at closed
        cases openTags with
        | zero => exact closed
        | succ openTags => exact ih closed
      · rename_i noBrace
        rw [if_neg noBrace] at closed
        split
        · rename_i opens
          rw [if_pos opens] at closed
          exact ih closed
        · rename_i opensNot
          rw [if_neg opensNot] at closed
          exact ih closed

end Tag

namespace Cursor

/-- An opening that a brace follows is found whatever comes after that brace, by induction on the
bytes.
-/
theorem firstOpening?_append_right {offset start : Nat} {kind : Tag.Kind} {bytes : Bytes}
    (opened : firstOpening? offset bytes = some (start, kind))
    (brace : byte '}' ∈ bytes.drop (start - offset)) (more : Bytes)
    : firstOpening? offset (bytes ++ more) = some (start, kind) := by
  induction bytes generalizing offset with
  | nil => contradiction
  | cons b rest ih =>
      have same := Tag.opening?_append_of_mem (List.mem_of_mem_drop brace) more
      rw [List.cons_append] at same ⊢
      unfold firstOpening? at opened ⊢
      rw [same]
      split
      · rename_i known
        rw [known] at opened
        dsimp only at opened
        split at opened
        · contradiction
        · rename_i long
          rw [List.isEmpty_iff, List.drop_eq_nil_iff] at long
          rw [if_neg, opened]
          rw [List.isEmpty_iff, List.drop_eq_nil_iff, List.length_append]
          omega
      · rename_i closed
        rw [closed] at opened
        have after := firstOpening?_offset_le opened
        rw [show start - offset = start - (offset + 1) + 1 by omega, List.drop_succ_cons] at brace
        exact ih opened brace

/-- A tag is found whatever follows it. -/
theorem search_append_right {data : Bytes} {position : Nat} {tag : Tag}
    (found : (⟨data, position⟩ : Cursor).search = .tag tag) (more : Bytes)
    : (⟨data ++ more, position⟩ : Cursor).search = .tag tag := by
  unfold search at found ⊢
  dsimp only at found ⊢
  cases opened : firstOpening? position (data.drop position) with
  | none => simp [opened] at found
  | some first =>
      obtain ⟨start, kind⟩ := first
      simp only [opened] at found
      have after := firstOpening?_offset_le opened
      cases closed : Tag.closing? 0 (start + Tag.openingSize)
        (data.drop (start + Tag.openingSize)) with
      | none => simp [closed] at found
      | some stop =>
          have inside := Tag.brace_mem_of_closing? closed
          have short : start + Tag.openingSize ≤ data.length := by
            have positive := List.length_pos_of_mem inside
            rw [List.length_drop] at positive
            omega
          have brace : byte '}' ∈ (data.drop position).drop (start - position) := by
            rw [← List.drop_drop] at inside
            rw [List.drop_drop, Nat.add_sub_cancel' after]
            exact List.mem_of_mem_drop inside
          rw [closed] at found
          rw [List.drop_append_of_le_length (by omega),
            firstOpening?_append_right opened brace more]
          dsimp only
          rw [List.drop_append_of_le_length short, Tag.closing?_append_right closed more]
          exact found

theorem content_append_right {data : Bytes} {tag : Tag} (within : tag.stop ≤ data.length)
    (more : Bytes)
    : tag.content (data ++ more) = tag.content data := by
  simp only [Tag.stop, Tag.contentStop] at within
  rw [Tag.content, Tag.content, List.drop_append_of_le_length (by omega),
    List.take_append_of_le_length (by rw [List.length_drop]; omega)]

end Cursor

-----------------------------------------------------------------------------------------
-- Cuts between tags
-----------------------------------------------------------------------------------------

/-- More bytes may follow those after the cursor without a change to how they are scanned: no tag is
left open, and no opening begins in their last bytes, except within tags.
-/
structure Cursor.SafeBefore (cursor : Cursor) (more : Bytes) : Prop where
  closed (offset : Nat) : ¬cursor.Meets (.unclosed offset)
  apart {offset : Nat}
    : cursor.position ≤ offset →
      offset < cursor.data.length →
      cursor.data.length ≤ offset + Tag.openingSize →
      Tag.OpeningAt (cursor.data ++ more) offset →
        ∃ tag, cursor.Meets (.tag tag) ∧ tag.start ≤ offset ∧ offset < tag.stop

/-- A buffer may be cut into two without a change to how it is scanned. -/
abbrev SafeCut (first second : Bytes) : Prop := (Cursor.ofBytes first).SafeBefore second

namespace Cursor

/-- What is safe before more bytes is so after its first tag. -/
theorem SafeBefore.advance {cursor : Cursor} {more : Bytes} (safe : cursor.SafeBefore more)
    {tag : Tag} (found : cursor.search = .tag tag)
    : cursor.advance.SafeBefore more where
  closed offset meets := safe.closed offset (.later found meets)
  apart {offset} after within near opens := by
    rw [advance_tag found] at after within near opens
    have bounds := search_bounds found
    simp only [Tag.stop, Tag.contentStop, Tag.contentStart] at bounds after
    obtain ⟨other, meets, starts, stops⟩ := safe.apart (by omega) within near opens
    generalize known : Outcome.tag other = outcome at meets
    cases meets with
    | now =>
        cases found.symm.trans known.symm
        exact absurd stops (Nat.not_lt.mpr after)
    | later _ meets => exact ⟨other, known ▸ meets, starts, stops⟩

/-- Where no tag is left to be found, no opening begins even if more bytes follow: it would be
followed by a byte already, or it would begin near the end.
-/
theorem SafeBefore.not_openingAt {cursor : Cursor} {more : Bytes} (safe : cursor.SafeBefore more)
    (none : cursor.search = .exhausted) {offset : Nat} (after : cursor.position ≤ offset)
    (within : offset < cursor.data.length)
    : ¬Tag.OpeningAt (cursor.data ++ more) offset := by
  intro opens
  by_cases near : cursor.data.length ≤ offset + Tag.openingSize
  · obtain ⟨tag, meets, -⟩ := safe.apart after within near opens
    cases none.symm.trans (meets.eq_search (by simp [none]))
  · obtain ⟨kind, whole⟩ := opens
    rw [Tag.OpensAt, List.drop_append_of_le_length (Nat.le_of_lt within)] at whole
    have inside : Tag.OpensAt cursor.data kind offset := by
      refine List.prefix_of_prefix_length_le whole (List.prefix_append _ more) ?_
      rw [kind.length_opening, List.length_drop]
      omega
    have scans := cursor.scans_search
    rw [none] at scans
    generalize cursor.advance = next at scans
    cases scans with
    | exhausted empty =>
        have member : offset ∈ openingsFrom cursor.data cursor.position :=
          ⟨after, by omega, kind, inside⟩
        exact Set.notMem_empty _ (empty ▸ member)

/-- The segments from the cursor on are followed by those of the bytes that come after, by recursion
along the searches.
-/
theorem segmentation_append_right {cursor : Cursor} {more : Bytes}
    (safe : cursor.SafeBefore more) (place : cursor.position ≤ cursor.data.length)
    : ({ cursor with data := cursor.data ++ more } : Cursor).segmentation
      = cursor.segmentation.append (Segmentation.ofBytes more) := by
  cases found : cursor.search with
  | unclosed offset => exact absurd (.of_search found) (safe.closed offset)
  | exhausted =>
      have literal (offset : Nat) (within : offset < (cursor.data.drop cursor.position).length)
          : Tag.opening? ((cursor.data.drop cursor.position ++ more).drop offset) = none := by
        rw [List.length_drop] at within
        have closed := safe.not_openingAt found (Nat.le_add_right cursor.position offset)
          (by omega)
        rwa [Tag.openingAt_iff, Option.not_isSome_iff_eq_none, ← List.drop_drop,
          List.drop_append_of_le_length place] at closed
      have whole := segmentation_append (cursor.data.take cursor.position)
        (cursor.data.drop cursor.position ++ more)
      rw [← List.append_assoc, List.take_append_drop, List.length_take,
        Nat.min_eq_left place, Segmentation.ofBytes_literal literal] at whole
      rw [whole, segmentation_exhausted found]
      rfl
  | tag tag =>
      have bounds := search_bounds found
      have shorter := remaining_advance_lt found
      have later := segmentation_append_right (safe.advance found)
        (by rw [advance_tag found]; exact bounds.2)
      rw [advance_tag found] at later
      have longer : ({ cursor with data := cursor.data ++ more } : Cursor).search = .tag tag :=
        search_append_right found more
      have literal : ((cursor.data ++ more).drop cursor.position).take (tag.start - cursor.position)
          = (cursor.data.drop cursor.position).take (tag.start - cursor.position) := by
        simp only [Tag.stop, Tag.contentStop, Tag.contentStart] at bounds
        rw [List.drop_append_of_le_length place,
          List.take_append_of_le_length (by rw [List.length_drop]; omega)]
      rw [segmentation_tag longer, segmentation_tag found, advance_tag longer, advance_tag found,
        later, literal, content_append_right bounds.2]
      rfl
termination_by cursor.remaining

end Cursor

/-- At a safe cut the segments of the whole are those of the two parts. -/
theorem Segmentation.ofBytes_append {first second : Bytes} (cut : SafeCut first second)
    : ofBytes (first ++ second) = (ofBytes first).append (ofBytes second) :=
  Cursor.segmentation_append_right cut (Nat.zero_le _)

end TaggedConfig
