import TaggedConfig.Proofs.Outcome
import TaggedConfig.Proofs.Tag.Filling

/-! A search that walks through the buffer by offset, one byte after another.
It tells of any byte that it asks for and that the buffer does not have. There is none, and what it
finds is what a search of the remaining bytes finds.
-/

namespace TaggedConfig

open Outcome

/-- The byte at an offset; the offset itself if the buffer has no such byte. -/
def readByte (data : Bytes) (offset : Nat) : Except Nat UInt8 :=
  match data[offset]? with
  | some b => .ok b
  | none => .error offset

theorem Tag.openingSize_pos : 0 < openingSize := by decide

/-- The kind of the opening at an offset. Nothing is read where too few bytes are left for one. -/
def readOpening (data : Bytes) (offset : Nat) : Except Nat (Option Tag.Kind) :=
  if offset + Tag.openingSize ≤ data.length then
    Tag.opening? <$> (List.range' offset Tag.openingSize).mapM (readByte data)
  else .ok none

/-- The offset of the brace that closes a tag in whose content `openTags` tags stand open. The walk
goes on after the whole of an opening.
-/
def readClosing (data : Bytes) (openTags offset : Nat) : Except Nat (Option Nat) :=
  if offset < data.length then do
    let b ← readByte data offset
    if b = byte '}' then
      match openTags with
      | 0 => pure (some offset)
      | openTags + 1 => readClosing data openTags (offset + 1)
    else if b = byte '$' then
      match ← readOpening data offset with
      | some _ => readClosing data (openTags + 1) (offset + Tag.openingSize)
      | none => readClosing data openTags (offset + 1)
    else readClosing data openTags (offset + 1)
  else .ok none
termination_by data.length - offset
decreasing_by
  all_goals
    have positive := Tag.openingSize_pos
    omega

/-- Searches by offset, and moves the cursor on the way. -/
def Cursor.walk (cursor : Cursor) : Except Nat (Cursor.Outcome × Cursor) :=
  if cursor.position + Tag.openingSize < cursor.data.length then do
    match ← readOpening cursor.data cursor.position with
    | some kind =>
        let contentStart := cursor.position + Tag.openingSize
        match ← readClosing cursor.data 0 contentStart with
        | some stop =>
            pure (.tag ⟨kind, cursor.position, stop - contentStart⟩,
              { cursor with position := stop + 1 })
        | none => pure (.unclosed cursor.position, cursor)
    | none => Cursor.walk { cursor with position := cursor.position + 1 }
  else .ok (.exhausted, cursor)
termination_by cursor.data.length - cursor.position
decreasing_by omega

-----------------------------------------------------------------------------------------
-- Every byte that is asked for is there
-----------------------------------------------------------------------------------------

theorem readByte_eq {data : Bytes} {offset : Nat} (within : offset < data.length)
    : readByte data offset = .ok data[offset] := by
  rw [readByte, List.getElem?_eq_getElem within]

/-- Bytes that are there are read one after the other, by induction on their number. -/
theorem mapM_readByte {data : Bytes} {offset size : Nat} (within : offset + size ≤ data.length)
    : (List.range' offset size).mapM (readByte data) = .ok ((data.drop offset).take size) := by
  induction size generalizing offset with
  | zero => rfl
  | succ size ih =>
      have inside : offset < data.length := by omega
      rw [List.range'_succ, List.mapM_cons, readByte_eq inside, ih (by omega),
        List.drop_eq_getElem_cons inside, List.take_succ_cons]
      rfl

/-- Six bytes are enough to tell an opening. -/
theorem Tag.opening?_take (bytes : Bytes) : opening? (bytes.take openingSize) = opening? bytes := by
  match bytes with
  | [] | [_] | [_, _] | [_, _, _] | [_, _, _, _] | [_, _, _, _, _] => rfl
  | _ :: _ :: _ :: _ :: _ :: _ :: _ => rfl

theorem Tag.opening?_eq_none_of_short {bytes : Bytes} (short : bytes.length < openingSize)
    : opening? bytes = none := by
  cases opened : opening? bytes with
  | none => rfl
  | some kind =>
      obtain ⟨rest, rfl⟩ := opening?_eq_some opened
      rw [List.length_append, kind.length_opening] at short
      omega

/-- What is read at an offset is the opening of the bytes from there on. -/
theorem readOpening_eq (data : Bytes) (offset : Nat)
    : readOpening data offset = .ok (Tag.opening? (data.drop offset)) := by
  unfold readOpening
  split
  · rename_i within
    rw [mapM_readByte within]
    exact congrArg Except.ok (Tag.opening?_take _)
  · rename_i short
    have positive := Tag.openingSize_pos
    rw [Tag.opening?_eq_none_of_short (by rw [List.length_drop]; omega)]

theorem Tag.opening?_eq_none {b : UInt8} (other : b ≠ byte '$') (rest : Bytes)
    : opening? (b :: rest) = none := by
  cases opened : opening? (b :: rest) with
  | none => rfl
  | some kind =>
      obtain ⟨more, whole⟩ := opening?_eq_some opened
      exact absurd (List.cons.inj whole).1 other

/-- A byte that is no brace and begins no opening is passed. -/
theorem Tag.closing?_cons {b : UInt8} {rest : Bytes} (noBrace : b ≠ byte '}')
    (closed : opening? (b :: rest) = none) (openTags offset : Nat)
    : closing? openTags offset (b :: rest) = closing? openTags (offset + 1) rest := by
  rw [closing?.eq_def]
  dsimp only
  rw [if_neg noBrace, closed]
  rfl

/-- Bytes that begin neither braces nor openings are passed, by induction on them. -/
theorem Tag.closing?_append {bytes : Bytes} (plain : ∀ b ∈ bytes, b ≠ byte '}' ∧ b ≠ byte '$')
    (openTags offset : Nat) (rest : Bytes)
    : closing? openTags offset (bytes ++ rest)
      = closing? openTags (offset + bytes.length) rest := by
  induction bytes generalizing offset with
  | nil => rfl
  | cons b bytes ih =>
      rw [List.forall_mem_cons] at plain
      rw [List.cons_append, closing?_cons plain.1.1 (opening?_eq_none plain.1.2 _), ih plain.2,
        List.length_cons, Nat.add_right_comm, Nat.add_assoc]

/-- Nothing closes within an opening, so a search may go on after it. -/
theorem Tag.closing?_opening (openTags offset : Nat) (kind : Kind) (rest : Bytes)
    : closing? openTags offset (kind.opening ++ rest)
      = closing? (openTags + 1) (offset + openingSize) rest := by
  have opened := opening?_opening kind rest
  obtain ⟨letters, whole, plain⟩
      : ∃ letters,
          kind.opening = byte '$' :: letters
          ∧ (letters.all fun b => b ≠ byte '}' ∧ b ≠ byte '$') = true := by
    cases kind <;> exact ⟨_, rfl, by decide⟩
  have size : letters.length + 1 = openingSize := by
    rw [← kind.length_opening, whole, List.length_cons]
  rw [whole, List.cons_append] at opened ⊢
  rw [closing?.eq_def]
  dsimp only
  rw [if_neg (by decide), opened, Option.isSome_some, if_pos rfl,
    closing?_append (by simpa using plain), Nat.add_assoc, Nat.add_comm 1, size]

/-- The walk finds the brace that a search finds. By induction on the walk. -/
theorem readClosing_eq (data : Bytes) (openTags offset : Nat)
    : readClosing data openTags offset
      = .ok (Tag.closing? openTags offset (data.drop offset)) := by
  fun_induction readClosing data openTags offset with
  | case1 openTags offset inside next skip stay =>
      have whole := List.drop_eq_getElem_cons inside
      rw [readByte_eq inside, ok_bind]
      generalize data[offset] = b at whole
      by_cases brace : b = byte '}'
      · rw [if_pos brace, whole, brace, Tag.closing?.eq_def]
        cases openTags with
        | zero => rfl
        | succ openTags => exact next openTags
      · rw [if_neg brace]
        by_cases dollar : b = byte '$'
        · rw [if_pos dollar, readOpening_eq, ok_bind]
          cases opened : Tag.opening? (data.drop offset) with
          | none =>
              rw [whole] at opened
              rw [stay, whole, Tag.closing?_cons brace opened]
          | some kind =>
              obtain ⟨rest, split⟩ := Tag.opening?_eq_some opened
              have after : data.drop (offset + Tag.openingSize) = rest := by
                rw [← List.drop_drop, split, ← kind.length_opening, List.drop_left]
              rw [skip, split, Tag.closing?_opening, after]
        · rw [if_neg dollar, stay, whole,
            Tag.closing?_cons brace (Tag.opening?_eq_none dollar _)]
  | case2 openTags offset outside =>
      rw [List.drop_eq_nil_of_le (Nat.le_of_not_lt outside)]
      rfl

namespace Cursor

/-- A search that finds nothing at the cursor goes on after it. -/
theorem search_next {cursor : Cursor}
    (inside : cursor.position + Tag.openingSize < cursor.data.length)
    (closed : Tag.opening? (cursor.data.drop cursor.position) = none)
    : cursor.search = ({ cursor with position := cursor.position + 1 } : Cursor).search := by
  have whole := List.drop_eq_getElem_cons (show cursor.position < cursor.data.length by omega)
  rw [whole] at closed
  simp only [search, whole, firstOpening?, closed]

/-- The cursor is left where a search from the next byte leaves it. -/
theorem advance_next {cursor : Cursor}
    (inside : cursor.position + Tag.openingSize < cursor.data.length)
    (closed : Tag.opening? (cursor.data.drop cursor.position) = none)
    : cursor.advance = ({ cursor with position := cursor.position + 1 } : Cursor).advance := by
  rw [advance, advance, search_next inside closed]
  cases ({ cursor with position := cursor.position + 1 } : Cursor).search with
  | tag tag => rfl
  | unclosed offset => rfl
  | exhausted =>
      simp only [Cursor.mk.injEq, true_and]
      omega

/-- A search that begins at an opening depends on the brace that closes it. -/
theorem search_opening {cursor : Cursor} {kind : Tag.Kind}
    (inside : cursor.position + Tag.openingSize < cursor.data.length)
    (opened : Tag.opening? (cursor.data.drop cursor.position) = some kind)
    : cursor.search
      = match Tag.closing? 0 (cursor.position + Tag.openingSize)
          (cursor.data.drop (cursor.position + Tag.openingSize)) with
        | none => .unclosed cursor.position
        | some stop =>
            .tag ⟨kind, cursor.position, stop - (cursor.position + Tag.openingSize)⟩ := by
  have whole := List.drop_eq_getElem_cons (show cursor.position < cursor.data.length by omega)
  have more : ¬((cursor.data.drop (cursor.position + 1)).drop (Tag.openingSize - 1)).isEmpty := by
    have positive := Tag.openingSize_pos
    rw [List.drop_drop, List.isEmpty_iff, List.drop_eq_nil_iff]
    omega
  rw [whole] at opened
  simp only [search, whole, firstOpening?, opened, more]
  rfl

/-- The walk asks for no byte that the buffer does not have, finds what a search finds and leaves
the cursor where a search leaves it. By induction on the walk.
-/
theorem walk_eq (cursor : Cursor) : cursor.walk = .ok (cursor.search, cursor.advance) := by
  fun_induction walk cursor with
  | case1 cursor inside next =>
      rw [readOpening_eq, ok_bind]
      cases opened : Tag.opening? (cursor.data.drop cursor.position) with
      | none => rw [next, advance_next inside opened, search_next inside opened]
      | some kind =>
          have found := search_opening inside opened
          dsimp only
          rw [readClosing_eq, ok_bind]
          cases closed : Tag.closing? 0 (cursor.position + Tag.openingSize)
            (cursor.data.drop (cursor.position + Tag.openingSize)) with
          | none =>
              rw [closed] at found
              rw [advance, found]
              rfl
          | some stop =>
              rw [closed] at found
              have place : cursor.position + Tag.openingSize ≤ stop :=
                (Tag.closing?_bounds closed).1
              rw [advance, found]
              simp only [Tag.stop, Tag.contentStop, Tag.contentStart, Nat.add_sub_cancel' place]
              rfl
  | case2 cursor outside =>
      have found : cursor.search = .exhausted := by
        rw [search]
        cases opened : firstOpening? cursor.position (cursor.data.drop cursor.position) with
        | none => rfl
        | some opening =>
            have bound := firstOpening?_add_lt opened
            have after := firstOpening?_offset_le opened
            rw [List.length_drop] at bound
            omega
      have stays
          : max cursor.position (cursor.data.length - Tag.openingSize) = cursor.position := by
        omega
      rw [advance, found]
      simp only [stays]

end Cursor

end TaggedConfig
