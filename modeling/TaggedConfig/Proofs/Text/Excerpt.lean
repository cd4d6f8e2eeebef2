import TaggedConfig.Text.Excerpt

/-! What an excerpt shows of a text: nothing that lies past its limit, and every character
that fits before it.
-/

namespace TaggedConfig.Text

theorem utf8ByteSize_ofList_cons (c : Char) (text : List Char)
    : (String.ofList (c :: text)).utf8ByteSize
      = c.utf8Size + (String.ofList text).utf8ByteSize := by
  rw [← List.singleton_append, String.ofList_append, String.utf8ByteSize_append,
    ← String.singleton_eq_ofList, String.utf8ByteSize_singleton]

theorem utf8ByteSize_ofList_append (start rest : List Char)
    : (String.ofList (start ++ rest)).utf8ByteSize
      = (String.ofList start).utf8ByteSize + (String.ofList rest).utf8ByteSize := by
  rw [String.ofList_append, String.utf8ByteSize_append]

/-- A start that fits is kept, and the rest has the room that is left, by induction on the
start.
-/
theorem fitting_append_of_fits {room : Nat} {start : List Char} (rest : List Char)
    (fits : (String.ofList start).utf8ByteSize ≤ room)
    : fitting room (start ++ rest)
      = start ++ fitting (room - (String.ofList start).utf8ByteSize) rest := by
  induction start generalizing room with
  | nil => simp
  | cons c start ih =>
      rw [utf8ByteSize_ofList_cons] at fits ⊢
      have here : c.utf8Size ≤ room := by omega
      rw [List.cons_append, fitting, if_pos here, ih (by omega), Nat.sub_sub, List.cons_append]

/-- Nothing is kept after a start that fills the room, by induction on the start. -/
theorem fitting_append_of_full {room : Nat} {start : List Char} (rest : List Char)
    (full : room ≤ (String.ofList start).utf8ByteSize)
    : fitting room (start ++ rest) = fitting room start := by
  induction start generalizing room with
  | nil =>
      obtain rfl : room = 0 := by simpa using full
      cases rest with
      | nil => rfl
      | cons c rest =>
          have positive := c.utf8Size_pos
          simp [fitting, Nat.not_le_of_lt positive]
  | cons c start ih =>
      rw [utf8ByteSize_ofList_cons] at full
      rw [List.cons_append, fitting, fitting]
      split
      · rw [ih (by omega)]
      · rfl

/-- Texts that agree on all that fits have one excerpt, if neither ends there. -/
theorem excerpt_append_eq {limit : Nat} {start first second : List Char}
    (full : limit ≤ (String.ofList start).utf8ByteSize) (firstMore : first ≠ [])
    (secondMore : second ≠ [])
    : excerpt limit (String.ofList (start ++ first))
      = excerpt limit (String.ofList (start ++ second)) := by
  have cut {rest : List Char} (more : rest ≠ [])
      : excerpt limit (String.ofList (start ++ rest))
        = String.ofList (fitting limit start) ++ "..." := by
    obtain ⟨c, rest, rfl⟩ := List.exists_cons_of_ne_nil more
    have positive := c.utf8Size_pos
    have long : ¬ (String.ofList (start ++ c :: rest)).utf8ByteSize ≤ limit := by
      rw [utf8ByteSize_ofList_append, utf8ByteSize_ofList_cons]
      omega
    rw [excerpt, if_neg long, String.toList_ofList, fitting_append_of_full _ full]
  rw [cut firstMore, cut secondMore]

/-- Texts that differ in a character that fits have two excerpts. -/
theorem excerpt_append_ne {limit : Nat} {start rest : List Char} {first second : Char}
    (differ : first ≠ second) (sizes : first.utf8Size = second.utf8Size)
    (fits : (String.ofList start).utf8ByteSize + first.utf8Size ≤ limit)
    : excerpt limit (String.ofList (start ++ first :: rest))
      ≠ excerpt limit (String.ofList (start ++ second :: rest)) := by
  have startFits : (String.ofList start).utf8ByteSize ≤ limit := by omega
  have roomFirst : first.utf8Size ≤ limit - (String.ofList start).utf8ByteSize := by omega
  have roomSecond : second.utf8Size ≤ limit - (String.ofList start).utf8ByteSize := by omega
  have sameSize : (String.ofList (start ++ first :: rest)).utf8ByteSize
      = (String.ofList (start ++ second :: rest)).utf8ByteSize := by
    simp only [utf8ByteSize_ofList_append, utf8ByteSize_ofList_cons, sizes]
  rw [excerpt, excerpt, sameSize]
  split
  · rw [ne_eq, String.ofList_inj, List.append_cancel_left_eq, List.cons.injEq]
    exact fun same => differ same.1
  · intro same
    have lists := congrArg String.toList same
    simp only [String.toList_append, String.toList_ofList, fitting_append_of_fits _ startFits,
      fitting, if_pos roomFirst, if_pos roomSecond, List.append_assoc, List.cons_append,
      List.append_cancel_left_eq, List.cons.injEq] at lists
    exact differ lists.1

end TaggedConfig.Text
