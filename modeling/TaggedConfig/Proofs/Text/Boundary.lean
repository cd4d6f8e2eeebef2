import Mathlib.Order.Bounds.Basic
import TaggedConfig.Proofs.Text.Encoding
import TaggedConfig.Proofs.Text.Excerpt

/-! Cutting the bytes of a text.
The byte at an offset tells whether a cut there falls between characters. A search that counts
down to such an offset never runs past the first byte, and the slice it ends at is an excerpt.
-/

namespace TaggedConfig.Utf8

/-- The offset lies between two characters of the text or at one of its ends. -/
def Cuts (text : String) (offset : Nat) : Prop :=
  ∃ before after, text = before ++ after ∧ before.utf8ByteSize = offset

/-- Whether a byte is the first one of a character, as far as the byte itself tells. -/
def beginsCharacter (b : UInt8) : Bool := b < 0x80 || 0xC0 ≤ b

/-- Whether an offset is at an end of the bytes or at the first byte of a character. -/
def isBoundary (bytes : Bytes) (offset : Nat) : Bool :=
  offset = 0
    || match bytes[offset]? with
      | some b => beginsCharacter b
      | none => offset = bytes.length

/-- The first boundary that is met when counting down from an offset, `none` if the count has
to go below zero.
-/
def boundaryFrom? (bytes : Bytes) : Nat → Option Nat
  | 0 => if isBoundary bytes 0 then some 0 else none
  | offset + 1 =>
      if isBoundary bytes (offset + 1) then some (offset + 1) else boundaryFrom? bytes offset

/-- The bytes up to an offset, `none` for an offset within a character or past the end. -/
def sliceTo? (bytes : Bytes) (stop : Nat) : Option Bytes :=
  if isBoundary bytes stop then some (bytes.take stop) else none

/-- The bytes themselves if they fit, else those up to the last boundary that does, with three
dots. `none` stands for a count below zero or a slice that is refused.
-/
def truncate? (limit : Nat) (bytes : Bytes) : Option Bytes :=
  if bytes.length ≤ limit then some bytes
  else
    (boundaryFrom? bytes limit).bind fun stop => (sliceTo? bytes stop).map (· ++ ascii "...")

-----------------------------------------------------------------------------------------
-- Boundaries of bytes and cuts of a text
-----------------------------------------------------------------------------------------

theorem length_encode (text : String) : (encode text).length = text.utf8ByteSize := by
  rw [← String.ofList_toList (s := text), encode, String.toList_ofList]
  induction text.toList with
  | nil => rfl
  | cons c chars ih =>
      rw [List.flatMap_cons, List.length_append, String.length_utf8EncodeChar, ih,
        Text.utf8ByteSize_ofList_cons]

theorem take_encode_append (before after : String)
    : (encode (before ++ after)).take before.utf8ByteSize = encode before := by
  rw [encode_append, ← length_encode, List.take_left]

/-- Only the first of the bytes that spell a character begins one. -/
theorem Spells.begins {lead : UInt8} {tail : Bytes} {code : Nat}
    (spells : Spells (lead :: tail) code)
    : beginsCharacter lead = true ∧ ∀ b ∈ tail, beginsCharacter b = false := by
  have begins {b : UInt8}
      : beginsCharacter b = true ↔ b.toNat < 0x80 ∨ 0xC0 ≤ b.toNat := by
    simp only [beginsCharacter, UInt8.lt_iff_toNat_lt, UInt8.le_iff_toNat_le, Bool.or_eq_true,
      decide_eq_true_eq]
    rfl
  have continues {b : UInt8} (within : 0x80 ≤ b.toNat ∧ b.toNat ≤ 0xBF)
      : beginsCharacter b = false :=
    Bool.eq_false_iff.mpr fun begun => by have := begins.mp begun; omega
  cases spells with
  | one first => exact ⟨begins.mpr (Or.inl first), by simp⟩
  | two first second =>
      rw [within_secondRange] at second
      exact ⟨begins.mpr (by omega), by simpa using continues second.1⟩
  | three first second third =>
      rw [within_secondRange] at second
      rw [within_laterRange] at third
      exact ⟨begins.mpr (by omega), by simpa using ⟨continues second.1, continues third⟩⟩
  | four first second third fourth =>
      rw [within_secondRange] at second
      rw [within_laterRange] at third fourth
      exact ⟨begins.mpr (by omega),
        by simpa using ⟨continues second.1, continues third, continues fourth⟩⟩

theorem encode_cons (c : Char) (chars : List Char)
    : ∃ lead tail,
        encode (String.ofList (c :: chars)) = lead :: (tail ++ encode (String.ofList chars))
        ∧ tail.length + 1 = c.utf8Size
        ∧ Spells (lead :: tail) c.toNat := by
  obtain ⟨lead, tail, first, -⟩ := (spells_encodeChar c).next
  refine ⟨lead, tail, by simp [encode, first], ?_, first ▸ spells_encodeChar c⟩
  rw [← String.length_utf8EncodeChar, first, List.length_cons]

/-- No boundary lies within a character, since the byte there continues it. -/
theorem isBoundary_inside {c : Char} {chars : List Char} {offset : Nat} (positive : 0 < offset)
    (inside : offset < c.utf8Size)
    : isBoundary (encode (String.ofList (c :: chars))) offset = false := by
  obtain ⟨lead, tail, whole, size, spells⟩ := encode_cons c chars
  obtain ⟨offset, rfl⟩ := Nat.exists_eq_add_of_lt positive
  have inside : offset < tail.length := by omega
  have continues := spells.begins.2 _ (List.getElem_mem inside)
  rw [whole]
  simp [isBoundary, List.getElem?_append_left inside, List.getElem?_eq_getElem inside, continues]

/-- After a character, the boundaries are those of the text that follows, which begins with a
boundary since its first byte begins a character.
-/
theorem isBoundary_past (c : Char) (chars : List Char) (more : Nat)
    : isBoundary (encode (String.ofList (c :: chars))) (c.utf8Size + more)
      = isBoundary (encode (String.ofList chars)) more := by
  obtain ⟨lead, tail, whole, size, -⟩ := encode_cons c chars
  rw [whole, ← size]
  cases more with
  | zero =>
      cases chars with
      | nil => simp [isBoundary, encode]
      | cons d chars =>
          obtain ⟨next, later, rest, -, spells⟩ := encode_cons d chars
          rw [rest]
          simp [isBoundary, spells.begins.1]
  | succ more =>
      rw [show tail.length + 1 + (more + 1) = tail.length + (more + 1) + 1 by omega]
      simp [isBoundary, List.getElem?_append_right]

theorem cuts_cons {c : Char} {chars : List Char} {offset : Nat}
    : Cuts (String.ofList (c :: chars)) offset
      ↔ offset = 0
        ∨ ∃ more, offset = c.utf8Size + more ∧ Cuts (String.ofList chars) more := by
  constructor
  · rintro ⟨before, after, whole, rfl⟩
    have whole := congrArg String.toList whole
    rw [String.toList_append, String.toList_ofList] at whole
    rcases List.cons_eq_append_iff.mp whole with ⟨none, -⟩ | ⟨start, first, rest⟩
    · left
      rw [← String.ofList_toList (s := before), none]
      rfl
    · right
      refine ⟨(String.ofList start).utf8ByteSize, ?_, String.ofList start, after, ?_, rfl⟩
      · rw [← String.ofList_toList (s := before), first, Text.utf8ByteSize_ofList_cons]
      · rw [rest, String.ofList_append, String.ofList_toList]
  · rintro (rfl | ⟨more, rfl, before, after, rest, rfl⟩)
    · exact ⟨"", String.ofList (c :: chars), by simp, rfl⟩
    · refine ⟨String.ofList (c :: before.toList), after, ?_, ?_⟩
      · have chars := congrArg String.toList rest
        rw [String.toList_ofList, String.toList_append] at chars
        rw [chars, ← List.cons_append, String.ofList_append, String.ofList_toList]
      · rw [Text.utf8ByteSize_ofList_cons, String.ofList_toList]

/-- The boundaries of the bytes of a text are the cuts of the text, by induction on it. -/
theorem isBoundary_encode_iff {text : String} {offset : Nat}
    : isBoundary (encode text) offset = true ↔ Cuts text offset := by
  rw [← String.ofList_toList (s := text)]
  generalize text.toList = chars
  induction chars generalizing offset with
  | nil =>
      constructor
      · intro boundary
        have start : offset = 0 := by simpa [isBoundary, encode] using boundary
        exact ⟨"", "", rfl, start.symm⟩
      · rintro ⟨before, after, whole, rfl⟩
        obtain ⟨rfl, -⟩ := String.append_eq_empty_iff.mp whole.symm
        rfl
  | cons c chars ih =>
      rw [cuts_cons]
      constructor
      · intro boundary
        rcases Nat.eq_zero_or_pos offset with start | positive
        · exact Or.inl start
        rcases Nat.lt_or_ge offset c.utf8Size with inside | outside
        · rw [isBoundary_inside positive inside] at boundary
          contradiction
        · obtain ⟨more, rfl⟩ := Nat.exists_eq_add_of_le outside
          rw [isBoundary_past] at boundary
          exact Or.inr ⟨more, rfl, ih.mp boundary⟩
      · rintro (rfl | ⟨more, rfl, cuts⟩)
        · rfl
        · rw [isBoundary_past]
          exact ih.mpr cuts

-----------------------------------------------------------------------------------------
-- The search
-----------------------------------------------------------------------------------------

/-- The search never runs past the first byte and meets the last boundary that is not past its
start, by induction on the start.
-/
theorem exists_boundaryFrom? (bytes : Bytes) (limit : Nat)
    : ∃ stop,
        boundaryFrom? bytes limit = some stop
        ∧ IsGreatest {offset | offset ≤ limit ∧ isBoundary bytes offset = true} stop := by
  induction limit with
  | zero => exact ⟨0, rfl, ⟨Nat.le_refl 0, rfl⟩, fun offset member => member.1⟩
  | succ limit ih =>
      by_cases boundary : isBoundary bytes (limit + 1) = true
      · refine ⟨limit + 1, by rw [boundaryFrom?, if_pos boundary], ⟨Nat.le_refl _, boundary⟩, ?_⟩
        exact fun offset member => member.1
      · obtain ⟨stop, met, ⟨below, isBoundary⟩, greatest⟩ := ih
        refine ⟨stop, by rw [boundaryFrom?, if_neg boundary, met], ⟨by omega, isBoundary⟩, ?_⟩
        rintro offset ⟨reached, other⟩
        have passed : offset ≠ limit + 1 := fun same => boundary (same ▸ other)
        exact greatest ⟨by omega, other⟩

-----------------------------------------------------------------------------------------
-- Excerpts
-----------------------------------------------------------------------------------------

end TaggedConfig.Utf8

namespace TaggedConfig.Text

/-- What is kept of a text is a start of it that fits, and the character after it does not fit
any more, by induction on the text.
-/
theorem exists_fitting_append (room : Nat) (chars : List Char)
    : ∃ rest,
        chars = fitting room chars ++ rest
        ∧ (String.ofList (fitting room chars)).utf8ByteSize ≤ room
        ∧ ∀ c more, rest = c :: more →
            room < (String.ofList (fitting room chars)).utf8ByteSize + c.utf8Size := by
  induction chars generalizing room with
  | nil => exact ⟨[], rfl, Nat.zero_le room, by simp⟩
  | cons c chars ih =>
      by_cases fits : c.utf8Size ≤ room
      · obtain ⟨rest, whole, within, next⟩ := ih (room - c.utf8Size)
        rw [fitting, if_pos fits, utf8ByteSize_ofList_cons]
        refine ⟨rest, by rw [List.cons_append, ← whole], by omega, fun d more left => ?_⟩
        have past := next d more left
        omega
      · rw [fitting, if_neg fits]
        refine ⟨c :: chars, rfl, Nat.zero_le room, fun d more left => ?_⟩
        obtain ⟨rfl, -⟩ := List.cons.inj left
        show room < 0 + c.utf8Size
        omega

/-- What is kept of a text ends at the last cut that fits, since every later cut has the
character that does not fit before it.
-/
theorem isGreatest_fitting (room : Nat) (text : String)
    : IsGreatest {offset | offset ≤ room ∧ Utf8.Cuts text offset}
        (String.ofList (fitting room text.toList)).utf8ByteSize := by
  obtain ⟨rest, whole, within, next⟩ := exists_fitting_append room text.toList
  generalize fitting room text.toList = kept at whole within next ⊢
  constructor
  · refine ⟨within, String.ofList kept, String.ofList rest, ?_, rfl⟩
    rw [← String.ofList_append, ← whole, String.ofList_toList]
  · rintro offset ⟨fits, before, after, split, rfl⟩
    rw [split, String.toList_append] at whole
    -- what is before the cut is a start of what is kept, or goes on with the character after it
    rcases List.append_eq_append_iff.mp whole with ⟨left, longer, -⟩ | ⟨left, longer, remaining⟩
    · rw [longer, utf8ByteSize_ofList_append, String.ofList_toList]
      omega
    · rw [← String.ofList_toList (s := before), longer, utf8ByteSize_ofList_append] at fits ⊢
      cases left with
      | nil => exact Nat.le_refl _
      | cons c left =>
          have past := next c (left ++ after.toList) remaining
          rw [utf8ByteSize_ofList_cons] at fits
          omega

/-- At most the bytes of one character less one are given up at the cut of a text that does
not fit.
-/
theorem le_utf8ByteSize_fitting {room : Nat} {text : String} (long : room < text.utf8ByteSize)
    : room ≤ (String.ofList (fitting room text.toList)).utf8ByteSize + 3 := by
  obtain ⟨rest, whole, -, next⟩ := exists_fitting_append room text.toList
  cases rest with
  | nil =>
      rw [List.append_nil] at whole
      rw [← whole, String.ofList_toList]
      omega
  | cons c rest =>
      have past := next c rest rfl
      have size := c.utf8Size_le_four
      omega

/-- The excerpt of a text that does not fit is the slice up to the boundary that the search
meets, with three dots. That is the last cut that fits, short of the limit by less than a
character.
-/
theorem exists_cut_of_long {limit : Nat} {text : String} (long : limit < text.utf8ByteSize)
    : ∃ stop,
        IsGreatest {offset | offset ≤ limit ∧ Utf8.Cuts text offset} stop
        ∧ limit ≤ stop + 3
        ∧ Utf8.boundaryFrom? (Utf8.encode text) limit = some stop
        ∧ Utf8.encode (excerpt limit text) = (Utf8.encode text).take stop ++ ascii "..." := by
  obtain ⟨stop, met, greatest⟩ := Utf8.exists_boundaryFrom? (Utf8.encode text) limit
  simp only [Utf8.isBoundary_encode_iff] at greatest
  obtain rfl := greatest.unique (isGreatest_fitting limit text)
  refine ⟨_, greatest, le_utf8ByteSize_fitting long, met, ?_⟩
  obtain ⟨rest, whole, -, -⟩ := exists_fitting_append limit text.toList
  have split : text = String.ofList (fitting limit text.toList) ++ String.ofList rest := by
    rw [← String.ofList_append, ← whole, String.ofList_toList]
  have kept := Utf8.take_encode_append (String.ofList (fitting limit text.toList))
    (String.ofList rest)
  rw [← split] at kept
  rw [kept, excerpt, if_neg (Nat.not_le_of_lt long), Utf8.encode_append]
  rfl

/-- An excerpt is at most three dots longer than its limit. -/
theorem length_encode_excerpt_le (limit : Nat) (text : String)
    : (Utf8.encode (excerpt limit text)).length ≤ limit + 3 := by
  rcases Nat.lt_or_ge limit text.utf8ByteSize with long | fits
  · obtain ⟨stop, ⟨⟨within, -⟩, -⟩, -, -, shown⟩ := exists_cut_of_long long
    rw [shown, List.length_append, List.length_take, show (ascii "...").length = 3 from rfl]
    omega
  · rw [excerpt, if_pos fits, Utf8.length_encode]
    omega

/-- Shortening the bytes of a text succeeds, with neither a count below zero nor a refused slice,
and gives the bytes of its excerpt.
-/
theorem truncate?_encode (limit : Nat) (text : String)
    : Utf8.truncate? limit (Utf8.encode text) = some (Utf8.encode (excerpt limit text)) := by
  rw [Utf8.truncate?, Utf8.length_encode]
  split
  next fits => rw [excerpt, if_pos fits]
  next long =>
    obtain ⟨stop, ⟨⟨-, cuts⟩, -⟩, -, met, shown⟩ := exists_cut_of_long (Nat.lt_of_not_le long)
    rw [met, Option.bind_some, Utf8.sliceTo?, if_pos (Utf8.isBoundary_encode_iff.mpr cuts),
      Option.map_some, shown]

end TaggedConfig.Text
