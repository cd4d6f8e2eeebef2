import TaggedConfig.Proofs.Text.Encoding
import TaggedConfig.Source.Query

/-! Form-encoding, which decoding undoes whatever the text is.
Letters, digits and a few marks stand for themselves, a plus for a space, and other bytes are
written in hexadecimal, so nothing that is encoded holds a character that parts a query.
-/

namespace TaggedConfig.Query

/-- Bytes that an encoder leaves as they are. -/
def isPlain (b : UInt8) : Bool :=
  isDigit b
  || (byte 'a' ≤ b && b ≤ byte 'z')
  || (byte 'A' ≤ b && b ≤ byte 'Z')
  || [byte '*', byte '-', byte '.', byte '_'].contains b

def hexDigit (n : Nat) : Char := if n < 10 then Char.ofNat (48 + n) else Char.ofNat (55 + n)

def escapeByte (b : UInt8) : List Char :=
  if b = byte ' ' then ['+']
  else if isPlain b then [Char.ofNat b.toNat]
  else ['%', hexDigit (b.toNat / 16), hexDigit (b.toNat % 16)]

/-- A name or value as it is written in a query. -/
def encodeText (text : String) : List Char := (Utf8.encode text).flatMap escapeByte

/-- Characters that part an address or its query. -/
def separators : List Char := ['?', '&', '=', '#']

-----------------------------------------------------------------------------------------
-- One byte
-----------------------------------------------------------------------------------------

theorem toNat_lt_of_isPlain {b : UInt8} (plain : isPlain b) : b.toNat < 128 := by
  simp only [isPlain, isDigit, byte, Bool.or_eq_true, Bool.and_eq_true, decide_eq_true_eq,
    UInt8.le_iff_toNat_le, List.contains_eq_mem, List.mem_cons, List.not_mem_nil,
    or_false] at plain
  rcases plain with ((digit | small) | capital) | rfl | rfl | rfl | rfl
  · exact Nat.lt_of_le_of_lt digit.2 (by decide)
  · exact Nat.lt_of_le_of_lt small.2 (by decide)
  · exact Nat.lt_of_le_of_lt capital.2 (by decide)
  all_goals decide

/-- A byte that is left as it is is an ASCII character that parts nothing. -/
theorem char_of_isPlain {b : UInt8} (plain : isPlain b)
    : byte (Char.ofNat b.toNat) = b
      ∧ (Char.ofNat b.toNat).toNat < 128
      ∧ Char.ofNat b.toNat ∉ separators := by
  have ascii
      : ∀ n < 128,
          isPlain (UInt8.ofNat n) = true →
            byte (Char.ofNat n) = UInt8.ofNat n
            ∧ (Char.ofNat n).toNat < 128
            ∧ Char.ofNat n ∉ separators := by
    decide +kernel
  simpa using ascii b.toNat (toNat_lt_of_isPlain plain) (by simpa using plain)

theorem hexDigit_spec
    : ∀ n < 16,
        hexValue? (byte (hexDigit n)) = some n
        ∧ (hexDigit n).toNat < 128
        ∧ hexDigit n ∉ separators := by
  decide

/-- What is written for a byte is ASCII and parts nothing. -/
theorem of_mem_escapeByte {b : UInt8} {c : Char} (member : c ∈ escapeByte b)
    : c.toNat < 128 ∧ c ∉ separators := by
  unfold escapeByte at member
  split_ifs at member with space plain
  · rw [List.mem_singleton.mp member]
    decide
  · rw [List.mem_singleton.mp member]
    exact (char_of_isPlain plain).2
  · have size := b.toNat_lt
    simp only [List.mem_cons, List.not_mem_nil, or_false] at member
    rcases member with rfl | rfl | rfl
    · decide
    · exact (hexDigit_spec _ (by omega)).2
    · exact (hexDigit_spec _ (by omega)).2

theorem unescape_plus (rest : Bytes) : unescape (byte '+' :: rest) = byte ' ' :: unescape rest := by
  rw [unescape.eq_def]
  rfl

theorem unescape_plain {b : UInt8} (plain : isPlain b) (rest : Bytes)
    : unescape (b :: rest) = b :: unescape rest := by
  have other {c : Char} (marked : isPlain (byte c) = false) : b ≠ byte c := by
    rintro rfl
    rw [plain] at marked
    contradiction
  rw [unescape.eq_def]
  dsimp only
  rw [if_neg (other (by decide)), if_neg (other (by decide))]

theorem unescape_digits {high low : UInt8} {h l : Nat} (first : hexValue? high = some h)
    (second : hexValue? low = some l) (rest : Bytes)
    : unescape (byte '%' :: high :: low :: rest) = UInt8.ofNat (h * 16 + l) :: unescape rest := by
  rw [unescape.eq_def]
  dsimp only
  rw [if_neg (by decide), if_pos rfl, first, second]

/-- What is written for a byte is decoded to the byte. -/
theorem unescape_escapeByte (b : UInt8) (rest : Bytes)
    : unescape ((escapeByte b).map byte ++ rest) = b :: unescape rest := by
  unfold escapeByte
  split_ifs with space plain
  · exact space ▸ unescape_plus rest
  · rw [List.map_singleton, (char_of_isPlain plain).1]
    exact unescape_plain plain rest
  · have size := b.toNat_lt
    have whole : UInt8.ofNat (b.toNat / 16 * 16 + b.toNat % 16) = b := by
      rw [Nat.div_add_mod', UInt8.ofNat_toNat]
    have high := (hexDigit_spec (b.toNat / 16) (by omega)).1
    have low := (hexDigit_spec (b.toNat % 16) (by omega)).1
    exact (unescape_digits high low rest).trans (congrArg (· :: unescape rest) whole)

-----------------------------------------------------------------------------------------
-- Texts
-----------------------------------------------------------------------------------------

theorem encodeText_noSeparator (text : String) {c : Char} (separator : c ∈ separators)
    : c ∉ encodeText text := by
  intro member
  obtain ⟨b, -, written⟩ := List.mem_flatMap.mp member
  exact (of_mem_escapeByte written).2 separator

/-- The bytes that are decoded from what is written for them, by induction on them. -/
theorem unescape_flatMap_escapeByte (bytes : Bytes)
    : unescape ((bytes.flatMap escapeByte).map byte) = bytes := by
  induction bytes with
  | nil => rfl
  | cons b bytes ih => rw [List.flatMap_cons, List.map_append, unescape_escapeByte, ih]

/-- Every text is decoded from what is written for it. -/
theorem decodeText_encodeText (text : String) : decodeText (encodeText text) = text := by
  have ascii : ∀ c ∈ encodeText text, c.toNat < 128 := by
    intro c member
    obtain ⟨b, -, written⟩ := List.mem_flatMap.mp member
    exact (of_mem_escapeByte written).1
  rw [decodeText, Utf8.encode_ofList_of_ascii ascii, encodeText, unescape_flatMap_escapeByte,
    Utf8.repair_encode]

end TaggedConfig.Query
