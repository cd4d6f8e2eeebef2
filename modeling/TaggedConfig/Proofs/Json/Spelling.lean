import TaggedConfig.Json.Print
import TaggedConfig.Proofs.Json.Readable
import TaggedConfig.Proofs.Json.Runs
import TaggedConfig.Proofs.Text.Encoding

/-! Numbers and strings as they are printed, and what reading makes of them.
A whole number is read digit by digit as itself, and a string character by character, whether a
character is escaped or stands for itself.
-/

namespace TaggedConfig.Json

-----------------------------------------------------------------------------------------
-- Whole numbers
-----------------------------------------------------------------------------------------

/-- The values of the decimal digits of a number. -/
def digitValues (n : Nat) : List Nat := (Nat.toDigits 10 n).map (·.toNat - 48)

/-- The decimal digits of a number as bytes. -/
def decimal (n : Nat) : Bytes := (Nat.toDigits 10 n).map byte

theorem digitValues_of_lt {n : Nat} (small : n < 10) : digitValues n = [n] := by
  rw [digitValues, Nat.toDigits_of_lt_base small, List.map_singleton,
    Nat.toNat_digitChar_of_lt_ten small]
  simp

theorem digitValues_of_le {n : Nat} (large : 10 ≤ n)
    : digitValues n = digitValues (n / 10) ++ [n % 10] := by
  rw [digitValues, Nat.toDigits_of_base_le (by decide) large, List.map_append, List.map_singleton,
    Nat.toNat_digitChar_of_lt_ten (Nat.mod_lt n (by decide)), Nat.add_sub_cancel_left, digitValues]

/-- The first digit of a number is no zero unless it is the only one, by recursion on the number. -/
theorem digitValues_eq_cons (n : Nat)
    : ∃ d ds, digitValues n = d :: ds ∧ (d = 0 → ds = [] ∧ n = 0) := by
  rcases Nat.lt_or_ge n 10 with small | large
  · exact ⟨n, [], digitValues_of_lt small, fun zero => ⟨rfl, zero⟩⟩
  · obtain ⟨d, ds, digits, alone⟩ := digitValues_eq_cons (n / 10)
    refine ⟨d, ds ++ [n % 10], by rw [digitValues_of_le large, digits, List.cons_append], ?_⟩
    intro zero
    have none := (alone zero).2
    omega

/-- The byte of a decimal digit is a digit of the same value. -/
theorem byte_of_isDigit {c : Char} (digit : c.isDigit)
    : isDigit (byte c) ∧ (byte c).toNat = c.toNat ∧ c.toNat < 128 := by
  obtain ⟨least, greatest⟩ := Char.isDigit_iff_toNat.mp digit
  have size : (byte c).toNat = c.toNat := by
    have wrapped : (byte c).toNat = c.toNat % 256 := UInt32.toNat_toUInt8 c.val
    change c.toNat ≤ 57 at greatest
    omega
  refine ⟨?_, size, Nat.lt_of_le_of_lt greatest (by decide)⟩
  rw [isDigit, Bool.and_eq_true, decide_eq_true_eq, decide_eq_true_eq, UInt8.le_iff_toNat_le,
    UInt8.le_iff_toNat_le, size]
  exact ⟨least, greatest⟩

theorem isDigit_of_mem_toDigits {n : Nat} {c : Char} (member : c ∈ Nat.toDigits 10 n) : c.isDigit :=
  Nat.isDigit_of_mem_toDigits (by decide) (by decide) member

theorem encode_toString (n : Nat) : Utf8.encode (toString n) = decimal n := by
  rw [Nat.toString_eq_ofList_toDigits]
  apply Utf8.encode_ofList_of_ascii
  intro c member
  exact (byte_of_isDigit (isDigit_of_mem_toDigits member)).2.2

theorem exists_decimal (n : Nat) : ∃ b tail, decimal n = b :: tail ∧ isDigit b := by
  cases digits : Nat.toDigits 10 n with
  | nil => exact absurd digits Nat.toDigits_ne_nil
  | cons c tail =>
      have first : c ∈ Nat.toDigits 10 n := digits ▸ List.mem_cons_self
      refine ⟨byte c, tail.map byte, by rw [decimal, digits, List.map_cons], ?_⟩
      exact (byte_of_isDigit (isDigit_of_mem_toDigits first)).1

/-- An integer is written as its digits, after a minus sign if it is negative. -/
theorem encode_toString_int (i : Int)
    : Utf8.encode (toString i)
      = if i < 0 then byte '-' :: decimal i.natAbs else decimal i.natAbs := by
  cases i with
  | ofNat n => exact encode_toString n
  | negSucc n =>
      have written : toString (Int.negSucc n) = "-" ++ toString (n + 1) := rfl
      rw [written, Utf8.encode_append, encode_toString, if_pos (Int.negSucc_lt_zero n)]
      rfl

/-- An integer begins with a minus sign or a digit. -/
theorem exists_toString (i : Int)
    : ∃ b tail, Utf8.encode (toString i) = b :: tail ∧ (b = byte '-' || isDigit b) := by
  rw [encode_toString_int]
  split
  · exact ⟨byte '-', decimal i.natAbs, rfl, rfl⟩
  · obtain ⟨b, tail, digits, first⟩ := exists_decimal i.natAbs
    exact ⟨b, tail, digits, by simp [first]⟩

namespace Numeral

theorem absorb_append {limit n m : Nat} {first : List Nat}
    (absorbed : absorb limit n first = (m, [])) (second : List Nat)
    : absorb limit n (first ++ second) = absorb limit m second := by
  induction first generalizing n with
  | nil =>
      obtain ⟨rfl, -⟩ := Prod.mk.inj absorbed
      rfl
  | cons d first ih =>
      rw [absorb] at absorbed
      split at absorbed
      · rename_i within
        rw [List.cons_append, absorb, if_pos within, ih absorbed]
      · simp at absorbed

/-- The digits of a number within the limit make up the number, by recursion on it. -/
theorem absorb_digitValues {limit n : Nat} (within : n ≤ limit)
    : absorb limit 0 (digitValues n) = (n, []) := by
  rcases Nat.lt_or_ge n 10 with small | large
  · simp [digitValues_of_lt small, absorb, within]
  · have first := absorb_digitValues (Nat.le_trans (Nat.div_le_self n 10) within)
    have whole : n / 10 * 10 + n % 10 = n := Nat.div_add_mod' n 10
    rw [digitValues_of_le large, absorb_append first, absorb, whole, if_pos within, absorb]

theorem digits_of_all {bytes : Bytes} (all : ∀ b ∈ bytes, isDigit b)
    : digits bytes = (bytes.map (·.toNat - 48), []) := by
  induction bytes with
  | nil => rfl
  | cons b bytes ih =>
      obtain ⟨first, later⟩ := List.forall_mem_cons.mp all
      have rest := ih later
      rw [digits, Prod.mk.injEq] at rest
      simp [digits, first, rest]

theorem digits_decimal (n : Nat) : digits (decimal n) = (digitValues n, []) := by
  have all : ∀ b ∈ decimal n, isDigit b := by
    intro b member
    obtain ⟨c, inside, rfl⟩ := List.mem_map.mp member
    exact (byte_of_isDigit (isDigit_of_mem_toDigits inside)).1
  rw [digits_of_all all, decimal, List.map_map, digitValues]
  congr 1
  apply List.map_congr_left
  intro c inside
  exact congrArg (· - 48) (byte_of_isDigit (isDigit_of_mem_toDigits inside)).2.1

/-- The digits of a number, where they are broken off, are scanned as a numeral of them alone. -/
theorem scanWhole_decimal {rest : Bytes} (breaks : Breaks rest) (negative : Bool) (offset n : Nat)
    : scanWhole negative offset (decimal n ++ rest)
      = .ok ⟨negative, digitValues n, none, none, offset + (decimal n).length⟩ := by
  obtain ⟨d, ds, digits, alone⟩ := digitValues_eq_cons n
  have size : (decimal n).length = (d :: ds).length := by
    rw [← digits, decimal, digitValues, List.length_map, List.length_map]
  rw [scanWhole_append breaks, scanWhole_eq_ok, size, digits]
  refine ⟨d, ds, [], ?_, fun zero => (alone zero).1, rfl⟩
  rw [digits_decimal, digits]

/-- An integer, where it is broken off, is scanned as a numeral of its sign and digits. -/
theorem scan_toString {rest : Bytes} (breaks : Breaks rest) (offset : Nat) (i : Int)
    : scan offset (Utf8.encode (toString i) ++ rest)
      = .ok ⟨i < 0, digitValues i.natAbs, none, none,
          offset + (Utf8.encode (toString i)).length⟩ := by
  rw [encode_toString_int]
  split
  · rename_i negative
    rw [List.cons_append, scan, if_pos rfl, scanWhole_decimal breaks, decide_eq_true negative,
      List.length_cons, Nat.add_right_comm, Nat.add_assoc]
  · rename_i positive
    obtain ⟨b, tail, digits, first⟩ := exists_decimal i.natAbs
    have noMinus : b ≠ byte '-' := by
      rintro rfl
      exact absurd first (by decide)
    have scanned := scanWhole_decimal breaks false offset i.natAbs
    rw [digits, List.cons_append] at scanned ⊢
    rw [scan, if_neg noMinus, scanned, decide_eq_false positive]

/-- A numeral of the sign and digits of an integer that is kept is this integer. -/
theorem value_toString {i : Int} (kept : (Number.integer i).Kept) (stop : Nat)
    : value ⟨i < 0, digitValues i.natAbs, none, none, stop⟩ = .ok (.integer i) := by
  simp only [Number.Kept, leastInteger, greatestInteger] at kept
  have within : i.natAbs ≤ significandLimit := by
    simp only [significandLimit, UInt64.size]
    omega
  simp only [value, absorb_digitValues within]
  by_cases negative : i < 0
  · have whole : -(i.natAbs : Int) = i := by omega
    have nonzero : i.natAbs ≠ 0 := by omega
    have inRange : ¬i < leastInteger := Int.not_lt.mpr kept.1
    simp only [negative, decide_true, if_true, whole, nonzero, inRange, decide_false, Bool.or_false,
      Bool.and_false, Bool.false_eq_true, if_false]
    rfl
  · have whole : (i.natAbs : Int) = i := by omega
    simp only [negative, decide_false, Bool.false_eq_true, if_false, whole, Bool.false_and]
    rfl

end Numeral

theorem Lexeme.ofNumeral_toString {i : Int} (kept : (Number.integer i).Kept) {rest : Bytes}
    (breaks : Breaks rest) (offset : Nat)
    : ofNumeral offset (Utf8.encode (toString i) ++ rest)
      = ⟨offset, offset + (Utf8.encode (toString i)).length, .ok (.number (.integer i)),
          .ok ()⟩ := by
  simp only [ofNumeral, Numeral.scan_toString breaks, Numeral.value_toString kept]

-----------------------------------------------------------------------------------------
-- Strings
-----------------------------------------------------------------------------------------

namespace Quoted

theorem Escape.short {letter : UInt8} {c : Char} (short : shortEscape? letter = some c)
    : Escape [letter] c where
  passable := .letter (by simp [short])
  read offset rest := by simp [escape, short]

theorem hexValue?_digitChar : ∀ n < 16, hexValue? (byte (Nat.digitChar n)) = some n := by decide

/-- A control character may be written by its code. -/
theorem Escape.control {c : Char} (control : c.toNat < 0x20)
    : Escape
        [byte 'u', byte '0', byte '0', byte (Nat.digitChar (c.toNat / 16)),
          byte (Nat.digitChar (c.toNat % 16))]
        c := by
  have zero : hexValue? (byte '0') = some 0 := by decide
  have high := hexValue?_digitChar (c.toNat / 16) (by omega)
  have low := hexValue?_digitChar (c.toNat % 16) (by omega)
  have code : ((0 * 16 + 0) * 16 + c.toNat / 16) * 16 + c.toNat % 16 = c.toNat := by omega
  have four (offset : Nat) (rest : Bytes)
      : fourHex offset
          (byte '0' :: byte '0' :: byte (Nat.digitChar (c.toNat / 16))
            :: byte (Nat.digitChar (c.toNat % 16)) :: rest)
        = .ok c.toNat := by
    simp only [fourHex, zero, high, low, code]
    rfl
  constructor
  · refine .unit rfl ?_ fun offset rest => ⟨_, four offset rest⟩
    simp [zero, high, low]
  · intro offset rest
    have notLow : isLowSurrogate c.toNat = false := by simp [isLowSurrogate]; omega
    have notHigh : isHighSurrogate c.toNat = false := by simp [isHighSurrogate]; omega
    simp [escape, unitEscape, four, notLow, notHigh, show shortEscape? (byte 'u') = none by decide]

/-- A character that is neither a quote nor a backslash nor a control stands for itself. -/
theorem Body.character {c : Char} (noQuote : c ≠ '"') (noBackslash : c ≠ '\\')
    (noControl : ¬ c.toNat < 0x20)
    : Body (String.utf8EncodeChar c) (String.utf8EncodeChar c) := by
  apply ofPlain
  intro b member
  by_cases ascii : b < 0x80
  · have same := Utf8.toNat_of_mem_encodeChar member ascii
    refine ⟨?_, ?_, ?_⟩
    · intro quote
      exact noQuote (Char.toNat_inj.mp (same.symm.trans (congrArg UInt8.toNat quote)))
    · intro backslash
      exact noBackslash (Char.toNat_inj.mp (same.symm.trans (congrArg UInt8.toNat backslash)))
    · intro control
      exact noControl (same ▸ UInt8.lt_iff_toNat_lt.mp control)
  · have high : 0x80 ≤ b := UInt8.not_lt.mp ascii
    refine ⟨?_, ?_, ?_⟩
    · rintro rfl
      exact absurd high (by decide)
    · rintro rfl
      exact absurd high (by decide)
    · intro control
      exact absurd (UInt8.lt_of_le_of_lt high control) (by decide)

theorem Body.letter {letter c : Char} (short : shortEscape? (byte letter) = some c)
    (single : String.utf8EncodeChar letter = [byte letter])
    : Body (['\\', letter].flatMap String.utf8EncodeChar) (String.utf8EncodeChar c) := by
  have backslash : String.utf8EncodeChar '\\' = [byte '\\'] := by decide
  simpa [backslash, single] using Body.ofEscape (Escape.short short)

/-- Whether a character is escaped or stands for itself, it is decoded to itself. -/
theorem body_escapedChar (c : Char)
    : Body ((escapedChar c).flatMap String.utf8EncodeChar) (String.utf8EncodeChar c) := by
  unfold escapedChar
  split_ifs with quote backslash backspace feed line carriage tab control
  · subst quote
    exact .letter rfl rfl
  · subst backslash
    exact .letter rfl rfl
  · exact backspace ▸ Body.letter rfl rfl
  · exact feed ▸ Body.letter rfl rfl
  · exact line ▸ Body.letter rfl rfl
  · exact carriage ▸ Body.letter rfl rfl
  · exact tab ▸ Body.letter rfl rfl
  · have single : ∀ n < 16, String.utf8EncodeChar (Nat.digitChar n) = [byte (Nat.digitChar n)] := by
      decide
    have start : ['\\', 'u', '0', '0'].flatMap String.utf8EncodeChar
        = [byte '\\', byte 'u', byte '0', byte '0'] := by decide
    have written := Body.ofEscape (Escape.control control)
    change Body ((['\\', 'u', '0', '0'] ++ [_, _]).flatMap String.utf8EncodeChar) _
    rw [List.flatMap_append, start, List.flatMap_cons, List.flatMap_singleton,
      single _ (by omega), single _ (by omega)]
    exact written
  · simpa using Body.character quote backslash control

/-- What is printed between the quotes reads as the string, by induction on its characters. -/
theorem reads_escaped (s : String)
    : Reads (Utf8.encode (String.ofList (s.toList.flatMap escapedChar))) s := by
  refine ⟨Utf8.encode s, ?_, Utf8.decode?_eq_some_iff.mpr rfl⟩
  unfold Utf8.encode
  rw [String.toList_ofList, List.flatMap_assoc]
  induction s.toList with
  | nil => exact .nil
  | cons c chars ih =>
      rw [List.flatMap_cons, List.flatMap_cons]
      exact (body_escapedChar c).append ih

end Quoted

/-- A printed string is what is printed for its characters between two quotes. -/
theorem encode_stringText (s : String)
    : Utf8.encode (stringText s)
      = byte '"' :: (Utf8.encode (String.ofList (s.toList.flatMap escapedChar)) ++ [byte '"']) := by
  rw [stringText, Utf8.encode_append, Utf8.encode_append]
  rfl

-----------------------------------------------------------------------------------------
-- Arrays and objects
-----------------------------------------------------------------------------------------

/-- A member as it is printed. -/
def memberBytes (member : String × Json) : Bytes :=
  Utf8.encode (stringText member.1) ++ byte ':' :: Utf8.encode member.2.text

theorem encode_itemTexts (items : List Json)
    : Utf8.encode (itemTexts items)
      = [byte ','].intercalate (items.map fun item => Utf8.encode item.text) := by
  induction items with
  | nil => rfl
  | cons item items ih =>
      cases items with
      | nil => simp [itemTexts]
      | cons next items =>
          rw [itemTexts, Utf8.encode_append, Utf8.encode_append, ih, List.map_cons, List.map_cons,
            List.map_cons, List.intercalate_cons_cons]
          · rfl
          · simp

theorem encode_memberTexts (members : List (String × Json))
    : Utf8.encode (memberTexts members) = [byte ','].intercalate (members.map memberBytes) := by
  have colon : Utf8.encode ":" = [byte ':'] := rfl
  have comma : Utf8.encode "," = [byte ','] := rfl
  induction members with
  | nil => rfl
  | cons member members ih =>
      obtain ⟨name, value⟩ := member
      cases members with
      | nil => simp [memberTexts, memberBytes, colon]
      | cons next members =>
          rw [List.map_cons, List.map_cons, List.intercalate_cons_cons, ← List.map_cons, ← ih]
          simp [memberTexts, memberBytes, colon, comma]

theorem encode_array (items : List Json)
    : Utf8.encode (Json.array items).text
      = byte '[' :: ([byte ','].intercalate (items.map fun item => Utf8.encode item.text)
          ++ [byte ']']) := by
  rw [text, Utf8.encode_append, Utf8.encode_append, encode_itemTexts]
  rfl

theorem encode_object (members : List (String × Json))
    : Utf8.encode (Json.object members).text
      = byte '\x7b' :: ([byte ','].intercalate (members.map memberBytes) ++ [byte '\x7d']) := by
  rw [text, Utf8.encode_append, Utf8.encode_append, encode_memberTexts]
  rfl

end TaggedConfig.Json
