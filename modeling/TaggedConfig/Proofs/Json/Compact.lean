import TaggedConfig.Proofs.Json.Printing

/-! Printed values have no white space but within their strings.
Numbers are written with digits, signs, points and exponent letters, whatever their size.
-/

namespace TaggedConfig

-----------------------------------------------------------------------------------------
-- Texts of numbers
-----------------------------------------------------------------------------------------

/-- The characters of numbers. -/
def Json.numeric : List Char :=
  ['+', '-', '.', '0', '1', '2', '3', '4', '5', '6', '7', '8', '9', 'e']

/-- A text that has only characters of numbers. -/
def Json.Numeric (text : String) : Prop := ∀ c ∈ text.toList, c ∈ numeric

instance (text : String) : Decidable (Json.Numeric text) :=
  List.decidableBAll (· ∈ Json.numeric) text.toList

namespace Decimal

open Json (numeric Numeric)

theorem numeric_append {first second : String} (before : Numeric first) (after : Numeric second)
    : Numeric (first ++ second) := by
  intro c member
  rw [String.toList_append] at member
  rcases List.mem_append.mp member with member | member
  · exact before c member
  · exact after c member

theorem numeric_ite {P : Prop} [Decidable P] {first second : String} (before : Numeric first)
    (after : Numeric second)
    : Numeric (if P then first else second) := by
  split
  · exact before
  · exact after

theorem numeric_digitText {digits : List Nat} (small : ∀ d ∈ digits, d < 10)
    : Numeric (digitText digits) := by
  have each : ∀ d < 10, Char.ofNat (d + 48) ∈ numeric := by decide
  intro c member
  rw [digitText, String.toList_ofList] at member
  obtain ⟨d, inside, rfl⟩ := List.mem_map.mp member
  exact each d (small d inside)

theorem numeric_zeros (n : Nat) : Numeric (zeros n) := by
  intro c member
  rw [zeros, String.toList_ofList] at member
  rw [(List.mem_replicate.mp member).2]
  decide

theorem numeric_toString (n : Nat) : Numeric (toString n) := by
  have each : ∀ code < 58, 48 ≤ code → Char.ofNat code ∈ numeric := by decide
  intro c member
  rw [Nat.toString_eq_ofList_toDigits, String.toList_ofList] at member
  obtain ⟨least, greatest⟩ := Char.isDigit_iff_toNat.mp (Json.isDigit_of_mem_toDigits member)
  rw [← Char.ofNat_toNat c]
  exact each c.toNat (Nat.lt_succ_of_le greatest) least

theorem numeric_toString_int (i : Int) : Numeric (toString i) := by
  cases i with
  | ofNat n => exact numeric_toString n
  | negSucc n =>
      have minus : Numeric "-" := by decide
      exact numeric_append minus (numeric_toString (n + 1))

/-- The digits that tell a number apart are decimal digits. -/
theorem digits_shortest (x : Double) : ∀ d ∈ (shortest x).digits, d < 10 := by
  have significant (n : Nat) : ∀ d ∈ significantDigits n, d < 10 := by
    intro d member
    have inside := List.mem_reverse.mp member
    have kept := List.mem_reverse.mp ((List.dropWhile_sublist _).mem inside)
    obtain ⟨c, digit, rfl⟩ := List.mem_map.mp kept
    have greatest := (Char.isDigit_iff_toNat.mp (Json.isDigit_of_mem_toDigits digit)).2
    change c.toNat ≤ 57 at greatest
    omega
  intro d member
  unfold shortest at member
  simp only at member
  split at member
  · exact significant _ d member
  · exact absurd member List.not_mem_nil

/-- Whatever its layout, a finite number is written with characters of numbers only. -/
theorem numeric_write (layout : Layout) {value : Digits} (small : ∀ d ∈ value.digits, d < 10)
    : Numeric (layout.write value) := by
  have taken (n : Nat) : Numeric (digitText (value.digits.take n)) :=
    numeric_digitText fun d member => small d (List.mem_of_mem_take member)
  have dropped (n : Nat) : Numeric (digitText (value.digits.drop n)) :=
    numeric_digitText fun d member => small d (List.mem_of_mem_drop member)
  unfold Layout.write
  simp only
  split
  · split
    · apply numeric_append (numeric_append (numeric_digitText small) (numeric_zeros _))
      exact numeric_ite (by decide) (by decide)
    · split
      · exact numeric_append (numeric_append (taken _) (by decide)) (dropped _)
      · apply numeric_append (numeric_append (by decide) (numeric_zeros _))
        exact numeric_digitText small
  · apply numeric_append _ (numeric_toString _)
    apply numeric_append _ (numeric_ite (by decide) (by decide))
    apply numeric_append (taken _)
    exact numeric_ite (by decide) (numeric_append (by decide) (dropped _))

theorem numeric_text (layout : Layout) (x : Double) : Numeric (layout.text x) := by
  unfold Layout.text
  apply numeric_append (numeric_ite (by decide) (by decide))
  apply numeric_write
  split
  · simp
  · exact digits_shortest x

end Decimal

namespace Json

open Comment (QuotedBody)

-----------------------------------------------------------------------------------------
-- White space
-----------------------------------------------------------------------------------------

/-- There is no white space outside the strings of a text. -/
inductive Compact : Bytes → Prop
  | nil : Compact []
  | quoted {body rest} (inside : QuotedBody body) (more : Compact rest)
    : Compact (byte '"' :: (body ++ byte '"' :: rest))
  | plain {b rest} (noQuote : b ≠ byte '"') (noSpace : isSpace b = false) (more : Compact rest)
    : Compact (b :: rest)

/-- Whether a byte neither is white space nor begins a string. -/
def isPlain (b : UInt8) : Bool := b != byte '"' && !isSpace b

theorem isPlain_iff {b : UInt8} : isPlain b ↔ b ≠ byte '"' ∧ isSpace b = false := by
  rw [isPlain, Bool.and_eq_true, bne_iff_ne, Bool.not_eq_true']

namespace Compact

theorem append {first second : Bytes} (before : Compact first) (after : Compact second)
    : Compact (first ++ second) := by
  induction before with
  | nil => exact after
  | quoted inside _ ih =>
      rw [List.cons_append, List.append_assoc, List.cons_append]
      exact .quoted inside ih
  | plain noQuote noSpace _ ih => exact .plain noQuote noSpace ih

theorem ofPlain {bytes : Bytes} (plain : bytes.all isPlain) : Compact bytes := by
  induction bytes with
  | nil => exact .nil
  | cons b bytes ih =>
      obtain ⟨first, later⟩ := List.forall_mem_cons.mp (List.all_eq_true.mp plain)
      obtain ⟨noQuote, noSpace⟩ := isPlain_iff.mp first
      exact .plain noQuote noSpace (ih (List.all_eq_true.mpr later))

theorem numeric {text : String} (numeric : Numeric text) : Compact (Utf8.encode text) := by
  have ascii := List.all_eq_true.mp (show Json.numeric.all (·.toNat < 128) by decide)
  have plain := List.all_eq_true.mp (show Json.numeric.all (isPlain <| byte ·) by decide)
  have bytes : Utf8.encode text = text.toList.map byte := by
    have each : ∀ c ∈ text.toList, c.toNat < 128 :=
      fun c member => of_decide_eq_true (ascii c (numeric c member))
    rw [← Utf8.encode_ofList_of_ascii each, String.ofList_toList]
  rw [bytes]
  apply ofPlain
  rw [List.all_map, List.all_eq_true]
  exact fun c member => plain c (numeric c member)

theorem number (number : Number) : Compact (Utf8.encode number.text) := by
  cases number with
  | integer value => exact .numeric (Decimal.numeric_toString_int value)
  | double value =>
      change Compact (Utf8.encode (if value.isFinite then Decimal.plain.text value else "null"))
      split
      · exact .numeric (Decimal.numeric_text _ value)
      · exact .ofPlain (by decide)

theorem string (text : String) : Compact (Utf8.encode (stringText text)) := by
  rw [encode_stringText]
  exact .quoted (Quoted.reads_escaped text).passable.quoted .nil

/-- Parts with commas between them have no white space if none of them has any. -/
theorem listed {parts : List Bytes} (each : ∀ part ∈ parts, Compact part)
    : Compact ([byte ','].intercalate parts) := by
  induction parts with
  | nil => exact .nil
  | cons part parts ih =>
      obtain ⟨first, later⟩ := List.forall_mem_cons.mp each
      cases parts with
      | nil => simpa using first
      | cons next parts =>
          rw [List.intercalate_cons_cons]
          exact (first.append (ofPlain (by decide))).append (ih later)

theorem enclosed {opening closing : UInt8} {bytes : Bytes}
    (begins : isPlain opening) (ends : isPlain closing) (inner : Compact bytes)
    : Compact (opening :: (bytes ++ [closing])) := by
  obtain ⟨noQuote, noSpace⟩ := isPlain_iff.mp begins
  obtain ⟨noQuote', noSpace'⟩ := isPlain_iff.mp ends
  exact .plain noQuote noSpace (inner.append (.plain noQuote' noSpace' .nil))

end Compact

mutual

/-- The compact text of a value has no white space outside its strings, by recursion on it. -/
theorem compact_text : ∀ value : Json, Compact (Utf8.encode value.text)
  | .null => .ofPlain (by decide)
  | .bool false => .ofPlain (by decide)
  | .bool true => .ofPlain (by decide)
  | .number value => .number value
  | .string text => .string text
  | .array items => by
      rw [encode_array]
      exact .enclosed (by decide) (by decide) (.listed (compact_items items))
  | .object members => by
      rw [encode_object]
      exact .enclosed (by decide) (by decide) (.listed (compact_members members))

theorem compact_items
    : ∀ items : List Json, ∀ part ∈ items.map fun item => Utf8.encode item.text, Compact part
  | [] => nofun
  | item :: items => List.forall_mem_cons.mpr ⟨compact_text item, compact_items items⟩

theorem compact_members
    : ∀ members : List (String × Json), ∀ part ∈ members.map memberBytes, Compact part
  | [] => nofun
  | (name, value) :: members =>
      List.forall_mem_cons.mpr
        ⟨(Compact.string name).append (.plain (by decide) (by decide) (compact_text value)),
          compact_members members⟩

end

end Json

end TaggedConfig
