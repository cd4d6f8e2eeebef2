import Mathlib.Tactic.SplitIfs
import TaggedConfig.Proofs.Text.Utf8

/-! The bytes of texts.
Encoding and decoding undo each other, so bytes without ill-formed parts are those of one text.
They can be cut before and after every ASCII byte.
-/

namespace TaggedConfig.Utf8

-----------------------------------------------------------------------------------------
-- The bytes that spell a character
-----------------------------------------------------------------------------------------

def Within (range : UInt8 × UInt8) (b : UInt8) : Prop := range.1 ≤ b ∧ b ≤ range.2

/-- The range of the third and fourth bytes of a character. -/
def laterRange : UInt8 × UInt8 := (0x80, 0xBF)

/-- The bytes spell a code point. -/
inductive Spells : Bytes → Nat → Prop
  | one {a} (first : a.toNat < 0x80) : Spells [a] a.toNat
  | two {a b} (first : 0xC2 ≤ a.toNat ∧ a.toNat < 0xE0) (second : Within (secondRange a) b)
    : Spells [a, b] (a.toNat % 32 * 64 + b.toNat % 64)
  | three {a b c} (first : 0xE0 ≤ a.toNat ∧ a.toNat < 0xF0) (second : Within (secondRange a) b)
    (third : Within laterRange c)
    : Spells [a, b, c] ((a.toNat % 16 * 64 + b.toNat % 64) * 64 + c.toNat % 64)
  | four {a b c d} (first : 0xF0 ≤ a.toNat ∧ a.toNat < 0xF5) (second : Within (secondRange a) b)
    (third : Within laterRange c) (fourth : Within laterRange d)
    : Spells [a, b, c, d]
        (((a.toNat % 8 * 64 + b.toNat % 64) * 64 + c.toNat % 64) * 64 + d.toNat % 64)

theorem within_laterRange {b : UInt8}
    : Within laterRange b ↔ 0x80 ≤ b.toNat ∧ b.toNat ≤ 0xBF := by
  simp only [Within, laterRange, UInt8.le_iff_toNat_le]
  rfl

theorem within_secondRange {lead b : UInt8}
    : Within (secondRange lead) b
      ↔ (0x80 ≤ b.toNat ∧ b.toNat ≤ 0xBF)
        ∧ (lead.toNat = 0xE0 → 0xA0 ≤ b.toNat)
        ∧ (lead.toNat = 0xED → b.toNat ≤ 0x9F)
        ∧ (lead.toNat = 0xF0 → 0x90 ≤ b.toNat)
        ∧ (lead.toNat = 0xF4 → b.toNat ≤ 0x8F) := by
  have bounds : b.toNat < 256 := b.toNat_lt
  simp only [Within, secondRange, ← UInt8.toNat_inj, UInt8.le_iff_toNat_le]
  split_ifs <;> simp_all <;> omega

theorem followers?_toNat (lead : UInt8)
    : followers? lead
      = if lead.toNat < 0x80 then some 0
        else if lead.toNat < 0xC2 then none
        else if lead.toNat < 0xE0 then some 1
        else if lead.toNat < 0xF0 then some 2
        else if lead.toNat < 0xF5 then some 3
        else none := by
  simp only [followers?, UInt8.lt_iff_toNat_lt]
  rfl

/-- The bytes spell a character, neither half of a surrogate pair nor past the last one. -/
theorem Spells.valid {bytes : Bytes} {code : Nat} (spells : Spells bytes code)
    : code.isValidChar := by
  unfold Nat.isValidChar
  cases spells with
  | one first => omega
  | two first second => omega
  | three first second third =>
      rw [within_secondRange] at second
      rw [within_laterRange] at third
      omega
  | four first second third fourth =>
      rw [within_secondRange] at second
      omega

/-- The bytes that spell a character are its encoding. -/
theorem Spells.encodeChar {bytes : Bytes} {code : Nat} (spells : Spells bytes code)
    : String.utf8EncodeChar (Char.ofNat code) = bytes := by
  have number : (Char.ofNat code).val.toNat = code := by
    rw [Char.ofNat, dif_pos spells.valid]
    rfl
  have same (b : UInt8) {n : Nat} (equal : n = b.toNat) : UInt8.ofNat n = b := by
    rw [equal, UInt8.ofNat_toNat]
  rw [String.utf8EncodeChar, number]
  cases spells with
  | @one a first => rw [if_pos (by omega), same a rfl]
  | @two a b first second =>
      rw [within_secondRange] at second
      rw [if_neg (by omega), if_pos (by omega), same a (by omega), same b (by omega)]
  | @three a b c first second third =>
      rw [within_secondRange] at second
      rw [within_laterRange] at third
      rw [if_neg (by omega), if_neg (by omega), if_pos (by omega), same a (by omega),
        same b (by omega), same c (by omega)]
  | @four a b c d first second third fourth =>
      rw [within_secondRange] at second
      rw [within_laterRange] at third fourth
      rw [if_neg (by omega), if_neg (by omega), if_neg (by omega), same a (by omega),
        same b (by omega), same c (by omega), same d (by omega)]

/-- The encoding of a character spells it. -/
theorem spells_encodeChar (c : Char) : Spells (String.utf8EncodeChar c) c.toNat := by
  have valid : c.toNat < 0xD800 ∨ 0xDFFF < c.toNat ∧ c.toNat < 0x110000 := c.valid
  have byte (n : Nat) (small : n < 256) : ∃ b : UInt8, UInt8.ofNat n = b ∧ b.toNat = n :=
    ⟨_, rfl, by rw [UInt8.toNat_ofNat', Nat.mod_eq_of_lt small]⟩
  rw [String.utf8EncodeChar, show c.val.toNat = c.toNat from rfl]
  generalize c.toNat = v at *
  obtain ⟨d, last, dValue⟩ := byte (v % 64 + 128) (by omega)
  obtain ⟨c, third, cValue⟩ := byte (v / 64 % 64 + 128) (by omega)
  rw [last, third]
  split_ifs with one two three
  · obtain ⟨a, first, aValue⟩ := byte v (by omega)
    rw [first, ← aValue]
    exact .one (by omega)
  · obtain ⟨a, first, aValue⟩ := byte (v / 64 % 32 + 192) (by omega)
    have spells := Spells.two (a := a) (b := d) (by omega) (within_secondRange.mpr (by omega))
    rwa [first, show v = a.toNat % 32 * 64 + d.toNat % 64 by omega]
  · obtain ⟨a, first, aValue⟩ := byte (v / 4096 % 16 + 224) (by omega)
    have spells := Spells.three (a := a) (b := c) (c := d) (by omega)
      (within_secondRange.mpr (by omega)) (within_laterRange.mpr (by omega))
    rwa [first,
      show v = (a.toNat % 16 * 64 + c.toNat % 64) * 64 + d.toNat % 64 by omega]
  · obtain ⟨a, first, aValue⟩ := byte (v / 262144 % 8 + 240) (by omega)
    obtain ⟨b, second, bValue⟩ := byte (v / 4096 % 64 + 128) (by omega)
    have spells := Spells.four (a := a) (b := b) (c := c) (d := d) (by omega)
      (within_secondRange.mpr (by omega)) (within_laterRange.mpr (by omega))
      (within_laterRange.mpr (by omega))
    rwa [first, second,
      show v = ((a.toNat % 8 * 64 + b.toNat % 64) * 64 + c.toNat % 64) * 64 + d.toNat % 64
        by omega]

-----------------------------------------------------------------------------------------
-- Reading the bytes of a character
-----------------------------------------------------------------------------------------

theorem continuation_cons {n : Nat} {range : UInt8 × UInt8} {b : UInt8} (within : Within range b)
    (code : Nat) (rest : Bytes)
    : continuation (n + 1) range code (b :: rest)
      = continuation n laterRange (code * 64 + b.toNat % 64) rest := by
  exact if_pos within

/-- A character that is to be continued is continued by a byte in range. -/
theorem exists_of_continuation {n : Nat} {range : UInt8 × UInt8} {code : Nat} {rest : Bytes}
    {c : Char} (read : (continuation (n + 1) range code rest).1 = some c)
    : ∃ b more, rest = b :: more ∧ Within range b := by
  cases rest with
  | nil => simp [continuation] at read
  | cons b more =>
      by_cases within : range.1 ≤ b ∧ b ≤ range.2
      · exact ⟨b, more, rfl, within⟩
      · simp [continuation, within] at read

/-- The bytes that spell a character are read as that character, whatever follows. -/
theorem Spells.next {bytes : Bytes} {code : Nat} (spells : Spells bytes code)
    : ∃ lead tail,
        bytes = lead :: tail
        ∧ ∀ rest, Utf8.next lead (tail ++ rest) = (some (Char.ofNat code), rest) := by
  cases spells with
  | one first =>
      refine ⟨_, [], rfl, fun rest => ?_⟩
      rw [Utf8.next, followers?_toNat, if_pos first]
      rfl
  | @two a b first second =>
      refine ⟨a, [b], rfl, fun rest => ?_⟩
      have size : followers? a = some 1 := by
        rw [followers?_toNat, if_neg (by omega), if_neg (by omega), if_pos (by omega)]
      simp only [Utf8.next, size]
      exact continuation_cons second _ rest
  | @three a b c first second third =>
      refine ⟨a, [b, c], rfl, fun rest => ?_⟩
      have size : followers? a = some 2 := by
        rw [followers?_toNat, if_neg (by omega), if_neg (by omega), if_neg (by omega),
          if_pos (by omega)]
      simp only [Utf8.next, size]
      exact (continuation_cons second _ (c :: rest)).trans (continuation_cons third _ rest)
  | @four a b c d first second third fourth =>
      refine ⟨a, [b, c, d], rfl, fun rest => ?_⟩
      have size : followers? a = some 3 := by
        rw [followers?_toNat, if_neg (by omega), if_neg (by omega), if_neg (by omega),
          if_neg (by omega), if_pos (by omega)]
      simp only [Utf8.next, size]
      exact ((continuation_cons second _ (c :: d :: rest)).trans
        (continuation_cons third _ (d :: rest))).trans (continuation_cons fourth _ rest)

/-- A character that is read is spelled by the bytes that are read. -/
theorem exists_spells {lead : UInt8} {rest : Bytes} {c : Char}
    (read : (next lead rest).1 = some c)
    : ∃ tail code,
        Spells (lead :: tail) code
        ∧ rest = tail ++ (next lead rest).2
        ∧ c = Char.ofNat code := by
  have found (tail more : Bytes) (code : Nat) (spells : Spells (lead :: tail) code)
      (whole : rest = tail ++ more)
      : ∃ tail code,
          Spells (lead :: tail) code ∧ rest = tail ++ (next lead rest).2 ∧ c = Char.ofNat code := by
    obtain ⟨_, _, ⟨rfl, rfl⟩, reads⟩ := spells.next
    rw [whole, reads more] at read
    refine ⟨tail, code, spells, ?_, (Option.some.inj read).symm⟩
    rw [whole, reads more]
  have size := followers?_toNat lead
  rw [next] at read
  split_ifs at size with one two three four five <;> rw [size] at read
  · exact found [] rest _ (.one one) rfl
  · contradiction
  · obtain ⟨b, more, rfl, second⟩ := exists_of_continuation read
    exact found [b] more _ (.two (by omega) second) rfl
  · obtain ⟨b, more, rfl, second⟩ := exists_of_continuation read
    dsimp only at read
    rw [continuation_cons second] at read
    obtain ⟨c, more, rfl, third⟩ := exists_of_continuation read
    exact found [b, c] more _ (.three (by omega) second third) rfl
  · obtain ⟨b, more, rfl, second⟩ := exists_of_continuation read
    dsimp only at read
    rw [continuation_cons second] at read
    obtain ⟨c, more, rfl, third⟩ := exists_of_continuation read
    rw [continuation_cons third] at read
    obtain ⟨d, more, rfl, fourth⟩ := exists_of_continuation read
    exact found [b, c, d] more _ (.four (by omega) second third fourth) rfl
  · contradiction

-----------------------------------------------------------------------------------------
-- Encoding and decoding
-----------------------------------------------------------------------------------------

theorem characters_encodeChar (c : Char) (rest : Bytes)
    : characters (String.utf8EncodeChar c ++ rest) = some c :: characters rest := by
  obtain ⟨lead, tail, bytes, reads⟩ := (spells_encodeChar c).next
  rw [bytes, List.cons_append, characters, reads, Char.ofNat_toNat]

/-- The characters of encoded text are its own, by induction on the text. -/
theorem characters_encode (text : String) : characters (encode text) = text.toList.map some := by
  rw [encode]
  generalize text.toList = chars
  induction chars with
  | nil => simp [characters]
  | cons c chars ih => rw [List.flatMap_cons, characters_encodeChar, ih, List.map_cons]

/-- Bytes without ill-formed parts are those of their characters, by recursion on them. -/
theorem encode_repair {bytes : Bytes} (whole : none ∉ characters bytes)
    : encode (repair bytes) = bytes := by
  unfold encode repair
  rw [String.toList_ofList]
  fun_induction characters bytes with
  | case1 => rfl
  | case2 lead rest ih =>
      rw [List.mem_cons, not_or] at whole
      obtain ⟨c, read⟩ := Option.ne_none_iff_exists'.mp (Ne.symm whole.1)
      obtain ⟨tail, code, spells, split, rfl⟩ := exists_spells read
      rw [read, List.map_cons, List.flatMap_cons, ih whole.2, Option.getD_some, spells.encodeChar,
        List.cons_append, ← split]

/-- Strict decoding undoes encoding and accepts nothing else. -/
theorem decode?_eq_some_iff {bytes : Bytes} {text : String}
    : decode? bytes = some text ↔ encode text = bytes := by
  rw [decode?_eq_some]
  constructor
  · rintro ⟨whole, rfl⟩
    exact encode_repair whole
  · rintro rfl
    rw [repair, characters_encode, List.map_map]
    simp [Function.comp_def]

theorem repair_encode (text : String) : repair (encode text) = text := by
  simp [repair, characters_encode, Function.comp_def]

@[simp] theorem encode_append (first second : String)
    : encode (first ++ second) = encode first ++ encode second := by
  simp [encode]

theorem utf8EncodeChar_of_ascii {c : Char} (ascii : c.toNat < 128)
    : String.utf8EncodeChar c = [byte c] := by
  have single : c.utf8Size = 1 := by
    rw [Char.utf8Size_eq_one_iff, UInt32.le_iff_toNat_le]
    exact Nat.le_of_lt_succ ascii
  rw [String.utf8EncodeChar_eq_singleton single, byte, Char.toUInt8_val]

/-- The bytes of ASCII characters are found one by one, by induction on the characters. -/
theorem encode_ofList_of_ascii {chars : List Char} (ascii : ∀ c ∈ chars, c.toNat < 128)
    : encode (String.ofList chars) = chars.map byte := by
  rw [encode, String.toList_ofList]
  induction chars with
  | nil => rfl
  | cons c chars ih =>
      rw [List.forall_mem_cons] at ascii
      rw [List.flatMap_cons, utf8EncodeChar_of_ascii ascii.1, ih ascii.2]
      rfl

-----------------------------------------------------------------------------------------
-- Texts
-----------------------------------------------------------------------------------------

/-- The bytes are those of a text. -/
def IsText (bytes : Bytes) : Prop := ∃ text, encode text = bytes

theorem isText_iff {bytes : Bytes} : IsText bytes ↔ (decode? bytes).isSome := by
  simp only [IsText, Option.isSome_iff_exists, decode?_eq_some_iff]

/-- Repair leaves a text as it is. -/
theorem IsText.encode_repair {bytes : Bytes} (isText : IsText bytes)
    : encode (repair bytes) = bytes := by
  obtain ⟨text, encoded⟩ := isText
  exact Utf8.encode_repair (decode?_eq_some.mp (decode?_eq_some_iff.mpr encoded)).1

theorem isText_encode (text : String) : IsText (encode text) := ⟨text, rfl⟩

theorem isText_nil : IsText [] := ⟨"", rfl⟩

theorem IsText.append {first second : Bytes} (isText : IsText first) (isText' : IsText second)
    : IsText (first ++ second) := by
  obtain ⟨text, rfl⟩ := isText
  obtain ⟨text', rfl⟩ := isText'
  exact ⟨text ++ text', by simp [encode]⟩

theorem isText_flatten {parts : List Bytes} (texts : ∀ part ∈ parts, IsText part)
    : IsText parts.flatten := by
  induction parts with
  | nil => exact isText_nil
  | cons part parts ih =>
      rw [List.forall_mem_cons] at texts
      exact texts.1.append (ih texts.2)

/-- An ASCII byte is a character of its own. -/
theorem Spells.eq_singleton {bytes : Bytes} {code : Nat} (spells : Spells bytes code) {b : UInt8}
    (member : b ∈ bytes) (ascii : b < 0x80)
    : bytes = [b] := by
  have ascii : b.toNat < 0x80 := UInt8.lt_iff_toNat_lt.mp ascii
  cases spells with
  | one first => rw [List.mem_singleton.mp member]
  | two first second =>
      rw [within_secondRange] at second
      simp only [List.mem_cons, List.not_mem_nil, or_false] at member
      rcases member with rfl | rfl <;> omega
  | three first second third =>
      rw [within_secondRange] at second
      rw [within_laterRange] at third
      simp only [List.mem_cons, List.not_mem_nil, or_false] at member
      rcases member with rfl | rfl | rfl <;> omega
  | four first second third fourth =>
      rw [within_secondRange] at second
      rw [within_laterRange] at third fourth
      simp only [List.mem_cons, List.not_mem_nil, or_false] at member
      rcases member with rfl | rfl | rfl | rfl <;> omega

theorem toNat_of_mem_encodeChar {c : Char} {b : UInt8} (member : b ∈ String.utf8EncodeChar c)
    (ascii : b < 0x80)
    : b.toNat = c.toNat := by
  have spells := spells_encodeChar c
  rw [spells.eq_singleton member ascii] at spells
  generalize c.toNat = code at spells
  cases spells
  rfl

theorem isText_encodeChar (c : Char) : IsText (String.utf8EncodeChar c) :=
  ⟨String.ofList [c], by simp [encode]⟩

theorem isText_singleton {b : UInt8} (ascii : b < 0x80) : IsText [b] := by
  rw [← (Spells.one ascii).encodeChar]
  exact isText_encodeChar _

/-- A text that holds an ASCII byte is made of the texts before and after it, by induction on its
characters.
-/
theorem isText_cut {first rest : Bytes} {b : UInt8} (ascii : b < 0x80)
    : IsText (first ++ b :: rest) ↔ IsText first ∧ IsText rest := by
  constructor
  · rintro ⟨text, encoded⟩
    rw [encode] at encoded
    generalize text.toList = chars at encoded
    induction chars generalizing first with
    | nil => exact absurd encoded.symm (by simp)
    | cons c chars ih =>
        rw [List.flatMap_cons, List.append_eq_append_iff] at encoded
        rcases encoded with ⟨middle, rfl, later⟩ | ⟨middle, whole, later⟩
        · obtain ⟨before, after⟩ := ih later
          exact ⟨(isText_encodeChar c).append before, after⟩
        · cases middle with
          | nil =>
              obtain ⟨-, after⟩ := @ih [] later.symm
              rw [List.append_nil] at whole
              exact ⟨whole ▸ isText_encodeChar c, after⟩
          | cons d middle =>
              obtain ⟨rfl, rfl⟩ := List.cons.inj later
              have alone := (spells_encodeChar c).eq_singleton (b := b) (by simp [whole]) ascii
              obtain ⟨rfl, rfl⟩ : first = [] ∧ middle = [] := by
                simpa [List.append_eq_cons_iff] using whole.symm.trans alone
              exact ⟨isText_nil, String.ofList chars, by simp [encode]⟩
  · rintro ⟨before, after⟩
    exact before.append ((isText_singleton ascii).append after)

theorem isText_cons {rest : Bytes} {b : UInt8} (ascii : b < 0x80)
    : IsText (b :: rest) ↔ IsText rest := by
  have cut : IsText ([] ++ b :: rest) ↔ IsText [] ∧ IsText rest := isText_cut ascii
  rwa [List.nil_append, and_iff_right isText_nil] at cut

/-- ASCII bytes make no difference before a text, by induction on them. -/
theorem isText_ascii_append {bytes rest : Bytes} (ascii : ∀ b ∈ bytes, b < 0x80)
    : IsText (bytes ++ rest) ↔ IsText rest := by
  induction bytes with
  | nil => rfl
  | cons b bytes ih =>
      rw [List.forall_mem_cons] at ascii
      rw [List.cons_append, isText_cons ascii.1, ih ascii.2]

end TaggedConfig.Utf8
