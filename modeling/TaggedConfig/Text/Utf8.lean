import TaggedConfig.Bytes

/-! UTF-8 as a sequence of characters and of longest ill-formed parts.
Strict decoding refuses an ill-formed part and repair replaces each by one mark.
-/

namespace TaggedConfig.Utf8

/-- The bytes of a text. -/
def encode (s : String) : Bytes := s.toList.flatMap String.utf8EncodeChar

/-- How many continuation bytes a leading byte asks for; `none` leads nothing. -/
def followers? (lead : UInt8) : Option Nat :=
  if lead < 0x80 then some 0
  else if lead < 0xC2 then none
  else if lead < 0xE0 then some 1
  else if lead < 0xF0 then some 2
  else if lead < 0xF5 then some 3
  else none

/-- The range of the first continuation byte, narrower after four leading bytes so that no
character has two spellings, none is a surrogate and none lies past the last code point.
-/
def secondRange (lead : UInt8) : UInt8 × UInt8 :=
  if lead = 0xE0 then (0xA0, 0xBF)
  else if lead = 0xED then (0x80, 0x9F)
  else if lead = 0xF0 then (0x90, 0xBF)
  else if lead = 0xF4 then (0x80, 0x8F)
  else (0x80, 0xBF)

/-- The payload of a leading byte that asks for `n` continuation bytes. -/
def leadPayload (lead : UInt8) : Nat → Nat
  | 0 => lead.toNat
  | 1 => lead.toNat % 32
  | 2 => lead.toNat % 16
  | _ => lead.toNat % 8

/-- Reads `n` continuation bytes after the payload so far, the first within `range`. A byte
out of range is left unread.
-/
def continuation : Nat → UInt8 × UInt8 → Nat → Bytes → Option Char × Bytes
  | 0, _, code, rest => (some (Char.ofNat code), rest)
  | _ + 1, _, _, [] => (none, [])
  | n + 1, range, code, b :: rest =>
      if range.1 ≤ b ∧ b ≤ range.2 then
        continuation n (0x80, 0xBF) (code * 64 + b.toNat % 64) rest
      else (none, b :: rest)

/-- The character that a leading byte begins, or `none` for an ill-formed part, with the
bytes that follow.
-/
def next (lead : UInt8) (rest : Bytes) : Option Char × Bytes :=
  match followers? lead with
  | none => (none, rest)
  | some n => continuation n (secondRange lead) (leadPayload lead n) rest

/-- Reading continuation bytes leaves a suffix no longer than before, by recursion on them. -/
theorem length_continuation_le (n : Nat) (range : UInt8 × UInt8) (code : Nat) (rest : Bytes)
    : (continuation n range code rest).2.length ≤ rest.length := by
  induction n generalizing range code rest with
  | zero => simp [continuation]
  | succ n ih =>
      cases rest with
      | nil => simp [continuation]
      | cons b rest =>
          unfold continuation
          split
          · exact Nat.le_succ_of_le (ih _ _ _)
          · exact Nat.le_refl _

/-- One step leaves a suffix of the bytes after the leading byte. -/
theorem length_next_le (lead : UInt8) (rest : Bytes)
    : (next lead rest).2.length ≤ rest.length := by
  unfold next
  split
  · exact Nat.le_refl _
  · exact length_continuation_le _ _ _ _

/-- The characters of a buffer, with `none` for each longest ill-formed part. -/
def characters : Bytes → List (Option Char)
  | [] => []
  | lead :: rest => (next lead rest).1 :: characters (next lead rest).2
termination_by bytes => bytes.length
decreasing_by exact Nat.lt_succ_of_le (length_next_le lead rest)

/-- The text of a buffer without ill-formed parts. -/
def decode? (bytes : Bytes) : Option String :=
  ((characters bytes).mapM id).map String.ofList

/-- The text of a buffer, each ill-formed part read as one replacement character. -/
def repair (bytes : Bytes) : String :=
  String.ofList ((characters bytes).map (·.getD '\uFFFD'))

/-- The number of bytes before the first ill-formed part, if there is one. -/
def firstFault? : Nat → Bytes → Option Nat
  | _, [] => none
  | offset, lead :: rest =>
      match (next lead rest).1 with
      | none => some offset
      | some c => firstFault? (offset + c.utf8Size) (next lead rest).2
termination_by _ bytes => bytes.length
decreasing_by exact Nat.lt_succ_of_le (length_next_le lead rest)

end TaggedConfig.Utf8
