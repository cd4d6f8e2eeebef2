import TaggedConfig.Proofs.Tag.Filling
import TaggedConfig.Proofs.Text.Encoding

/-! What repair leaves of a buffer.
Texts are left alone and nothing else is. ASCII bytes stay in place between the parts that are
repaired, so that repair neither makes an opening nor hides one.
-/

namespace TaggedConfig

namespace Utf8

/-- Repair changes every buffer but a text. -/
theorem encode_repair_eq_iff {bytes : Bytes} : encode (repair bytes) = bytes ↔ IsText bytes :=
  ⟨fun same => ⟨_, same⟩, IsText.encode_repair⟩

/-- Texts that are repaired alike are the same. -/
theorem IsText.repair_inj {first second : Bytes} (isText : IsText first)
    (isText' : IsText second) (same : repair first = repair second)
    : first = second := by
  rw [← isText.encode_repair, same, isText'.encode_repair]

/-- What is read of continuation bytes comes before what is left, by recursion on them. -/
theorem continuation_suffix (n : Nat) (range : UInt8 × UInt8) (code : Nat) (rest : Bytes)
    : (continuation n range code rest).2 <:+ rest := by
  induction n generalizing range code rest with
  | zero => exact List.suffix_rfl
  | succ n ih =>
      cases rest with
      | nil => exact List.suffix_rfl
      | cons b rest =>
          unfold continuation
          split
          · exact (ih _ _ _).trans (List.suffix_cons b rest)
          · exact List.suffix_rfl

theorem next_suffix (lead : UInt8) (rest : Bytes) : (next lead rest).2 <:+ rest := by
  unfold next
  split
  · exact List.suffix_rfl
  · exact continuation_suffix _ _ _ _

/-- The bytes of a repaired buffer are those of its first character, or of the mark that stands for
an ill-formed part, and of the rest when that is repaired.
-/
theorem encode_repair_cons (lead : UInt8) (rest : Bytes)
    : encode (repair (lead :: rest))
      = String.utf8EncodeChar ((next lead rest).1.getD '\uFFFD')
        ++ encode (repair (next lead rest).2) := by
  rw [repair, characters, List.map_cons, encode, String.toList_ofList, List.flatMap_cons, repair,
    encode, String.toList_ofList]

/-- An ASCII byte that a part is repaired to is the whole part. -/
theorem eq_cons_of_encodeChar {lead b : UInt8} {rest : Bytes} (ascii : b < 0x80)
    (member : b ∈ String.utf8EncodeChar ((next lead rest).1.getD '\uFFFD'))
    : String.utf8EncodeChar ((next lead rest).1.getD '\uFFFD') = [b]
      ∧ lead :: rest = b :: (next lead rest).2 := by
  have alone := (spells_encodeChar _).eq_singleton member ascii
  refine ⟨alone, ?_⟩
  cases read : (next lead rest).1 with
  | none =>
      rw [read] at member
      have mark : String.utf8EncodeChar ((none : Option Char).getD '\uFFFD') = [0xEF, 0xBF, 0xBD] :=
        by decide
      simp only [mark, List.mem_cons, List.not_mem_nil, or_false] at member
      rcases member with rfl | rfl | rfl <;> exact absurd ascii (by decide)
  | some c =>
      obtain ⟨tail, code, spells, whole, rfl⟩ := exists_spells read
      rw [read, Option.getD_some, spells.encodeChar] at alone
      obtain ⟨rfl, rfl⟩ := List.cons.inj alone
      rw [List.nil_append] at whole
      rw [← whole]

/-- An ASCII byte of a repaired buffer is one of the buffer, and what follows it is repaired by
itself. By recursion on the characters of the buffer.
-/
theorem exists_of_encode_repair {bytes before after : Bytes} {b : UInt8} (ascii : b < 0x80)
    (repaired : encode (repair bytes) = before ++ b :: after)
    : ∃ first rest,
        bytes = first ++ b :: rest
        ∧ encode (repair rest) = after
        ∧ (before = [] → first = []) := by
  fun_induction characters bytes generalizing before with
  | case1 => exact absurd repaired (by simp [repair, characters, encode])
  | case2 lead tail ih =>
      obtain ⟨read, whole⟩ := next_suffix lead tail
      have filled := String.utf8EncodeChar_ne_nil (c := (next lead tail).1.getD '\uFFFD')
      rw [encode_repair_cons, List.append_eq_append_iff] at repaired
      rcases repaired with ⟨middle, rfl, later⟩ | ⟨middle, part, later⟩
      · obtain ⟨first, rest, split, same, -⟩ := ih later
        refine ⟨lead :: (read ++ first), rest, ?_, same, fun empty => ?_⟩
        · rw [List.cons_append, List.append_assoc, ← split, whole]
        · exact absurd (List.append_eq_nil_iff.mp empty).1 filled
      · cases middle with
        | nil =>
            obtain ⟨first, rest, split, same, -⟩ := @ih [] later.symm
            rw [List.append_nil] at part
            refine ⟨lead :: (read ++ first), rest, ?_, same, fun empty => ?_⟩
            · rw [List.cons_append, List.append_assoc, ← split, whole]
            · exact absurd (part.trans empty) filled
        | cons d middle =>
            obtain ⟨rfl, rfl⟩ := List.cons.inj later
            have member : b ∈ String.utf8EncodeChar ((next lead tail).1.getD '\uFFFD') := by
              rw [part]
              exact List.mem_append_right before List.mem_cons_self
            obtain ⟨alone, split⟩ := eq_cons_of_encodeChar ascii member
            obtain ⟨-, rfl⟩ : before = [] ∧ middle = [] := by
              simpa [List.append_eq_cons_iff] using part.symm.trans alone
            exact ⟨[], (next lead tail).2, split, rfl, fun _ => rfl⟩

/-- ASCII bytes with which a repaired buffer begins are there before, by induction on them. -/
theorem prefix_of_encode_repair {bytes start after : Bytes} (ascii : ∀ b ∈ start, b < 0x80)
    (repaired : encode (repair bytes) = start ++ after)
    : start <+: bytes := by
  induction start generalizing bytes with
  | nil => exact List.nil_prefix
  | cons b start ih =>
      rw [List.forall_mem_cons] at ascii
      obtain ⟨first, rest, rfl, same, empty⟩ := @exists_of_encode_repair _ [] _ _ ascii.1 repaired
      rw [empty rfl]
      exact List.cons_prefix_cons.mpr ⟨rfl, ih ascii.2 same⟩

end Utf8

open Utf8

/-- Repair makes no opening, since openings are ASCII. -/
theorem Tag.NoOpening.repair {bytes : Bytes} (noOpening : NoOpening bytes)
    : NoOpening (encode (repair bytes)) := by
  intro offset
  cases opened : opening? ((encode (Utf8.repair bytes)).drop offset) with
  | none => rfl
  | some kind =>
      obtain ⟨after, whole⟩ := opening?_eq_some opened
      have ascii : ∀ b ∈ kind.opening, b < 0x80 := by cases kind <;> decide +kernel
      obtain ⟨dollar, letters, spelled⟩ : ∃ dollar letters, kind.opening = dollar :: letters :=
        ⟨_, _, rfl⟩
      rw [spelled] at whole ascii
      have split : encode (Utf8.repair bytes)
          = (encode (Utf8.repair bytes)).take offset ++ dollar :: (letters ++ after) := by
        rw [← List.cons_append, ← whole, List.take_append_drop]
      rw [List.forall_mem_cons] at ascii
      obtain ⟨first, rest, rfl, same, -⟩ := exists_of_encode_repair ascii.1 split
      obtain ⟨more, rfl⟩ := prefix_of_encode_repair ascii.2 same
      have none := noOpening first.length
      rw [List.drop_left, ← List.cons_append, ← spelled, opening?_opening] at none
      cases none

end TaggedConfig
