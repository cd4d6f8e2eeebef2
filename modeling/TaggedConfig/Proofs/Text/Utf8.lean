import TaggedConfig.Text.Utf8

/-! Well-formed UTF-8: the characters of joined texts are the joined characters, and so are
the texts that strict decoding and repair make of them.
-/

namespace TaggedConfig.Utf8

/-- Continuation bytes that are there do not depend on what follows, by induction on their
number.
-/
theorem continuation_append {n : Nat} {range : UInt8 × UInt8} {code : Nat} {rest : Bytes}
    {c : Char} (read : (continuation n range code rest).1 = some c) (more : Bytes)
    : continuation n range code (rest ++ more)
      = (some c, (continuation n range code rest).2 ++ more) := by
  induction n generalizing range code rest with
  | zero =>
      simp only [continuation, Option.some.injEq] at read ⊢
      rw [read]
  | succ n ih =>
      cases rest with
      | nil => simp [continuation] at read
      | cons b rest =>
          by_cases within : range.1 ≤ b ∧ b ≤ range.2
          · simp only [continuation, within, and_self, if_true, List.cons_append] at read ⊢
            exact ih read
          · simp [continuation, within] at read

/-- A whole character does not depend on what follows. -/
theorem next_append {lead : UInt8} {rest : Bytes} {c : Char}
    (read : (next lead rest).1 = some c) (more : Bytes)
    : next lead (rest ++ more) = (some c, (next lead rest).2 ++ more) := by
  unfold next at read ⊢
  cases wanted : followers? lead with
  | none => simp [wanted] at read
  | some n =>
      simp only [wanted] at read ⊢
      exact continuation_append read more

/-- The characters of a well-formed text come first, by recursion on it. -/
theorem characters_append {first : Bytes} (whole : none ∉ characters first) (second : Bytes)
    : characters (first ++ second) = characters first ++ characters second := by
  fun_induction characters first with
  | case1 => rfl
  | case2 lead rest ih =>
      simp only [List.mem_cons, not_or] at whole
      obtain ⟨c, read⟩ := Option.ne_none_iff_exists'.mp (Ne.symm whole.1)
      rw [List.cons_append, characters, next_append read, ih whole.2, read, List.cons_append]

/-- A text without a fault has only whole characters, by recursion on it. -/
theorem firstFault?_eq_none {offset : Nat} {bytes : Bytes}
    : firstFault? offset bytes = none ↔ none ∉ characters bytes := by
  fun_induction firstFault? offset bytes with
  | case1 => simp [characters]
  | case2 offset lead rest faulty => simp [characters, faulty]
  | case3 offset lead rest c read ih => simp [characters, read, ih]

/-- Strict decoding accepts a text that has only whole characters and gives the text that
repair leaves alone.
-/
theorem decode?_eq_some {bytes : Bytes} {text : String}
    : decode? bytes = some text ↔ none ∉ characters bytes ∧ repair bytes = text := by
  have whole (read : List (Option Char))
      : read.mapM id = if none ∈ read then none else some (read.map (·.getD '\uFFFD')) := by
    induction read with
    | nil => simp
    | cons c read ih =>
        cases c with
        | none => simp
        | some c => by_cases faulty : none ∈ read <;> simp [ih, faulty]
  rw [decode?, whole, repair]
  by_cases faulty : none ∈ characters bytes <;> simp [faulty]

theorem repair_append {first : Bytes} (whole : none ∉ characters first) (second : Bytes)
    : repair (first ++ second) = repair first ++ repair second := by
  rw [repair, characters_append whole, List.map_append, String.ofList_append, ← repair, ← repair]

end TaggedConfig.Utf8
