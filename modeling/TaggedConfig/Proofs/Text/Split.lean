import TaggedConfig.Text.Split

/-! Cutting a text at a character undoes joining with it, and joining restores what was cut.
Starts without the character do not see what comes from it on.
-/

namespace TaggedConfig.Text

/-- A text is cut at the first occurrence, by induction on what comes before it. -/
theorem splitFirst?_append {c : Char} {before : List Char} (absent : c ∉ before)
    (after : List Char)
    : splitFirst? c (before ++ c :: after) = some (before, after) := by
  induction before with
  | nil => simp [splitFirst?]
  | cons d before ih =>
      simp only [List.mem_cons, not_or] at absent
      simp [splitFirst?, Ne.symm absent.1, ih absent.2]

/-- A text without the character is not cut, by induction on it. -/
theorem splitFirst?_eq_none {c : Char} {text : List Char} (absent : c ∉ text)
    : splitFirst? c text = none := by
  induction text with
  | nil => rfl
  | cons d text ih =>
      simp only [List.mem_cons, not_or] at absent
      simp [splitFirst?, Ne.symm absent.1, ih absent.2]

/-- Every text either has a first occurrence of the character or has none. -/
theorem mem_split_or_not_mem (c : Char) (text : List Char)
    : (∃ before after, text = before ++ c :: after ∧ c ∉ before) ∨ c ∉ text := by
  by_cases member : c ∈ text
  · obtain ⟨before, after, whole, absent⟩ := List.eq_append_cons_of_mem member
    exact Or.inl ⟨before, after, whole, absent⟩
  · exact Or.inr member

theorem length_after_lt {c : Char} {text before after : List Char}
    (whole : text = before ++ c :: after)
    : after.length < text.length := by
  rw [whole, List.length_append, List.length_cons]
  omega

/-- A text without the character is its only piece, by induction on it. -/
theorem pieces_eq_singleton {c : Char} {text : List Char} (absent : c ∉ text)
    : pieces c text = [text] := by
  induction text with
  | nil => rfl
  | cons d text ih =>
      simp only [List.mem_cons, not_or] at absent
      simp [pieces, Ne.symm absent.1, ih absent.2]

/-- A first piece ends at the first occurrence, by induction on it. -/
theorem pieces_append {c : Char} {before : List Char} (absent : c ∉ before)
    (after : List Char)
    : pieces c (before ++ c :: after) = before :: pieces c after := by
  induction before with
  | nil => simp [pieces]
  | cons d before ih =>
      simp only [List.mem_cons, not_or] at absent
      simp [pieces, Ne.symm absent.1, ih absent.2]

/-- Pieces that each end with the character come first, by induction on them. -/
theorem pieces_flatMap_append {c : Char} {parts : List (List Char)}
    (absent : ∀ part ∈ parts, c ∉ part) (after : List Char)
    : pieces c (parts.flatMap (· ++ [c]) ++ after) = parts ++ pieces c after := by
  induction parts with
  | nil => rfl
  | cons part parts ih =>
      simp only [List.forall_mem_cons] at absent
      simp [pieces_append absent.1, ih absent.2]

/-- Pieces that each begin with the character come after a piece, by induction on them. -/
theorem pieces_append_flatMap {c : Char} {part : List Char} {parts : List (List Char)}
    (absent : c ∉ part) (others : ∀ part ∈ parts, c ∉ part)
    : pieces c (part ++ parts.flatMap (c :: ·)) = part :: parts := by
  induction parts generalizing part with
  | nil => simp [pieces_eq_singleton absent]
  | cons next parts ih =>
      simp only [List.forall_mem_cons] at others
      simp [pieces_append absent, ih others.1 others.2]

/-- What follows a piece ends it and has the other pieces, whatever the piece is. -/
theorem exists_pieces_append (c : Char) (rest : List Char)
    : ∃ close others,
        ∀ part, c ∉ part → pieces c (part ++ rest) = (part ++ close) :: others := by
  rcases mem_split_or_not_mem c rest with ⟨close, after, rfl, absent⟩ | absent
  · refine ⟨close, pieces c after, fun part partAbsent => ?_⟩
    rw [← List.append_assoc, pieces_append (by simp [partAbsent, absent])]
  · refine ⟨rest, [], fun part partAbsent => ?_⟩
    rw [pieces_eq_singleton (by simp [partAbsent, absent])]

theorem pieces_ne_nil (c : Char) (text : List Char) : pieces c text ≠ [] := by
  rcases mem_split_or_not_mem c text with ⟨before, after, rfl, absent⟩ | absent
  · simp [pieces_append absent]
  · simp [pieces_eq_singleton absent]

/-- The pieces of a text have none of the characters, by induction on the text. -/
theorem not_mem_of_mem_pieces {c : Char} {text part : List Char}
    (member : part ∈ pieces c text)
    : c ∉ part := by
  rcases mem_split_or_not_mem c text with ⟨before, after, whole, absent⟩ | absent
  · have shorter := length_after_lt whole
    rw [whole, pieces_append absent] at member
    rcases List.mem_cons.mp member with rfl | member
    · exact absent
    · exact not_mem_of_mem_pieces member
  · rw [pieces_eq_singleton absent] at member
    rwa [List.mem_singleton.mp member]
termination_by text.length

/-- The pieces of a text make it up with the character between them, by induction on the
pieces before the one that is singled out.
-/
theorem eq_of_pieces {c : Char} {text part : List Char} {before after : List (List Char)}
    (h : pieces c text = before ++ part :: after)
    : text = before.flatMap (· ++ [c]) ++ (part ++ after.flatMap (c :: ·)) := by
  rcases mem_split_or_not_mem c text with ⟨first, rest, whole, absent⟩ | absent
  · have shorter := length_after_lt whole
    rw [whole, pieces_append absent] at h
    cases before with
    | nil =>
        obtain ⟨rfl, later⟩ := List.cons.inj h
        cases after with
        | nil => exact (pieces_ne_nil c rest later).elim
        | cons next after =>
            have tail := eq_of_pieces (show pieces c rest = [] ++ next :: after from later)
            simp only [List.flatMap_nil, List.nil_append] at tail
            simp [whole, tail]
    | cons earlier before =>
        obtain ⟨rfl, later⟩ := List.cons.inj h
        simp [whole, eq_of_pieces later]
  · rw [pieces_eq_singleton absent, List.singleton_eq_append_iff] at h
    rcases h with ⟨rfl, h⟩ | ⟨-, h⟩
    · obtain ⟨rfl, rfl⟩ := List.cons.inj h
      simp
    · simp at h
termination_by text.length

/-- The pieces of a text have no characters but those of the text. -/
theorem mem_of_mem_pieces {c d : Char} {text part : List Char}
    (member : part ∈ pieces c text) (inside : d ∈ part)
    : d ∈ text := by
  obtain ⟨before, after, split⟩ := List.append_of_mem member
  rw [eq_of_pieces split]
  simp [inside]

/-- Joining puts the character after each piece before one and before each piece after it. -/
theorem join_append_cons (c : Char) (before : List (List Char)) (part : List Char)
    (after : List (List Char))
    : join c (before ++ part :: after)
      = before.flatMap (· ++ [c]) ++ (part ++ after.flatMap (c :: ·)) := by
  induction before with
  | cons earlier before ih =>
      rw [join] at ih
      rw [join, List.cons_append, List.intercalate_cons_of_ne_nil (by simp), ih]
      simp
  | nil =>
      induction after generalizing part with
      | nil => simp [join]
      | cons next after ih =>
          simp only [join, List.nil_append, List.flatMap_nil] at ih
          rw [join, List.nil_append, List.intercalate_cons_cons, ih]
          simp

/-- What follows a start without the character does not depend on the text from the
character on, by induction on the start.
-/
theorem dropStart?_append {c : Char} {start : List Char} (absent : c ∉ start)
    (text rest : List Char)
    : dropStart? start (text ++ c :: rest) = (dropStart? start text).map (· ++ c :: rest) := by
  have matched
      : start.isPrefixOf (text ++ c :: rest) = start.isPrefixOf text
        ∧ (start.isPrefixOf text = true → start.length ≤ text.length) := by
    refine ⟨?_, fun found => (List.isPrefixOf_iff_prefix.mp found).length_le⟩
    induction start generalizing text with
    | nil => simp
    | cons d start ih =>
        simp only [List.mem_cons, not_or] at absent
        cases text with
        | nil => simp [List.isPrefixOf, Ne.symm absent.1]
        | cons e text => simp [List.isPrefixOf, ih absent.2]
  unfold dropStart?
  rw [matched.1]
  split
  · rename_i found
    simp [List.drop_append_of_le_length (matched.2 found)]
  · rfl

theorem getLast?_trimEnd_ne (c : Char) (text : List Char)
    : (trimEnd c text).getLast? ≠ some c := by
  rw [trimEnd, List.getLast?_reverse]
  intro last
  have stopped := List.head?_dropWhile_not (fun d : Char => d = c) text.reverse
  rw [last] at stopped
  simp at stopped

theorem mem_of_mem_trimEnd {c d : Char} {text : List Char} (member : d ∈ trimEnd c text)
    : d ∈ text := by
  rw [trimEnd, List.mem_reverse] at member
  exact List.mem_reverse.mp ((List.dropWhile_suffix _).subset member)

/-- A text is cut at every occurrence, by induction on what comes before one of them. -/
theorem pieces_append_cons (c : Char) (before after : List Char)
    : pieces c (before ++ c :: after) = pieces c before ++ pieces c after := by
  induction before with
  | nil => simp [pieces]
  | cons d before ih =>
      rw [List.cons_append, pieces, pieces, ih]
      split
      · rfl
      · obtain ⟨first, others, known⟩ := List.exists_cons_of_ne_nil (pieces_ne_nil c before)
        simp [known]

/-- Joining restores what was cut. -/
theorem join_pieces (c : Char) (text : List Char) : join c (pieces c text) = text := by
  obtain ⟨first, others, known⟩ := List.exists_cons_of_ne_nil (pieces_ne_nil c text)
  have whole := eq_of_pieces (show pieces c text = [] ++ first :: others from known)
  rw [known, ← List.nil_append (first :: others), join_append_cons, ← whole]

/-- Cutting restores what was joined. -/
theorem pieces_join {c : Char} {parts : List (List Char)} (some : parts ≠ [])
    (absent : ∀ part ∈ parts, c ∉ part)
    : pieces c (join c parts) = parts := by
  obtain ⟨first, others, rfl⟩ := List.exists_cons_of_ne_nil some
  rw [List.forall_mem_cons] at absent
  rw [← List.nil_append (first :: others), join_append_cons, List.flatMap_nil, List.nil_append,
    pieces_append_flatMap absent.1 absent.2, List.nil_append]

/-- Joining adds no character but the one between the parts, by induction on them. -/
theorem not_mem_join {c d : Char} {parts : List (List Char)} (differ : d ≠ c)
    (absent : ∀ part ∈ parts, d ∉ part)
    : d ∉ join c parts := by
  rw [join]
  induction parts with
  | nil => exact List.not_mem_nil
  | cons part parts ih =>
      rw [List.forall_mem_cons] at absent
      cases parts with
      | nil => simpa using absent.1
      | cons next parts =>
          rw [List.intercalate_cons_cons]
          simp [absent.1, differ, ih absent.2]

/-- A piece is empty where nothing stands between two occurrences, or between one of them and the
start or the end.
-/
theorem nil_mem_pieces_iff {c : Char} {text : List Char}
    : [] ∈ pieces c text
      ↔ ∃ before after,
          text = before ++ after
          ∧ (before = [] ∨ before.getLast? = some c)
          ∧ (after = [] ∨ after.head? = some c) := by
  constructor
  · intro member
    obtain ⟨earlier, later, split⟩ := List.append_of_mem member
    refine ⟨earlier.flatMap (· ++ [c]), later.flatMap (c :: ·), eq_of_pieces split, ?_, ?_⟩
    · rcases List.eq_nil_or_concat earlier with rfl | ⟨front, last, rfl⟩
      · exact Or.inl rfl
      · exact Or.inr (by simp)
    · cases later with
      | nil => exact Or.inl rfl
      | cons next later => exact Or.inr rfl
  · rintro ⟨before, after, rfl, start, stop⟩
    have ends : [] ∈ pieces c after := by
      rcases stop with rfl | stop
      · exact List.mem_singleton_self []
      · obtain ⟨rest, rfl⟩ := List.head?_eq_some_iff.mp stop
        simp [pieces]
    rcases start with rfl | start
    · exact ends
    · obtain ⟨front, rfl⟩ := List.getLast?_eq_some_iff.mp start
      rw [List.append_assoc, List.singleton_append, pieces_append_cons]
      exact List.mem_append_right _ ends

/-- The text is the trimmed one with all the characters that were at its end. -/
def IsTrimmed (c : Char) (text trimmed : List Char) : Prop :=
  (∃ count, text = trimmed ++ List.replicate count c) ∧ trimmed.getLast? ≠ some c

theorem isTrimmed_trimEnd (c : Char) (text : List Char) : IsTrimmed c text (trimEnd c text) := by
  refine ⟨⟨(text.reverse.takeWhile (· = c)).length, ?_⟩, getLast?_trimEnd_ne c text⟩
  have trimmed : text.reverse.takeWhile (· = c)
      = List.replicate (text.reverse.takeWhile (· = c)).length c :=
    List.eq_replicate_of_mem fun d member => by
      simpa using List.all_eq_true.mp List.all_takeWhile d member
  rw [trimEnd, ← List.reverse_reverse (List.replicate _ c), List.reverse_replicate, ← trimmed,
    ← List.reverse_append, List.takeWhile_append_dropWhile, List.reverse_reverse]

/-- There is only one way to trim a text. -/
theorem isTrimmed_iff {c : Char} {text trimmed : List Char}
    : IsTrimmed c text trimmed ↔ trimEnd c text = trimmed := by
  refine ⟨?_, fun same => same ▸ isTrimmed_trimEnd c text⟩
  rintro ⟨⟨count, rfl⟩, last⟩
  rw [trimEnd, List.reverse_append, List.reverse_replicate,
    List.dropWhile_append_of_pos (by simp), List.reverse_eq_iff]
  cases reversed : trimmed.reverse with
  | nil => rfl
  | cons d rest =>
      rw [← List.head?_reverse, reversed, List.head?_cons] at last
      exact List.dropWhile_cons_of_neg (by simpa using last)

end TaggedConfig.Text
