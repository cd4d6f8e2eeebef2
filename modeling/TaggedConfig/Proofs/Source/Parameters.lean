import TaggedConfig.Proofs.Source.TokenSite

/-! The parameters that a form-encoded query states.
Of one name the first parameter counts: what other names, later parameters of the name and empty
pieces there are makes no difference to it.
-/

namespace TaggedConfig.Query

/-- A piece of a query states a parameter, by its decoded name and value. -/
inductive Writes : List Char → String → String → Prop where
  | valued {name value : List Char} (noEquals : '=' ∉ name)
    : Writes (name ++ '=' :: value) (decodeText name) (decodeText value)
  | bare {name : List Char} (filled : name ≠ []) (noEquals : '=' ∉ name)
    : Writes name (decodeText name) ""

/-- The value is that of the first parameter of the name. -/
def States (query : List Char) (name value : String) : Prop :=
  ∃ before piece after,
    query = Text.join '&' (before ++ piece :: after)
    ∧ (∀ part ∈ before ++ piece :: after, '&' ∉ part)
    ∧ Writes piece name value
    ∧ ∀ earlier ∈ before, ∀ other, ¬Writes earlier name other

theorem writes_iff {piece : List Char} {name value : String}
    : Writes piece name value ↔ piece ≠ [] ∧ parameter piece = (name, value) := by
  constructor
  · rintro (noEquals | ⟨filled, noEquals⟩)
    · exact ⟨by simp, parameter_append noEquals _⟩
    · exact ⟨filled, by rw [parameter, Text.splitFirst?_eq_none noEquals]⟩
  · rintro ⟨filled, stated⟩
    rcases Text.mem_split_or_not_mem '=' piece with ⟨name, value, rfl, noEquals⟩ | noEquals
    · rw [parameter_append noEquals] at stated
      obtain ⟨rfl, rfl⟩ := Prod.mk.inj stated
      exact .valued noEquals
    · rw [parameter, Text.splitFirst?_eq_none noEquals] at stated
      obtain ⟨rfl, rfl⟩ := Prod.mk.inj stated
      exact .bare filled noEquals

theorem parametersOf_append (before after : List (List Char))
    : parametersOf (before ++ after) = parametersOf before ++ parametersOf after := by
  simp [parametersOf]

theorem parametersOf_cons_of_writes {piece : List Char} {name value : String}
    (writes : Writes piece name value) (after : List (List Char))
    : parametersOf (piece :: after) = (name, value) :: parametersOf after := by
  obtain ⟨filled, stated⟩ := writes_iff.mp writes
  simp [parametersOf, filled, stated]

/-- A name is that of a parameter only if a piece states one of that name. -/
theorem mem_parametersOf {pieces : List (List Char)} {name value : String}
    : (name, value) ∈ parametersOf pieces ↔ ∃ piece ∈ pieces, Writes piece name value := by
  simp [parametersOf, writes_iff, and_assoc]

/-- The parameters of joined pieces are those of the pieces. -/
theorem parameters_join {pieces : List (List Char)} (clean : ∀ piece ∈ pieces, '&' ∉ piece)
    : parameters (Text.join '&' pieces) = parametersOf pieces := by
  by_cases some : pieces = []
  · subst some
    rfl
  · rw [parameters, Text.pieces_join some clean, parametersOf]

/-- The parameter that counts is the one that the query states. -/
theorem first?_eq_some_iff {query : List Char} {name value : String}
    : first? name (parameters query) = some value ↔ States query name value := by
  constructor
  · intro first
    simp only [first?, parameters, List.find?_map, List.find?_filter, Option.map_map] at first
    obtain ⟨piece, found, valued⟩ := Option.map_eq_some_iff.mp first
    obtain ⟨matching, before, after, split, earlier⟩ := List.find?_eq_some_iff_append.mp found
    simp only [Function.comp_apply, Bool.not_eq_true', List.isEmpty_eq_false_iff,
      decide_eq_true_eq] at matching valued
    refine ⟨before, piece, after, ?_, fun part member => ?_, ?_,
      fun other member value writes => ?_⟩
    · rw [← split, Text.join_pieces]
    · rw [← split] at member
      exact Text.not_mem_of_mem_pieces member
    · exact writes_iff.mpr ⟨matching.1, Prod.ext matching.2 valued⟩
    · obtain ⟨filled, stated⟩ := writes_iff.mp writes
      have unmatched := earlier other member
      simp [filled, stated] at unmatched
  · rintro ⟨before, piece, after, rfl, clean, writes, earlier⟩
    rw [parameters_join clean, parametersOf_append, parametersOf_cons_of_writes writes]
    refine first?_append_self ?_ value _
    rintro ⟨other, otherValue⟩ member rfl
    obtain ⟨part, inside, written⟩ := mem_parametersOf.mp member
    exact earlier part inside otherValue written

/-- Only one value is stated for a name. -/
theorem States.unique {query : List Char} {name value value' : String}
    (states : States query name value) (states' : States query name value')
    : value = value' := by
  rw [← first?_eq_some_iff] at states states'
  exact Option.some.inj (states.symm.trans states')

theorem first?_append (name : String) (before after : List (String × String))
    : first? name (before ++ after) = (first? name before).or (first? name after) := by
  rw [first?, List.find?_append, Option.map_or]
  rfl

/-- A piece that states nothing under a name, or does so after another, makes no difference. -/
theorem first?_insert {before after : List (List Char)} {piece : List Char} {name : String}
    (idle
      : ∀ value,
          Writes piece name value → ∃ earlier ∈ before, ∃ other, Writes earlier name other)
    : first? name (parametersOf (before ++ piece :: after))
      = first? name (parametersOf (before ++ after)) := by
  rw [← List.singleton_append, parametersOf_append, parametersOf_append, parametersOf_append,
    first?_append, first?_append, first?_append]
  cases stated : first? name (parametersOf [piece]) with
  | none => rfl
  | some value =>
      have writes : Writes piece name value := by
        obtain ⟨parameter, found, rfl⟩ := Option.map_eq_some_iff.mp stated
        have named : parameter.1 = name := by simpa using List.find?_some found
        obtain ⟨_, member, writes⟩ := mem_parametersOf.mp (List.mem_of_find?_eq_some found)
        rwa [List.mem_singleton.mp member, named] at writes
      obtain ⟨earlier, member, other, written⟩ := idle value writes
      cases first : first? name (parametersOf before) with
      | some value => rfl
      | none =>
          have absent := List.find?_eq_none.mp (Option.map_eq_none_iff.mp first)
          have unnamed := absent (name, other) (mem_parametersOf.mpr ⟨earlier, member, written⟩)
          exact absurd (decide_eq_true rfl) unnamed

end TaggedConfig.Query
