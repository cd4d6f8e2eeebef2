import TaggedConfig.Proofs.Expansion.Relation

/-! The loads and lookups of an expansion, in their order.
They are recorded beside the state without changing what the expansion does, each with the
depth of the buffer in which its tag stands.
-/

namespace TaggedConfig

open Run

/-- A source that is loaded or a variable that is looked up. -/
structure Visit where
  /-- The depth of the expansion that makes the visit. -/
  depth : UInt64
  kind : Tag.Kind
  name : String
  deriving DecidableEq, Repr

/-- The same visit at a greater depth. -/
def Visit.deepen (visit : Visit) (shift : UInt64) : Visit :=
  { visit with depth := visit.depth + shift }

/-- The descriptor that a visit loads, if it loads a source. -/
def Visit.descriptor? (visit : Visit) : Option String :=
  match visit.kind with
  | .source => some visit.name
  | .variable => none

/-- A state and the visits that were made, first to last. -/
structure Trail (σ : Type) where
  state : σ
  visits : List Visit := []

namespace Expander

variable {σ : Type} [Host (StateM σ)]

/-- Resolves a tag and records the visit. -/
def visit (expander : Expander (StateM σ)) (depth : UInt64) (kind : Tag.Kind) (content : Bytes)
    : Action (StateM (Trail σ)) Bytes :=
  ExceptT.mk fun trail =>
    let (result, state) := outcome (expander.resolve depth kind content) trail.state
    (result, ⟨state, trail.visits ++ [⟨depth, kind, Utf8.repair content⟩]⟩)

/-- Expands a buffer at a depth and records the visits. -/
def walk (expander : Expander (StateM σ)) (data : Bytes) (depth : UInt64)
    : Action (StateM (Trail σ)) Bytes :=
  expandWithin expander.visit expander.ceiling (levels expander.ceiling depth) depth data

/-- The visits that expanding a buffer makes from a state. -/
def visits (expander : Expander (StateM σ)) (data : Bytes) (depth : UInt64) (s : σ)
    : List Visit :=
  (outcome (expander.walk data depth) { state := s }).2.visits

theorem outcome_visit (expander : Expander (StateM σ)) (depth : UInt64) (kind : Tag.Kind)
    (content : Bytes) (trail : Trail σ)
    : outcome (expander.visit depth kind content) trail
      = ((outcome (expander.resolve depth kind content) trail.state).1,
        ⟨(outcome (expander.resolve depth kind content) trail.state).2,
          trail.visits ++ [⟨depth, kind, Utf8.repair content⟩]⟩) := rfl

/-- Recording the visits changes neither the result nor the state, however many levels there are. -/
theorem outcome_expandWithin (expander : Expander (StateM σ)) (ceiling : UInt64) (levels : Nat)
    (depth : UInt64) (data : Bytes) (trail : Trail σ)
    : outcome (expandWithin expander.resolve ceiling levels depth data) trail.state
      = ((outcome (expandWithin expander.visit ceiling levels depth data) trail).1,
        (outcome (expandWithin expander.visit ceiling levels depth data) trail).2.state) := by
  have resolved
      : ∀ depth kind content,
          Mirrors (fun trail s => trail.state = s) Eq (expander.visit depth kind content)
            (expander.resolve depth kind content) := by
    rintro depth kind content trail _ rfl
    rw [outcome_visit]
    exact ⟨.refl (fun _ => rfl) _, rfl⟩
  have mirrored :=
    (compositional_mirrors _ fun _ => rfl).expandWithin_alike resolved ceiling levels depth data
      trail _ rfl
  exact Prod.ext mirrored.1.eq.symm mirrored.2.symm

theorem outcome_expand (expander : Expander (StateM σ)) (data : Bytes) (depth : UInt64)
    (trail : Trail σ)
    : outcome (expander.expand data depth) trail.state
      = ((outcome (expander.walk data depth) trail).1,
        (outcome (expander.walk data depth) trail).2.state) :=
  expander.outcome_expandWithin _ _ depth data trail

/-- The visits of an expansion come after those that were made before it. -/
theorem visits_expandWithin (expander : Expander (StateM σ)) (ceiling : UInt64) (levels : Nat)
    (depth : UInt64) (data : Bytes) (trail : Trail σ)
    : (outcome (expandWithin expander.visit ceiling levels depth data) trail).2.visits
      = trail.visits
        ++ (outcome (expandWithin expander.visit ceiling levels depth data)
            { state := trail.state }).2.visits := by
  have resolved
      : ∀ depth kind content,
          Mirrors
            (fun fresh later =>
              later.state = fresh.state ∧ later.visits = trail.visits ++ fresh.visits)
            Eq (expander.visit depth kind content) (expander.visit depth kind content) := by
    rintro depth kind content fresh later ⟨state, visits⟩
    rw [outcome_visit, outcome_visit, state, visits, List.append_assoc]
    exact ⟨.refl (fun _ => rfl) _, rfl, rfl⟩
  have mirrored :=
    (compositional_mirrors _ fun _ => rfl).expandWithin_alike resolved ceiling levels depth data
      { state := trail.state } trail ⟨rfl, (List.append_nil _).symm⟩
  exact mirrored.2.2

/-- Visits are made below the ceiling. At the ceiling the content of a tag is too deep
already, so nothing is left to resolve. By induction on the levels.
-/
theorem visits_below (expander : Expander (StateM σ)) (levels : Nat) (depth : UInt64)
    (within : levels = expander.ceiling.toNat + 1 - depth.toNat) (data : Bytes)
    : Keeps (fun trail => ∀ visit ∈ trail.visits, visit.depth < expander.ceiling)
        (expandWithin expander.visit expander.ceiling levels depth data) := by
  induction levels using Nat.twoStepInduction generalizing depth data with
  | zero => exact .throw _
  | one =>
      -- the content fails first, whatever `resolve` would do
      rw [expandWithin_succ]
      refine Keeps.assemble (fun kind raw => ?_) _ _
      exact Keeps.bind ((compositional_keeps _).deeper depth).2 fun next => .throw _
  | more levels ih ih' =>
      have below : depth < expander.ceiling := UInt64.lt_iff_toNat_lt.mpr (by omega)
      have next := toNat_next (next_fits below)
      refine Keeps.expandWithin_succ (fun kind content => ?_) (ih' _ (by omega)) data
      intro trail holds visit member
      rcases List.mem_append.mp member with earlier | last
      · exact holds visit earlier
      · obtain rfl := List.mem_singleton.mp last
        exact below

end Expander

end TaggedConfig
