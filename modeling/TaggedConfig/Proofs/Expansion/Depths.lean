import TaggedConfig.Proofs.Expansion.Machine
import TaggedConfig.Proofs.Expansion.Visits

/-! Depths as words of 64 bits.
Each call is made at the depth after that of its caller, and never at a word that is not greater.
A tag at the ceiling is too deep, unless the ceiling is the greatest word, which no depth is above
and none comes after.
-/

namespace TaggedConfig

open Run

namespace Expander

variable {σ : Type} [Host (StateM σ)] {expander : Expander (StateM σ)}

-----------------------------------------------------------------------------------------
-- A tag at the ceiling
-----------------------------------------------------------------------------------------

/-- Why a tag at the ceiling is not replaced. -/
def faultAtCeiling (ceiling : UInt64) : Fault :=
  if ceiling.toNat + 1 < UInt64.size then .tooManyLevels ceiling else .depthOverflow

theorem faultAtCeiling_eq_tooManyLevels_iff {ceiling : UInt64}
    : faultAtCeiling ceiling = .tooManyLevels ceiling ↔ ceiling.toNat + 1 < UInt64.size := by
  unfold faultAtCeiling
  split_ifs with fits <;> simp [fits]

theorem faultAtCeiling_eq_depthOverflow_iff {ceiling : UInt64}
    : faultAtCeiling ceiling = .depthOverflow ↔ ceiling.toNat + 1 = UInt64.size := by
  have bound : ceiling.toNat < UInt64.size := ceiling.toNat_lt
  unfold faultAtCeiling
  split_ifs with fits
  · exact iff_of_false nofun (Nat.ne_of_lt fits)
  · exact iff_of_true rfl (Nat.le_antisymm bound (Nat.not_lt.mp fits))

/-- With one level left the content of the first tag is too deep already or there is no depth for
it, whatever the tags are resolved to.
-/
theorem outcome_expandWithin_one {τ : Type}
    {resolve : UInt64 → Tag.Kind → Bytes → Action (StateM τ) Bytes} (ceiling : UInt64)
    {data : Bytes} {tag : Tag} (found : (Cursor.ofBytes data).search = .tag tag) (t : τ)
    : outcome (expandWithin resolve ceiling 1 ceiling data) t
      = (.error (.ofFault (faultAtCeiling ceiling)), t) := by
  rw [expandWithin, Cursor.substitute_tag _ _ found, faultAtCeiling]
  split_ifs with fits
  · rw [deeper_eq_pure fits]
    rfl
  · rw [deeper_eq_fail fits]
    rfl

/-- A buffer with a tag fails at the ceiling, and nothing is loaded. -/
theorem fails_at_ceiling (expander : Expander (StateM σ)) {data : Bytes} {tag : Tag}
    (found : (Cursor.ofBytes data).search = .tag tag) (s : σ)
    : outcome (expander.expand data expander.ceiling) s
        = (.error (.ofFault (faultAtCeiling expander.ceiling)), s)
      ∧ expander.visits data expander.ceiling s = [] := by
  have one : levels expander.ceiling expander.ceiling = 1 := Nat.add_sub_cancel_left _ _
  unfold visits walk expand
  rw [one, outcome_expandWithin_one _ found, outcome_expandWithin_one _ found]
  exact ⟨rfl, rfl⟩

-----------------------------------------------------------------------------------------
-- Which ceilings hold
-----------------------------------------------------------------------------------------

/-- Under every ceiling each call is made at the depth after that of its caller, so that calls go
deeper, and callers are within the ceiling. A buffer with a tag fails at the ceiling before anything
is loaded: for too many levels if the ceiling is not the greatest word, and else because the depth
after that word overflows.
-/
theorem stops_at_ceiling_iff (expander : Expander (StateM σ)) (s : σ)
    : (∀ depth data machine,
        expander.Steps ⟨.call depth data, [], s⟩ machine →
          machine.depths.IsChain Succeeds
          ∧ machine.depths.Pairwise (· > ·)
          ∧ ∀ caller ∈ machine.callers, caller.loop.depth ≤ expander.ceiling)
      ∧ ∀ data tag,
          (Cursor.ofBytes data).search = .tag tag →
            expander.visits data expander.ceiling s = []
            ∧ (outcome (expander.expand data expander.ceiling) s
                  = (.error (.ofFault (.tooManyLevels expander.ceiling)), s)
                ↔ expander.ceiling.toNat + 1 < UInt64.size)
            ∧ (outcome (expander.expand data expander.ceiling) s
                  = (.error (.ofFault .depthOverflow), s)
                ↔ expander.ceiling.toNat + 1 = UInt64.size) := by
  refine ⟨fun depth data machine steps => ?_, fun data tag found => ?_⟩
  · have orderly := steps.orderly (Machine.orderly_call _ depth data s)
    exact ⟨orderly.successive, orderly.deeper, fun caller waits =>
      (orderly.callers caller waits).within⟩
  · obtain ⟨failed, visits⟩ := expander.fails_at_ceiling found s
    have alone {fault : Fault}
        : outcome (expander.expand data expander.ceiling) s = (.error (.ofFault fault), s)
          ↔ faultAtCeiling expander.ceiling = fault := by
      rw [failed]
      refine ⟨fun same => ?_, fun same => by rw [same]⟩
      exact congrArg Error.fault (Except.error.inj (Prod.mk.inj same).1)
    exact ⟨visits, alone.trans faultAtCeiling_eq_tooManyLevels_iff,
      alone.trans faultAtCeiling_eq_depthOverflow_iff⟩

/-- A world with a variable. -/
def numberedWorld : World where
  environment := [("A", ascii "1")]

def ceiledExpander (ceiling : UInt64) : Expander (StateM World) where
  chain := Chain.builtin
  ceiling

/-- One below the greatest word the calls of every run go deeper, and a tag at the ceiling fails for
too many levels.
-/
theorem stops_at_ceiling_iff_largest
    : (∀ depth data machine,
        (ceiledExpander 18446744073709551614).Steps ⟨.call depth data, [], numberedWorld⟩ machine →
          machine.depths.Pairwise (· > ·))
      ∧ outcome
          ((ceiledExpander 18446744073709551614).expand (ascii "$\x7bENV:A\x7d")
            18446744073709551614)
          numberedWorld
        = (.error (.ofFault (.tooManyLevels 18446744073709551614)), numberedWorld)
      ∧ (ceiledExpander 18446744073709551614).visits (ascii "$\x7bENV:A\x7d")
          18446744073709551614 numberedWorld
        = [] := by
  have found
      : (Cursor.ofBytes (ascii "$\x7bENV:A\x7d")).search = .tag ⟨.variable, 0, 1⟩ := by
    decide +kernel
  obtain ⟨deeper, fails⟩ :=
    stops_at_ceiling_iff (ceiledExpander 18446744073709551614) numberedWorld
  obtain ⟨visits, tooDeep, -⟩ := fails _ _ found
  exact ⟨fun depth data machine steps => (deeper depth data machine steps).2.1,
    tooDeep.mpr (by decide), visits⟩

/-- At the greatest word a tag does not fail for too many levels: the depth after it overflows. -/
theorem overflows_at_ceiling
    : outcome
          ((ceiledExpander 18446744073709551615).expand (ascii "$\x7bENV:A\x7d")
            18446744073709551615)
          numberedWorld
        = (.error (.ofFault .depthOverflow), numberedWorld)
      ∧ Error.ofFault .depthOverflow ≠ .ofFault (.tooManyLevels 18446744073709551615) := by
  refine ⟨?_, by decide⟩
  decide +kernel

end Expander

end TaggedConfig
