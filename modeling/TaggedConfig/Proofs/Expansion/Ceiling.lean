import TaggedConfig.Proofs.Expansion.Visits
import TaggedConfig.Proofs.Source.Log

/-! A ceiling on the depth only cuts an expansion short.
Under a higher ceiling the expansion does the same as far as it went, and depth and ceiling
count only by their difference.
-/

namespace TaggedConfig

open Run

/-- Whether an error says that there are too many levels. -/
def Error.IsTooDeep (error : Error) : Prop := ∃ ceiling, error.fault = .tooManyLevels ceiling

variable {σ α : Type}

-----------------------------------------------------------------------------------------
-- Higher ceilings
-----------------------------------------------------------------------------------------

/-- What the first of two runs from a trail comes to is what the second comes to, unless the
first is cut short. It goes no further than the second, and the second only goes on.
-/
structure Cut (start : Trail σ) (first second : Except Error α × Trail σ) : Prop where
  same_or_cut : second = first ∨ ∃ error, first.1 = .error error ∧ error.IsTooDeep
  shorter : first.2.visits <+: second.2.visits
  onward : start.visits <+: second.2.visits

theorem Cut.refl {start : Trail σ} {result : Except Error α × Trail σ}
    (onward : start.visits <+: result.2.visits)
    : Cut start result result :=
  ⟨Or.inl rfl, List.prefix_rfl, onward⟩

/-- To be cut short is a relation of actions, since the longer run only goes on. -/
theorem compositional_cut
    : Compositional fun (first second : Action (StateM (Trail σ)) _) =>
        ∀ trail, Cut trail (outcome first trail) (outcome second trail) where
  pure _ _ := .refl List.prefix_rfl
  throw _ _ := .refl List.prefix_rfl
  bind {_ _ first first' second second'} head tail trail := by
    obtain ⟨choice, shorter, onward⟩ := head trail
    rw [outcome_bind, outcome_bind]
    rcases known : outcome first trail with ⟨x, t⟩
    rcases known' : outcome first' trail with ⟨y, t'⟩
    rw [known, known'] at choice shorter
    rw [known'] at onward
    rcases choice with same | ⟨error, failed, deep⟩
    -- not cut short yet: the second parts start from the same trail
    · obtain ⟨rfl, rfl⟩ := Prod.mk.inj same
      cases y with
      | error error => exact .refl onward
      | ok a =>
          have cut := tail a t'
          exact ⟨cut.same_or_cut, cut.shorter, onward.trans cut.onward⟩
    -- cut short: the first run is over, and the second only adds visits
    · obtain rfl : x = .error error := failed
      cases y with
      | error other => exact ⟨Or.inr ⟨error, rfl, deep⟩, shorter, onward⟩
      | ok a =>
          have further := (tail a t').onward
          exact ⟨Or.inr ⟨error, rfl, deep⟩, shorter.trans further, onward.trans further⟩

/-- A higher ceiling leaves at least as many levels. -/
theorem levels_le_levels {lower upper : UInt64} (higher : lower ≤ upper) (depth : UInt64)
    : levels lower depth ≤ levels upper depth :=
  Nat.sub_le_sub_right (Nat.succ_le_succ (UInt64.le_iff_toNat_le.mp higher)) _

/-- The levels that a ceiling below the greatest word leaves never lead past that word. -/
theorem add_levels_lt {ceiling depth : UInt64} (shift : Nat)
    (ceilingFits : ceiling.toNat + shift + 1 < UInt64.size)
    (depthFits : depth.toNat + shift < UInt64.size)
    : depth.toNat + shift + levels ceiling depth < UInt64.size := by
  rw [levels]
  omega

namespace Expander

/-- The expander under another ceiling. -/
def under {m : Type → Type} (expander : Expander m) (ceiling : UInt64) : Expander m :=
  { expander with ceiling }

@[simp] theorem ceiling_under {m : Type → Type} (expander : Expander m) (ceiling : UInt64)
    : (expander.under ceiling).ceiling = ceiling := rfl

variable [Host (StateM σ)]

/-- Visits are only added. -/
theorem visits_onward (expander : Expander (StateM σ)) (visits : List Visit) (ceiling : UInt64)
    (levels : Nat) (depth : UInt64) (data : Bytes)
    : Keeps (fun trail => visits <+: trail.visits)
        (expandWithin expander.visit ceiling levels depth data) := by
  refine ((compositional_keeps _).expandWithin_alike (fun depth kind content => ⟨rfl, ?_⟩)
    ceiling levels depth data).2
  exact fun trail before => before.trans (List.prefix_append _ _)

/-- An expansion with fewer levels is the one with more levels, cut short. -/
theorem expandWithin_cut (expander : Expander (StateM σ)) (ceiling upper : UInt64)
    (levels extra : Nat) (depth : UInt64) (fits : depth.toNat + levels < UInt64.size)
    (data : Bytes) (trail : Trail σ)
    : Cut trail (outcome (expandWithin expander.visit ceiling levels depth data) trail)
        (outcome (expandWithin expander.visit upper (levels + extra) depth data) trail) := by
  have resolved
      : ∀ depth kind content trail,
          Cut trail (outcome (expander.visit depth kind content) trail)
            (outcome (expander.visit (depth + 0) kind content) trail) := by
    intro depth kind content trail
    rw [UInt64.add_zero]
    exact .refl (List.prefix_append _ _)
  have exhausted
      : ∀ depth data trail,
          Cut trail (outcome (throw (.ofFault (.tooManyLevels ceiling)) : Action _ Bytes) trail)
            (outcome (expandWithin expander.visit upper extra (depth + 0) data) trail) := by
    intro depth data trail
    have onward := expander.visits_onward trail.visits upper extra (depth + 0) data trail
    exact ⟨Or.inr ⟨_, rfl, _, rfl⟩, onward List.prefix_rfl, onward List.prefix_rfl⟩
  have cut := compositional_cut.expandWithin 0 extra resolved exhausted levels depth fits data trail
  rwa [UInt64.add_zero] at cut

/-- An expansion is the expansion under a higher ceiling, cut short. Above both ceilings neither
does anything.
-/
theorem walk_cut (expander : Expander (StateM σ)) {upper : UInt64}
    (higher : expander.ceiling ≤ upper) (bounded : upper.toNat + 1 < UInt64.size) (data : Bytes)
    (depth : UInt64) (trail : Trail σ)
    : Cut trail (outcome (expander.walk data depth) trail)
        (outcome ((expander.under upper).walk data depth) trail) := by
  obtain ⟨extra, counted⟩ := Nat.exists_eq_add_of_le (levels_le_levels higher depth)
  have lowerBounded : expander.ceiling.toNat + 1 < UInt64.size :=
    Nat.lt_of_le_of_lt (Nat.succ_le_succ (UInt64.le_iff_toNat_le.mp higher)) bounded
  have fits : depth.toNat + levels expander.ceiling depth < UInt64.size :=
    add_levels_lt 0 lowerBounded depth.toNat_lt
  have cut :=
    expander.expandWithin_cut expander.ceiling upper (levels expander.ceiling depth) extra depth
      fits data trail
  rw [← counted] at cut
  exact cut

-----------------------------------------------------------------------------------------
-- Depth and ceiling together
-----------------------------------------------------------------------------------------

/-- States that are alike to an expansion: what loads and lookups come to is the same, and log
records make no difference. The depth shows in log records, which are written and never read.
-/
structure Blind (expander : Expander (StateM σ)) (R : σ → σ → Prop) : Prop where
  log (level level' : Level) (text text' : String)
    : Mirrors R Eq (Action.log level text) (Action.log level' text')
  lookup (name : String)
    : Mirrors R Eq (ExceptT.lift (Host.lookup name)) (ExceptT.lift (Host.lookup name))
  load (descriptor : String)
    : Mirrors R Eq (expander.chain.load expander.context descriptor)
        (expander.chain.load expander.context descriptor)

/-- The built-in loaders do not read the log of a world. -/
theorem blind_builtin (context : Context) (ceiling : UInt64)
    : Blind { chain := Chain.builtin, context, ceiling } World.SameButLog where
  log := World.mirrors_log
  lookup _ := World.mirrors_of_logFree fun _ _ => rfl
  load descriptor := World.mirrors_load_builtin context descriptor

/-- The depth only shows in the log. -/
theorem Blind.resolve {expander : Expander (StateM σ)} {R : σ → σ → Prop}
    (blind : expander.Blind R) (depth depth' : UInt64) (kind : Tag.Kind) (content : Bytes)
    : Mirrors R Eq (expander.resolve depth kind content)
        (expander.resolve depth' kind content) := by
  have compositional := compositional_mirrors R (E := Eq) fun _ => rfl
  match kind with
  | .source => exact compositional.bind (blind.log _ _ _ _) fun _ => blind.load _
  | .variable => exact compositional.bind (blind.log _ _ _ _) fun _ =>
      compositional.lookup (blind.lookup _)

/-- The errors are the same, but for the ceiling that one of too many levels names. -/
def Renumbered (ceiling shift : UInt64) (error error' : Error) : Prop :=
  error' = error
  ∨ error = .ofFault (.tooManyLevels ceiling) ∧ error' = .ofFault (.tooManyLevels (ceiling + shift))

theorem Renumbered.refl (ceiling shift : UInt64) (error : Error)
    : Renumbered ceiling shift error error :=
  Or.inl rfl

/-- Trails in alike states whose visits are the same but for the depth. -/
structure Deepened (R : σ → σ → Prop) (shift : UInt64) (trail trail' : Trail σ) : Prop where
  state : R trail.state trail'.state
  visits : trail'.visits = trail.visits.map (·.deepen shift)

theorem levels_add {ceiling depth shift : UInt64}
    (ceilingFits : ceiling.toNat + shift.toNat + 1 < UInt64.size)
    (depthFits : depth.toNat + shift.toNat + 1 < UInt64.size)
    : levels (ceiling + shift) (depth + shift) = levels ceiling depth := by
  have higher : (ceiling + shift).toNat = ceiling.toNat + shift.toNat := by
    rw [UInt64.toNat_add]
    exact Nat.mod_eq_of_lt (Nat.lt_of_succ_lt ceilingFits)
  have deeper : (depth + shift).toNat = depth.toNat + shift.toNat := by
    rw [UInt64.toNat_add]
    exact Nat.mod_eq_of_lt (Nat.lt_of_succ_lt depthFits)
  rw [levels, levels, higher, deeper]
  omega

/-- Depth and ceiling count only by their difference. -/
theorem walk_deepened {expander : Expander (StateM σ)} {R : σ → σ → Prop}
    (blind : expander.Blind R) {shift depth : UInt64}
    (ceilingFits : expander.ceiling.toNat + shift.toNat + 1 < UInt64.size)
    (depthFits : depth.toNat + shift.toNat + 1 < UInt64.size) (data : Bytes)
    : Mirrors (Deepened R shift) (Renumbered expander.ceiling shift)
        (expander.walk data depth)
        ((expander.under (expander.ceiling + shift)).walk data (depth + shift)) := by
  have resolved
      : ∀ depth kind content,
          Mirrors (Deepened R shift) (Renumbered expander.ceiling shift)
            (expander.visit depth kind content)
            (expander.visit (depth + shift) kind content) := by
    intro depth kind content trail trail' alike
    obtain ⟨same, after⟩ :=
      blind.resolve depth (depth + shift) kind content _ _ alike.state
    rw [outcome_visit, outcome_visit, same.eq]
    refine ⟨.refl (.refl _ _) _, after, ?_⟩
    rw [alike.visits, List.map_append]
    rfl
  have exhausted
      : ∀ depth data,
          Mirrors (Deepened R shift) (Renumbered expander.ceiling shift)
            (throw (.ofFault (.tooManyLevels expander.ceiling)) : Action _ Bytes)
            (expandWithin expander.visit (expander.ceiling + shift) 0 (depth + shift) data) :=
    fun _ _ _ _ alike => ⟨.error (Or.inr ⟨rfl, rfl⟩), alike⟩
  have mirrors :=
    (compositional_mirrors _ (.refl _ _)).expandWithin shift 0 resolved exhausted
      (levels expander.ceiling depth) depth
      (add_levels_lt _ ceilingFits (Nat.lt_of_succ_lt depthFits)) data
  rw [walk, walk, ceiling_under, levels_add ceilingFits depthFits]
  exact mirrors

/-- The ceiling only cuts an expansion short and never changes what it means. Unless it fails
with too many levels, the expansion does the same under a higher ceiling. The visits are then
the same, and otherwise they are the first ones under the higher ceiling. An expansion deeper
down under a ceiling that is higher by as much does the same too, and no visit is made from a
depth at the ceiling or beyond.
-/
theorem ceiling_only_cuts (expander : Expander (StateM σ)) {upper : UInt64}
    (higher : expander.ceiling ≤ upper) (bounded : upper.toNat + 1 < UInt64.size) (data : Bytes)
    (depth : UInt64) (s : σ)
    : ((∀ error,
          (outcome (expander.expand data depth) s).1 = .error error → ¬ error.IsTooDeep) →
        outcome ((expander.under upper).expand data depth) s
          = outcome (expander.expand data depth) s
        ∧ (expander.under upper).visits data depth s = expander.visits data depth s)
      ∧ expander.visits data depth s
        <+: (expander.under upper).visits data depth s
      ∧ (∀ shift : UInt64,
          expander.ceiling.toNat + shift.toNat + 1 < UInt64.size →
          depth.toNat + shift.toNat + 1 < UInt64.size →
          ∀ R s',
            expander.Blind R →
            R s s' →
              Alike (Renumbered expander.ceiling shift)
                (outcome (expander.expand data depth) s).1
                (outcome ((expander.under (expander.ceiling + shift)).expand data (depth + shift))
                  s').1
              ∧ R (outcome (expander.expand data depth) s).2
                  (outcome
                    ((expander.under (expander.ceiling + shift)).expand data (depth + shift))
                    s').2
              ∧ (expander.under (expander.ceiling + shift)).visits data (depth + shift) s'
                = (expander.visits data depth s).map (·.deepen shift))
      ∧ ∀ visit ∈ expander.visits data depth s, visit.depth < expander.ceiling := by
  -- results and states are those of the walks that record the visits
  have start : outcome (expander.expand data depth) s = _ :=
    expander.outcome_expand data depth { state := s }
  obtain ⟨choice, shorter, -⟩ := expander.walk_cut higher bounded data depth { state := s }
  refine ⟨?_, shorter, ?_, ?_⟩
  · intro shallow
    rw [start] at shallow ⊢
    rcases choice with same | ⟨error, failed, deep⟩
    · refine ⟨?_, congrArg (·.2.visits) same⟩
      rw [← same]
      exact outcome_expand _ data depth { state := s }
    · exact absurd deep (shallow error failed)
  · intro shift ceilingFits depthFits R s' blind related
    have deeper
        : outcome ((expander.under (expander.ceiling + shift)).expand data (depth + shift)) s'
          = _ :=
      outcome_expand _ data (depth + shift) { state := s' }
    obtain ⟨alike, after, visits⟩ :=
      walk_deepened blind ceilingFits depthFits data { state := s } { state := s' } ⟨related, rfl⟩
    rw [start, deeper]
    exact ⟨alike, after, visits⟩
  · exact expander.visits_below _ depth rfl data { state := s } (by simp)

/-- A world in which the value of one variable names another. -/
def chainedWorld : World where
  environment := [("A", ascii "$\x7bENV:B\x7d"), ("B", ascii "x")]

def chainedExpander : Expander (StateM World) where
  chain := Chain.builtin
  ceiling := 2

/-- The value of the first variable is expanded at depth one, so a ceiling of two leaves room
for it, and so does any higher one. Three levels further down it is the same.
-/
theorem ceiling_only_cuts_chained
    : outcome ((chainedExpander.under 3).expand (ascii "$\x7bENV:A\x7d")) chainedWorld
        = outcome (chainedExpander.expand (ascii "$\x7bENV:A\x7d")) chainedWorld
      ∧ (chainedExpander.under 3).visits (ascii "$\x7bENV:A\x7d") 0 chainedWorld
        = [⟨0, .variable, "A"⟩, ⟨1, .variable, "B"⟩]
      ∧ (chainedExpander.under (2 + 3)).visits (ascii "$\x7bENV:A\x7d") (0 + 3) chainedWorld
        = [⟨3, .variable, "A"⟩, ⟨4, .variable, "B"⟩] := by
  have result
      : (outcome (chainedExpander.expand (ascii "$\x7bENV:A\x7d")) chainedWorld).1
        = .ok (ascii "x") := by
    decide +kernel
  have visits
      : chainedExpander.visits (ascii "$\x7bENV:A\x7d") 0 chainedWorld
        = [⟨0, .variable, "A"⟩, ⟨1, .variable, "B"⟩] := by
    decide +kernel
  obtain ⟨same, -, deeper, -⟩ :=
    chainedExpander.ceiling_only_cuts (show chainedExpander.ceiling ≤ 3 by decide) (by decide)
      (ascii "$\x7bENV:A\x7d") 0 chainedWorld
  obtain ⟨sameOutcome, sameVisits⟩ := same fun error failed => by
    rw [result] at failed
    contradiction
  obtain ⟨-, -, deeperVisits⟩ :=
    deeper 3 (by decide) (by decide) World.SameButLog chainedWorld (blind_builtin {} 2)
      ⟨chainedWorld.log, rfl⟩
  refine ⟨sameOutcome, sameVisits.trans visits, deeperVisits.trans ?_⟩
  rw [visits]
  rfl

end Expander

end TaggedConfig
