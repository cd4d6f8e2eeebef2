import TaggedConfig.Proofs.Cancellation.Journal
import TaggedConfig.Proofs.Expansion.Visits

/-! Expansion and cancellation.
What the loaders of a chain obey, the chain obeys and so does an expansion. Once loading is
cancelled an expansion only looks up variables, and ends at the first source.
-/

namespace TaggedConfig

open Journal
open Run

-----------------------------------------------------------------------------------------
-- Chains
-----------------------------------------------------------------------------------------

namespace Chain

/-- A chain is obedient if its loaders are. -/
theorem obedient_load {chain : Chain (StateM Journal)} {context : Context} {descriptor : String}
    (obedient : ∀ loader ∈ chain, Obedient (loader.load context descriptor))
    : Obedient (chain.load context descriptor) := by
  have offered : Obedient (chain.offer context descriptor) :=
    (Obedient.covers.offer fun loader member => ⟨rfl, obedient loader member⟩).2
  exact Obedient.checked fun before _ onward _ => offered before _ onward

/-- Once loading is cancelled no loader is tried. -/
theorem load_cancelled (chain : Chain (StateM Journal)) (context : Context) (descriptor : String)
    {journal : Journal} (cancelled : journal.world.cancelled = true)
    : outcome (chain.load context descriptor) journal
      = (.error (.ofFault .cancelled), journal) := by
  rw [load, outcome_bind, Obedient.outcome_checkCancelled, cancelled]
  rfl

end Chain

-----------------------------------------------------------------------------------------
-- Expansions
-----------------------------------------------------------------------------------------

namespace Expander

variable {expander : Expander (StateM Journal)}

theorem quiet_lookup (name : String) : Quiet (lookup name : Action (StateM Journal) Bytes) :=
  ((compositional_same Quiet.pure Quiet.throw Quiet.bind).lookup ⟨rfl, .lift fun _ => rfl⟩).2

theorem quiet_resolve (expander : Expander (StateM Journal)) (depth : UInt64) (content : Bytes)
    : Quiet (expander.resolve depth .variable content) :=
  .bind (.log _ _) fun _ => quiet_lookup _

theorem obedient_resolve
    (obedient
      : ∀ loader ∈ expander.chain, ∀ descriptor, Obedient (loader.load expander.context descriptor))
    (depth : UInt64) (kind : Tag.Kind) (content : Bytes)
    : Obedient (expander.resolve depth kind content) :=
  (Obedient.compositional.resolve
    (fun _ => ⟨rfl, Chain.obedient_load fun loader member => obedient loader member _⟩)
    (fun _ => ⟨rfl, .of_quiet (.lift fun _ => rfl)⟩)
    (fun level text => ⟨rfl, .of_quiet (.log level text)⟩) depth kind content).2

/-- An expansion is obedient if the loaders of its chain are. -/
theorem obedient_expand
    (obedient
      : ∀ loader ∈ expander.chain, ∀ descriptor, Obedient (loader.load expander.context descriptor))
    (data : Bytes) (depth : UInt64)
    : Obedient (expander.expand data depth) :=
  (Obedient.compositional.expandWithin_alike
    (fun depth kind content => ⟨rfl, obedient_resolve obedient depth kind content⟩) _ _ _ _).2

/-- Only variables have been looked up since, and nothing else has happened. -/
structure Looking (before : Journal) (trail : Trail Journal) : Prop where
  untouched : Untouched before trail.state
  lookups : ∀ visit ∈ trail.visits, visit.kind = .variable

/-- The load of a source has been refused after variables have been looked up. -/
structure Stopped (before : Journal) (error : Error) (trail : Trail Journal) : Prop where
  cancelled : error = .ofFault .cancelled
  untouched : Untouched before trail.state
  source_last
    : ∃ lookups last,
        trail.visits = lookups ++ [last]
        ∧ last.kind = .source
        ∧ ∀ visit ∈ lookups, visit.kind = .variable

/-- Once loading is cancelled a source is announced in the log and not loaded. -/
theorem resolve_cancelled (expander : Expander (StateM Journal)) {journal : Journal}
    (cancelled : journal.world.cancelled = true) (depth : UInt64) (content : Bytes)
    : outcome (expander.resolve depth .source content) journal
      = (.error (.ofFault .cancelled),
        (outcome
          (Action.log .trace
            (announcement .source (Descriptor.redact (Utf8.repair content)) depth))
          journal).2) := by
  have untouched := Quiet.log .trace
    (announcement .source (Descriptor.redact (Utf8.repair content)) depth)
    journal journal ⟨rfl, rfl⟩
  exact (outcome_bind _ _ _).trans
    (Chain.load_cancelled _ _ _ (untouched.token.trans cancelled))

/-- Once loading is cancelled a tag of a variable is resolved as ever, and one of a source ends
the expansion.
-/
theorem visit_cancelled {before : Journal} (cancelled : before.world.cancelled = true)
    (depth : UInt64) (kind : Tag.Kind) (content : Bytes)
    : KeepsUnless (Looking before) (Stopped before) (expander.visit depth kind content) := by
  intro trail looking
  rw [outcome_visit]
  match kind with
  | .variable =>
      refine Or.inl ⟨quiet_resolve _ depth content before _ looking.untouched, ?_⟩
      rw [List.forall_mem_append, List.forall_mem_singleton]
      exact ⟨looking.lookups, rfl⟩
  | .source =>
      have still := looking.untouched.token.trans cancelled
      rw [resolve_cancelled expander still depth content]
      refine Or.inr ⟨_, rfl, rfl, ?_, _, _, rfl, rfl, looking.lookups⟩
      exact Quiet.log _ _ before trail.state looking.untouched

theorem walk_cancelled {before : Journal} (cancelled : before.world.cancelled = true)
    (data : Bytes) (depth : UInt64)
    : KeepsUnless (Looking before) (Stopped before) (expander.walk data depth) :=
  ((compositional_same (fun a => (Keeps.pure a).unless) (fun error => (Keeps.throw error).unless)
    KeepsUnless.bind).expandWithin_alike
      (fun depth kind content => ⟨rfl, visit_cancelled cancelled depth kind content⟩) _ _ _ _).2

/-- The same expander with another chain. -/
def through (expander : Expander (StateM Journal)) (chain : Chain (StateM Journal))
    : Expander (StateM Journal) :=
  { expander with chain }

/-- Once loading is cancelled the chain does not matter to an expansion. -/
theorem through_cancelled (chain : Chain (StateM Journal)) (data : Bytes) (depth : UInt64)
    {journal : Journal} (cancelled : journal.world.cancelled = true)
    : outcome ((expander.through chain).expand data depth) journal
      = outcome (expander.expand data depth) journal := by
  have resolved
      : ∀ depth kind content,
          Mirrors (fun s t => s = t ∧ s.world.cancelled = true) Eq
            (expander.resolve depth kind content)
            ((expander.through chain).resolve depth kind content) := by
    rintro depth kind content journal _ ⟨rfl, cancelled⟩
    match kind with
    | .variable =>
        have untouched := quiet_resolve expander depth content journal journal ⟨rfl, rfl⟩
        exact ⟨.refl (fun _ => rfl) _, rfl, untouched.token.trans cancelled⟩
    | .source =>
        rw [resolve_cancelled expander cancelled, resolve_cancelled _ cancelled]
        have untouched := Quiet.log .trace
          (announcement .source (Descriptor.redact (Utf8.repair content)) depth) journal journal
          ⟨rfl, rfl⟩
        exact ⟨.error rfl, rfl, untouched.token.trans cancelled⟩
  have mirrored :=
    (compositional_mirrors _ fun _ => rfl).expandWithin_alike resolved expander.ceiling
      (levels expander.ceiling depth) depth data journal _ ⟨rfl, cancelled⟩
  exact (Prod.ext mirrored.1.eq mirrored.2.1).symm

/-- In a journal in which loading is cancelled the expansion looks up variables only, or it fails
at the first source. No loader has a part in it, so with any other chain it is the same.
-/
structure EndsAtSource (expander : Expander (StateM Journal)) (data : Bytes) (depth : UInt64)
    (journal : Journal)
    : Prop where
  untouched : Untouched journal (outcome (expander.expand data depth) journal).2
  lookups_or_refusal
    : (∀ visit ∈ expander.visits data depth journal, visit.kind = .variable)
      ∨ (outcome (expander.expand data depth) journal).1 = .error (.ofFault .cancelled)
        ∧ ∃ lookups last,
            expander.visits data depth journal = lookups ++ [last]
            ∧ last.kind = .source
            ∧ ∀ visit ∈ lookups, visit.kind = .variable
  unloaded
    : ∀ chain,
        outcome ((expander.through chain).expand data depth) journal
          = outcome (expander.expand data depth) journal

theorem endsAtSource_of_cancelled (expander : Expander (StateM Journal)) (data : Bytes)
    (depth : UInt64) {journal : Journal} (cancelled : journal.world.cancelled = true)
    : expander.EndsAtSource data depth journal := by
  have start : outcome (expander.expand data depth) journal = _ :=
    expander.outcome_expand data depth { state := journal }
  have looking : Looking journal { state := journal } := ⟨⟨rfl, rfl⟩, by simp⟩
  rcases walk_cancelled cancelled data depth _ looking with looking | ⟨error, failed, stopped⟩
  · refine ⟨?_, Or.inl looking.lookups, fun chain => through_cancelled chain data depth cancelled⟩
    rw [start]
    exact looking.untouched
  · refine ⟨?_, Or.inr ⟨?_, stopped.source_last⟩,
      fun chain => through_cancelled chain data depth cancelled⟩
    · rw [start]
      exact stopped.untouched
    · rw [start, ← stopped.cancelled]
      exact failed

end Expander

end TaggedConfig
