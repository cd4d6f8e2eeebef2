import TaggedConfig.Proofs.Expansion.Visits
import TaggedConfig.Proofs.Loader.EntryPoints
import TaggedConfig.Proofs.Loader.Relation
import TaggedConfig.Proofs.Source.Builtin

/-! What a loader asks of its callback and of its chain.
An observer notes each call of the callback and each descriptor that the loaders of the chain are
offered, in their order. Nothing else changes.
-/

namespace TaggedConfig

open Run

variable {σ α : Type}

/-- What is asked of those that serve a loader. -/
inductive Event where
  /-- The callback is called to fetch a source. -/
  | called (source : String)
  /-- A descriptor is offered to the loaders of the chain. -/
  | offered (descriptor : String)
  deriving DecidableEq, Repr

/-- A state and what has been asked, first to last. -/
structure Observed (σ : Type) where
  state : σ
  events : List Event := []

namespace Observed

/-- An action on the state that the observer does not see. -/
def quiet (action : StateM σ α) : StateM (Observed σ) α := fun observed =>
  let (a, state) := action.run observed.state
  (a, { observed with state })

/-- An action on the state that may fail, and that the observer does not see. -/
def aside (action : Action (StateM σ) α) : Action (StateM (Observed σ)) α :=
  ExceptT.mk (quiet action.run)

def note (event : Event) : StateM (Observed σ) Unit :=
  modify fun observed => { observed with events := observed.events ++ [event] }

instance [Host (StateM σ)] : Host (StateM (Observed σ)) where
  lookup name := quiet (Host.lookup name)
  workingDirectory := quiet Host.workingDirectory
  readFile path := quiet (Host.readFile path)
  writeFile path content := quiet (Host.writeFile path content)
  send patience request := quiet (Host.send patience request)
  isCancelled := quiet Host.isCancelled
  cancel := quiet Host.cancel
  log level text := quiet (Host.log level text)

/-- Notes each descriptor that its chain is offered, and passes it on. -/
def observer : SourceLoader (StateM (Observed σ)) where
  name := "observer"
  load _ descriptor := do
    ExceptT.lift (note (.offered descriptor))
    pure .wrongFormat

/-- A loader behind the observer. -/
def behind (loader : SourceLoader (StateM σ)) : SourceLoader (StateM (Observed σ)) where
  name := loader.name
  load context descriptor := aside (loader.load context descriptor)

end Observed

open Observed

/-- The chain with an observer before it. -/
def Chain.observed (chain : Chain (StateM σ)) : Chain (StateM (Observed σ)) :=
  observer :: chain.map behind

def Expander.observed (expander : Expander (StateM σ)) : Expander (StateM (Observed σ)) where
  chain := expander.chain.observed
  context := expander.context
  ceiling := expander.ceiling

variable [Host (StateM σ)]

/-- The loader with its callback and its chain observed. -/
def Loader.observed (loader : Loader (StateM σ)) : Loader (StateM (Observed σ)) where
  options := loader.options
  chain := loader.chain.observed
  callback := loader.callback.map fun callback source => do
    ExceptT.lift (note (.called source))
    aside (callback source)
  check := loader.check
  arguments := loader.arguments
  settingsSource := loader.settingsSource

-----------------------------------------------------------------------------------------
-- What the observer does not see
-----------------------------------------------------------------------------------------

/-- With the observer the action does what it does without, and there is nothing to note. -/
def Unseen (observed : Action (StateM (Observed σ)) α) (action : Action (StateM σ) α) : Prop :=
  ∀ s events,
    outcome observed ⟨s, events⟩ = ((outcome action s).1, ⟨(outcome action s).2, events⟩)

namespace Unseen

omit [Host (StateM σ)] in
theorem compositional
    : Compositional fun (observed : Action (StateM (Observed σ)) _) action =>
        Unseen observed action where
  pure _ _ _ := rfl
  throw _ _ _ := rfl
  bind {_ _ observed action observed' action'} head tail s events := by
    rw [outcome_bind, outcome_bind, head]
    rcases outcome action s with ⟨_ | a, t⟩
    · rfl
    · exact tail a t events

omit [Host (StateM σ)] in
theorem adapt {observed : Action (StateM (Observed σ)) α} {action : Action (StateM σ) α}
    (unseen : Unseen observed action) (f : Error → Error)
    : Unseen (observed.adapt f) (action.adapt f) := by
  intro s events
  rw [outcome_adapt, outcome_adapt, unseen]

theorem lookup (name : String)
    : Unseen (ExceptT.lift (Host.lookup name))
        (ExceptT.lift (Host.lookup name) : Action (StateM σ) (Option Bytes)) :=
  fun _ _ => rfl

theorem log (level : Level) (text : String)
    : Unseen (Action.log level text) (Action.log level text : Action (StateM σ) Unit) :=
  fun _ _ => rfl

theorem resolveSource (loader : Loader (StateM σ))
    : Unseen loader.observed.resolveSource loader.resolveSource :=
  compositional.resolveSource rfl rfl lookup log

/-- Loaders behind the observer are not seen. -/
theorem offer (chain : Chain (StateM σ)) (context : Context) (descriptor : String)
    : Unseen (Chain.offer context descriptor (chain.map behind))
        (chain.offer context descriptor) := by
  have paired (loader : SourceLoader (StateM σ)) (_ : loader ∈ chain)
      : (behind loader).name = loader.name
        ∧ Unseen ((behind loader).load context descriptor) (loader.load context descriptor) :=
    ⟨rfl, fun _ _ => rfl⟩
  exact compositional.offer (fun f unseen => unseen.adapt f) log
    (List.forall₂_map_left_iff.mpr (List.forall₂_same.mpr paired))

end Unseen

-----------------------------------------------------------------------------------------
-- What the observer sees of an expansion
-----------------------------------------------------------------------------------------

/-- Unless loading has been cancelled a descriptor is noted before it is loaded. -/
theorem Chain.outcome_load_observed (chain : Chain (StateM σ)) (context : Context)
    (descriptor : String) (s : σ) (events : List Event)
    : outcome (chain.observed.load context descriptor) ⟨s, events⟩
      = ((outcome (chain.load context descriptor) s).1,
        ⟨(outcome (chain.load context descriptor) s).2,
          if (askToken s).1 then events else events ++ [.offered descriptor]⟩) := by
  have asked : askToken (⟨s, events⟩ : Observed σ) = ((askToken s).1, ⟨(askToken s).2, events⟩) :=
    rfl
  have noted (t : σ)
      : outcome (chain.observed.offer context descriptor) ⟨t, events⟩
        = outcome (Chain.offer context descriptor (chain.map behind))
            ⟨t, events ++ [.offered descriptor]⟩ := rfl
  rw [load, load, outcome_checked, outcome_checked, asked]
  cases (askToken s).1 with
  | true => rfl
  | false =>
      simp only [Bool.false_eq_true, if_false]
      rw [noted, Unseen.offer]

/-- The descriptor of a tag is noted, unless loading has been cancelled and the tag is refused. -/
theorem Expander.outcome_resolve_observed (expander : Expander (StateM σ)) (depth : UInt64)
    (content : Bytes) (s : σ) (events : List Event)
    : ∃ refused : Bool,
        outcome (expander.observed.resolve depth .source content) ⟨s, events⟩
          = ((outcome (expander.resolve depth .source content) s).1,
            ⟨(outcome (expander.resolve depth .source content) s).2,
              if refused then events else events ++ [.offered (Utf8.repair content)]⟩)
        ∧ (refused = true →
            (outcome (expander.resolve depth .source content) s).1
              = .error (.ofFault .cancelled)) := by
  let text := Utf8.repair content
  let record := announcement .source (Descriptor.redact text) depth
  let logged := ((Host.log .trace record : StateM σ Unit).run s).2
  have resolved
      : outcome (expander.resolve depth .source content) s
        = outcome (expander.chain.load expander.context text) logged := rfl
  have resolved'
      : outcome (expander.observed.resolve depth .source content) ⟨s, events⟩
        = outcome (expander.chain.observed.load expander.context text) ⟨logged, events⟩ := rfl
  refine ⟨(askToken logged).1, ?_, fun refused => ?_⟩
  · rw [resolved', resolved, Chain.outcome_load_observed]
  · rw [resolved, Chain.load, outcome_checked, if_pos refused]

/-- The events of offering the descriptors of visits. -/
def offers (visits : List Visit) : List Event := (visits.filterMap Visit.descriptor?).map .offered

theorem offers_append (visits more : List Visit)
    : offers (visits ++ more) = offers visits ++ offers more := by
  rw [offers, List.filterMap_append, List.map_append]
  rfl

theorem offers_variable (depth : UInt64) (name : String) : offers [⟨depth, .variable, name⟩] = [] :=
  rfl

/-- What an action comes to that makes visits, given those whose descriptors have been offered: all
of them, unless the last one was refused because loading has been cancelled.
-/
inductive Offered (result : Except Error α) : List Visit → List Visit → Prop where
  | all (visits : List Visit) : Offered result visits visits
  | refused (cancelled : result = .error (.ofFault .cancelled)) (visits : List Visit) (last : Visit)
    (source : last.kind = .source)
    : Offered result visits (visits ++ [last])

/-- The observed action comes to the same as the one that records visits and leaves the same state,
and of the visits the observer sees that their descriptors are offered.
-/
def Reveals (before : List Event) (observed : Action (StateM (Observed σ)) α)
    (recorded : Action (StateM (Trail σ)) α)
    : Prop :=
  ∀ s visits,
    ∃ result t offered later,
      outcome observed ⟨s, before ++ offers visits⟩ = (result, ⟨t, before ++ offers offered⟩)
      ∧ outcome recorded ⟨s, visits⟩ = (result, ⟨t, later⟩)
      ∧ Offered result offered later

namespace Reveals

omit [Host (StateM σ)] in
theorem compositional (before : List Event)
    : Compositional fun (observed : Action (StateM (Observed σ)) _) recorded =>
        Reveals before observed recorded where
  pure a s visits := ⟨.ok a, s, visits, visits, rfl, rfl, .all visits⟩
  throw error s visits := ⟨.error error, s, visits, visits, rfl, rfl, .all visits⟩
  bind {_ _ observed recorded observed' recorded'} head tail s visits := by
    obtain ⟨result, t, offered, later, ran, ran', among⟩ := head s visits
    rw [outcome_bind, outcome_bind, ran, ran']
    cases result with
    | error error =>
        refine ⟨.error error, t, offered, later, rfl, rfl, ?_⟩
        cases among with
        | all => exact .all _
        | refused cancelled _ last source =>
            cases cancelled
            exact .refused rfl _ last source
    | ok a =>
        cases among with
        | all => exact tail a t offered
        | refused cancelled => cases cancelled

/-- The visit of a variable is not seen, and that of a source is unless it is refused. -/
theorem visit (before : List Event) (expander : Expander (StateM σ)) (depth : UInt64)
    (kind : Tag.Kind) (content : Bytes)
    : Reveals before (expander.observed.resolve depth kind content)
        (expander.visit depth kind content) := by
  intro s visits
  have recorded := expander.outcome_visit depth kind content ⟨s, visits⟩
  match kind with
  | .variable =>
      have unseen
          : Unseen (expander.observed.resolve depth .variable content)
              (expander.resolve depth .variable content) :=
        Unseen.compositional.bind (.log _ _) fun _ => Unseen.compositional.lookup (.lookup _)
      refine ⟨_, _, visits ++ [⟨depth, .variable, Utf8.repair content⟩], _, ?_, recorded, .all _⟩
      rw [unseen, offers_append, offers_variable, List.append_nil]
  | .source =>
      obtain ⟨refused, seen, cancelled⟩ :=
        expander.outcome_resolve_observed depth content s (before ++ offers visits)
      cases refused with
      | true => exact ⟨_, _, visits, _, seen, recorded, .refused (cancelled rfl) _ _ rfl⟩
      | false =>
          refine ⟨_, _, visits ++ [⟨depth, .source, Utf8.repair content⟩], _, ?_, recorded, .all _⟩
          rw [seen, offers_append, ← List.append_assoc]
          rfl

end Reveals

/-- An expansion comes to the same with an observer, who sees that the descriptors of its visits are
offered to the chain.
-/
theorem Expander.outcome_expand_observed (expander : Expander (StateM σ)) (data : Bytes)
    (depth : UInt64) (s : σ) (events : List Event)
    : ∃ offered,
        outcome (expander.observed.expand data depth) ⟨s, events⟩
          = ((outcome (expander.expand data depth) s).1,
            ⟨(outcome (expander.expand data depth) s).2, events ++ offers offered⟩)
        ∧ Offered (outcome (expander.expand data depth) s).1 offered
            (expander.visits data depth s) := by
  have revealed
      : Reveals events (expander.observed.expand data depth) (expander.walk data depth) :=
    (Reveals.compositional events).expandWithin_alike (Reveals.visit events expander) _ _ _ _
  obtain ⟨result, t, offered, later, seen, walked, among⟩ := revealed s []
  have expanded : outcome (expander.expand data depth) s = (result, t) :=
    (expander.outcome_expand data depth ⟨s, []⟩).trans
      (congrArg (fun run => (run.1, run.2.state)) walked)
  have visited : expander.visits data depth s = later := congrArg (fun run => run.2.visits) walked
  rw [expanded, visited]
  rw [offers, List.filterMap_nil, List.map_nil, List.append_nil] at seen
  exact ⟨offered, seen, among⟩

end TaggedConfig
