import Mathlib.Logic.Relation
import TaggedConfig.Proofs.Cancellation.Expansion
import TaggedConfig.Proofs.Loader.Recording
import TaggedConfig.Proofs.Loader.Relation

/-! Cancellation is final.
A loader is used over and over, and its token may be cancelled from outside, by a callback, by
a source loader or while a request is under way. From then on nothing is fetched any more.
-/

namespace TaggedConfig

open Journal
open Run

namespace Loader

variable {loader : Loader (StateM Journal)}

-----------------------------------------------------------------------------------------
-- What the parts of a loader obey, the loader obeys
-----------------------------------------------------------------------------------------

/-- What a caller supplies obeys cancellation: source loaders and a callback. A token cannot be
taken back, and requests are sent after a check only, so that nothing else could be supplied.
-/
structure ObeysCancellation (loader : Loader (StateM Journal)) : Prop where
  chain : ∀ source ∈ loader.chain, ∀ context descriptor, Obedient (source.load context descriptor)
  callback
    : ∀ callback, loader.callback = some callback → ∀ source, Obedient (callback source)

/-- The loader, with each call of its callback entered in the journal. -/
def watched (loader : Loader (StateM Journal)) : Loader (StateM Journal) :=
  { loader with
    callback := loader.callback.map fun callback source => do
      ExceptT.lift (Journal.enter (.called source))
      callback source }

/-- Finding the source has nothing to do with cancellation. -/
theorem quiet_resolveSource : Quiet loader.resolveSource :=
  ((compositional_same Quiet.pure Quiet.throw Quiet.bind).resolveSource rfl rfl
    (fun _ => ⟨rfl, .lift fun _ => rfl⟩) fun level text => ⟨rfl, .log level text⟩).2

/-- The loader fetches the sources of tags and its own source as cancellation demands. -/
structure Guarded (loader : Loader (StateM Journal)) : Prop where
  chain : ∀ source ∈ loader.chain, ∀ context descriptor, Obedient (source.load context descriptor)
  fetching : ∀ source, Obedient (loader.fetchSource source)

/-- The callback is called after a check that loading is not cancelled. -/
theorem ObeysCancellation.guarded (obeys : loader.ObeysCancellation)
    : loader.watched.Guarded where
  chain := obeys.chain
  fetching source := by
    unfold fetchSource watched
    cases called : loader.callback with
    | none => exact Chain.obedient_load fun source member => obeys.chain source member _ _
    | some callback =>
        refine Obedient.checked fun before journal onward running => ?_
        rw [outcome_adapt]
        have differ : Deed.cancelled ≠ .called source := nofun
        have entered := onward.enter running differ running
        exact holds_bind entered fun _ => obeys.callback callback called source before

theorem Guarded.expandSource (guarded : loader.Guarded) (source : String)
    : Obedient (loader.expandSource source) :=
  (guarded.fetching source).bind fun _ =>
    Expander.obedient_expand (fun source member => guarded.chain source member _) _ _

theorem Guarded.prepare (guarded : loader.Guarded) : Obedient loader.prepare := by
  refine ((Obedient.of_quiet quiet_resolveSource).adapt _).bind fun source => ?_
  refine (((guarded.expandSource source).adapt _).map _).bind fun data => ?_
  match loader.findings data with
  | .error error => exact .throw _
  | .ok [] => exact .pure _
  | .ok (first :: others) =>
      exact (Obedient.of_quiet (.lift fun _ => rfl)).bind fun _ => .throw _

-----------------------------------------------------------------------------------------
-- Runs of operations
-----------------------------------------------------------------------------------------

/-- One operation of a loader, or something that happens between operations: loading is cancelled
from outside, or the world changes otherwise.
-/
inductive Step
    : Loader (StateM Journal) × Journal → Loader (StateM Journal) × Journal → Prop where
  | loadValidated {α : Type} (decode : Bytes → Except String α)
      (validate : α → Except String Unit) (loader : Loader (StateM Journal)) (journal : Journal)
    : Step (loader, journal)
        (((loader.loadValidated decode validate).run journal).1.2,
          ((loader.loadValidated decode validate).run journal).2)
  | loadBytes (loader : Loader (StateM Journal)) (journal : Journal)
    : Step (loader, journal) ((loader.loadBytes.run journal).1.2, (loader.loadBytes.run journal).2)
  | resolveSource (loader : Loader (StateM Journal)) (journal : Journal)
    : Step (loader, journal) (loader, (outcome loader.resolveSource journal).2)
  | expandSource (source : String) (loader : Loader (StateM Journal)) (journal : Journal)
    : Step (loader, journal) (loader, (outcome (loader.expandSource source) journal).2)
  | cancel (loader : Loader (StateM Journal)) (journal : Journal)
    : Step (loader, journal) (loader, ((Host.cancel : StateM Journal Unit).run journal).2)
  | change (loader : Loader (StateM Journal)) (journal : Journal) (world : World)
      (same : world.cancelled = journal.world.cancelled)
    : Step (loader, journal) (loader, { journal with world })

/-- Any number of operations. -/
abbrev Runs := Relation.ReflTransGen Step

theorem Guarded.kept (guarded : loader.Guarded) {α : Type}
    (result : Except LoadError (String × α))
    : (loader.record result).2.Guarded := by
  cases result <;> exact ⟨guarded.chain, guarded.fetching⟩

/-- The journal goes on soundly in each step. -/
theorem Step.onward {before after : Loader (StateM Journal) × Journal} (step : Step before after)
    (guarded : before.1.Guarded)
    : after.1.Guarded ∧ ∀ deeds, Onward deeds before.2 → Onward deeds after.2 := by
  cases step with
  | loadValidated decode validate loader journal =>
      rw [Loader.loadValidated, run_recorded]
      refine ⟨guarded.kept _, fun deeds => guarded.prepare.bind (fun (source, data) => ?_) deeds _⟩
      dsimp only
      cases decode data with
      | error reason => exact .throw _
      | ok settings =>
          dsimp only
          cases validate settings with
          | error reason => exact .throw _
          | ok => exact .pure _
  | loadBytes loader journal =>
      rw [Loader.loadBytes, run_recorded]
      exact ⟨guarded.kept _, fun deeds => guarded.prepare deeds journal⟩
  | resolveSource loader journal =>
      exact ⟨guarded, fun deeds => Obedient.of_quiet quiet_resolveSource deeds journal⟩
  | expandSource source loader journal =>
      exact ⟨guarded, fun deeds => guarded.expandSource source deeds journal⟩
  | cancel loader journal => exact ⟨guarded, fun deeds onward => onward.cancel rfl⟩
  | change loader journal world same =>
      refine ⟨guarded, fun deeds onward => ⟨⟨?_, onward.sound.final⟩, onward.continues⟩⟩
      rw [same]
      exact onward.sound.synced

/-- The journal goes on soundly in every run, by induction on the run. -/
theorem Runs.onward {before after : Loader (StateM Journal) × Journal} (runs : Runs before after)
    (guarded : before.1.Guarded)
    : after.1.Guarded ∧ ∀ deeds, Onward deeds before.2 → Onward deeds after.2 := by
  induction runs with
  | refl => exact ⟨guarded, fun _ onward => onward⟩
  | tail _ step ih =>
      obtain ⟨guarded', onward⟩ := ih
      obtain ⟨guarded'', onward'⟩ := step.onward guarded'
      exact ⟨guarded'', fun deeds start => onward' deeds (onward deeds start)⟩

-----------------------------------------------------------------------------------------
-- Operations after cancellation
-----------------------------------------------------------------------------------------

theorem fetchSource_cancelled (loader : Loader (StateM Journal)) (source : String)
    {journal : Journal} (cancelled : journal.world.cancelled = true)
    : outcome (loader.fetchSource source) journal = (.error (.ofFault .cancelled), journal) := by
  unfold fetchSource
  cases loader.callback with
  | none => exact Chain.load_cancelled _ _ _ cancelled
  | some callback =>
      dsimp only
      rw [outcome_bind, Obedient.outcome_checkCancelled, cancelled]
      rfl

theorem expandSource_cancelled (loader : Loader (StateM Journal)) (source : String)
    {journal : Journal} (cancelled : journal.world.cancelled = true)
    : outcome (loader.expandSource source) journal = (.error (.ofFault .cancelled), journal) := by
  rw [expandSource, outcome_bind, loader.fetchSource_cancelled source cancelled]

/-- Why a load fails once loading is cancelled: its source is not found, or it is cancelled. -/
def refusal (loader : Loader (StateM Journal)) (journal : Journal) : Error :=
  match (outcome loader.resolveSource journal).1 with
  | .ok _ => .ofFault .cancelled
  | .error error => error

theorem prepare_cancelled (loader : Loader (StateM Journal)) {journal : Journal}
    (cancelled : journal.world.cancelled = true)
    : outcome loader.prepare journal
      = (.error (.failed (loader.refusal journal)), (outcome loader.resolveSource journal).2) := by
  have untouched : Untouched journal (outcome loader.resolveSource journal).2 :=
    quiet_resolveSource journal journal ⟨rfl, rfl⟩
  rw [prepare, outcome_bind, outcome_adapt, refusal]
  rcases resolved : outcome loader.resolveSource journal with ⟨error | source, found⟩
  · rfl
  · rw [resolved] at untouched
    have refused := loader.expandSource_cancelled source (untouched.token.trans cancelled)
    simp only [Except.mapError]
    rw [outcome_bind, outcome_map, outcome_adapt, refused]
    rfl

theorem loadValidated_cancelled {α : Type} (loader : Loader (StateM Journal))
    (decode : Bytes → Except String α) (validate : α → Except String Unit) {journal : Journal}
    (cancelled : journal.world.cancelled = true)
    : (loader.loadValidated decode validate).run journal
      = ((.error (.failed (loader.refusal journal)), { loader with settingsSource := none }),
        (outcome loader.resolveSource journal).2) := by
  rw [loadValidated, run_recorded, outcome_bind, loader.prepare_cancelled cancelled]
  rfl

theorem loadBytes_cancelled (loader : Loader (StateM Journal)) {journal : Journal}
    (cancelled : journal.world.cancelled = true)
    : loader.loadBytes.run journal
      = ((.error (.failed (loader.refusal journal)), { loader with settingsSource := none }),
        (outcome loader.resolveSource journal).2) := by
  rw [loadBytes, run_recorded, loader.prepare_cancelled cancelled]
  rfl

/-- What is refused in a journal: every load of a chain, the loads of every loader, which keeps no
source, and the sources of every expansion.
-/
structure Refuses (journal : Journal) : Prop where
  load
    : ∀ (chain : Chain (StateM Journal)) context descriptor,
        outcome (chain.load context descriptor) journal = (.error (.ofFault .cancelled), journal)
  loadValidated
    : ∀ (loader : Loader (StateM Journal)) (α : Type) (decode : Bytes → Except String α) validate,
        (loader.loadValidated decode validate).run journal
          = ((.error (.failed (loader.refusal journal)), { loader with settingsSource := none }),
            (outcome loader.resolveSource journal).2)
  loadBytes
    : ∀ loader : Loader (StateM Journal),
        loader.loadBytes.run journal
          = ((.error (.failed (loader.refusal journal)), { loader with settingsSource := none }),
            (outcome loader.resolveSource journal).2)
  expand
    : ∀ (expander : Expander (StateM Journal)) data depth, expander.EndsAtSource data depth journal

/-- Cancellation is final. In a run of operations of a loader whose source loaders and callback
obey cancellation, no request is sent and no callback is called after loading has been
cancelled, be it within an operation or later, and the token stays cancelled. While it is, all
loads are refused.
-/
theorem cancellation_is_final {loader : Loader (StateM Journal)}
    (obeys : loader.ObeysCancellation) (world : World)
    {earlier later : Loader (StateM Journal) × Journal}
    (begun : Runs (loader.watched, .start world) earlier) (continued : Runs earlier later)
    : Final later.2.deeds
      ∧ (later.2.world.cancelled = true ↔ .cancelled ∈ later.2.deeds)
      ∧ earlier.2.deeds <+: later.2.deeds
      ∧ (earlier.2.world.cancelled = true → later.2.world.cancelled = true)
      ∧ ∀ journal : Journal, journal.world.cancelled = true → Refuses journal := by
  obtain ⟨guarded, onward⟩ := Runs.onward begun obeys.guarded
  have before := onward _ (.refl (sound_start world))
  have after := (Runs.onward continued guarded).2 _ (.refl before.sound)
  refine ⟨after.sound.final, after.sound.synced, after.continues, ?_, ?_⟩
  · intro cancelled
    have told := before.sound.synced.mp cancelled
    exact after.sound.synced.mpr (after.continues.subset told)
  · intro journal cancelled
    exact {
      load chain context descriptor := chain.load_cancelled context descriptor cancelled
      loadValidated loader _ decode validate :=
        loader.loadValidated_cancelled decode validate cancelled
      loadBytes loader := loader.loadBytes_cancelled cancelled
      expand expander data depth := expander.endsAtSource_of_cancelled data depth cancelled
    }

/-- A loader whose callback cancels loading and returns a document all the same. -/
def cancellingLoader : Loader (StateM Journal) where
  options := { source := some "x" }
  callback := some fun _ => do
    ExceptT.lift Host.cancel
    pure (ascii "1")

theorem obeysCancellation_cancellingLoader : cancellingLoader.ObeysCancellation where
  chain source member context descriptor := Obedient.builtin member context descriptor
  callback := by
    rintro _ ⟨rfl⟩ source
    exact Obedient.cancel.bind fun _ => .pure _

/-- What the first load of that loader comes to. -/
def cancelledLoad : (Except LoadError Json × Loader (StateM Journal)) × Journal :=
  cancellingLoader.watched.loadValue.run (.start {})

/-- The load in which the callback cancels succeeds, and the next one is cancelled. -/
theorem cancellation_is_final_callback
    : cancelledLoad.1.2.settingsSource = some "x"
      ∧ cancelledLoad.2.deeds = [.called "x", .cancelled]
      ∧ (cancelledLoad.1.2.loadValue.run cancelledLoad.2).1
        = (.error (.failed (.ofFault .cancelled)),
          { cancelledLoad.1.2 with settingsSource := none }) := by
  have cancelled : cancelledLoad.2.world.cancelled = true := by decide +kernel
  have found : cancelledLoad.1.2.refusal cancelledLoad.2 = .ofFault .cancelled := by
    decide +kernel
  have begun
      : Runs (cancellingLoader.watched, .start {}) (cancelledLoad.1.2, cancelledLoad.2) :=
    .single (.loadValidated Json.decodeText (fun _ => pure ()) _ _)
  obtain ⟨-, -, -, -, refuses⟩ :=
    cancellation_is_final obeysCancellation_cancellingLoader {} begun .refl
  have refused := (refuses _ cancelled).loadValidated cancelledLoad.1.2 Json Json.decodeText
    fun _ => pure ()
  rw [found] at refused
  exact ⟨by decide +kernel, by decide +kernel, congrArg Prod.fst refused⟩

end Loader

end TaggedConfig
