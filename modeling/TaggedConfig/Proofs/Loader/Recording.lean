import Mathlib.Control.Monad.Basic
import TaggedConfig.Loader
import TaggedConfig.Proofs.Run
import TaggedConfig.World

/-! The source that a loader keeps, over whole runs of its operations.
It is the source that the last load found, if that load succeeded, and none otherwise.
-/

namespace TaggedConfig.Loader

open Run

variable {σ : Type}

-----------------------------------------------------------------------------------------
-- One load
-----------------------------------------------------------------------------------------

/-- Whenever the action succeeds it gives the source. -/
def Gives {α : Type} (source : String) (action : ExceptT LoadError (StateM σ) (String × α))
    : Prop :=
  ∀ s given, (outcome action s).1 = .ok given → given.1 = source

theorem Gives.pure {α : Type} (source : String) (a : α)
    : Gives source (pure (source, a) : ExceptT LoadError (StateM σ) (String × α)) := by
  rintro s _ ⟨rfl⟩
  rfl

theorem Gives.throw {α : Type} (source : String) (error : LoadError)
    : Gives source (throw error : ExceptT LoadError (StateM σ) (String × α)) :=
  nofun

/-- What a sequence gives is what its second part gives. -/
theorem Gives.bind {α β : Type} {source : String} {first : ExceptT LoadError (StateM σ) α}
    {second : α → ExceptT LoadError (StateM σ) (String × β)}
    (gives : ∀ a, Gives source (second a))
    : Gives source (first >>= second) := by
  intro s given done
  rw [outcome_bind] at done
  rcases ran : outcome first s with ⟨error | a, t⟩ <;> rw [ran] at done
  · contradiction
  · exact gives a t given done

variable [Host (StateM σ)] {loader : Loader (StateM σ)}

/-- Whenever the action succeeds it gives the source that is found where it begins. -/
def GivesFound {α : Type} (loader : Loader (StateM σ))
    (action : ExceptT LoadError (StateM σ) (String × α))
    : Prop :=
  ∀ s given, (outcome action s).1 = .ok given → (outcome loader.resolveSource s).1 = .ok given.1

theorem givesFound_prepare (loader : Loader (StateM σ)) : loader.GivesFound loader.prepare := by
  intro s given prepared
  rw [prepare, outcome_bind, outcome_adapt] at prepared
  rcases resolved : outcome loader.resolveSource s with ⟨error | source, found⟩ <;>
    rw [resolved] at prepared
  · contradiction
  · refine congrArg Except.ok (Eq.symm ?_)
    refine Gives.bind (fun data => ?_) found given prepared
    match loader.findings data with
    | .error error => exact .throw source _
    | .ok [] => exact .pure source data
    | .ok (first :: others) => exact .bind fun _ => .throw source _

/-- What is done with a prepared document does not change its source. -/
theorem GivesFound.bind {α β : Type} {first : ExceptT LoadError (StateM σ) (String × α)}
    {second : String × α → ExceptT LoadError (StateM σ) (String × β)}
    (found : loader.GivesFound first) (gives : ∀ given, Gives given.1 (second given))
    : loader.GivesFound (first >>= second) := by
  intro s given done
  rw [outcome_bind] at done
  rcases prepared : outcome first s with ⟨error | before, t⟩ <;> rw [prepared] at done
  · contradiction
  · rw [gives before t given done]
    exact found s before (congrArg Prod.fst prepared)

theorem run_recorded {α : Type} (action : ExceptT LoadError (StateM σ) (String × α)) (s : σ)
    : (loader.record <$> action.run).run s
      = (loader.record (outcome action s).1, (outcome action s).2) := by
  rw [StateT.run_map]
  rfl

/-- The operations of a loader that load. -/
inductive IsLoad (loader : Loader (StateM σ))
    : {α : Type} → StateM σ (Except LoadError α × Loader (StateM σ)) → Prop where
  | load {α : Type} (decode : Bytes → Except String α) : IsLoad loader (loader.load decode)
  | loadValue : IsLoad loader loader.loadValue
  | loadValidated {α : Type} (decode : Bytes → Except String α)
    (validate : α → Except String Unit)
    : IsLoad loader (loader.loadValidated decode validate)
  | loadBytes : IsLoad loader loader.loadBytes

/-- Every load records what comes of an action that gives the source it finds. -/
theorem IsLoad.exists_recorded {α : Type}
    {call : StateM σ (Except LoadError α × Loader (StateM σ))} (isLoad : loader.IsLoad call)
    : ∃ action : ExceptT LoadError (StateM σ) (String × α),
        loader.GivesFound action ∧ call = loader.record <$> action.run := by
  have validated {α : Type} (decode : Bytes → Except String α)
      (validate : α → Except String Unit)
      : ∃ action : ExceptT LoadError (StateM σ) (String × α),
          loader.GivesFound action
          ∧ loader.loadValidated decode validate = loader.record <$> action.run := by
    refine ⟨_, loader.givesFound_prepare.bind fun (source, data) => ?_, rfl⟩
    dsimp only
    cases decode data with
    | error reason => exact .throw source _
    | ok settings =>
        dsimp only
        cases validate settings with
        | error reason => exact .throw source _
        | ok => exact .pure source settings
  cases isLoad with
  | load decode => exact validated decode fun _ => Pure.pure ()
  | loadValue => exact validated Json.decodeText fun _ => Pure.pure ()
  | loadValidated decode validate => exact validated decode validate
  | loadBytes => exact ⟨loader.prepare, loader.givesFound_prepare, rfl⟩

-----------------------------------------------------------------------------------------
-- Runs of operations
-----------------------------------------------------------------------------------------

/-- What is to be known of a load: what looking for a source comes to in the state in which the
load begins, and whether the load succeeds.
-/
structure Attempt where
  found : Except Error String
  succeeded : Bool

/-- The attempt that a load makes in a state. -/
def attempt {α : Type} (loader : Loader (StateM σ))
    (call : StateM σ (Except LoadError α × Loader (StateM σ))) (s : σ)
    : Attempt where
  found := (outcome loader.resolveSource s).1
  succeeded := (call.run s).1.1.isOk

/-- Operations of a loader one after the other, with the attempts that its loads have made,
first to last. Between them anything may happen to the surroundings, and to the token with
them.
-/
inductive Used (start : Loader (StateM σ) × σ) : List Attempt → Loader (StateM σ) × σ → Prop where
  | begin : Used start [] start
  | load {α : Type} {attempts loader s}
    {call : StateM σ (Except LoadError α × Loader (StateM σ))}
    (used : Used start attempts (loader, s)) (isLoad : loader.IsLoad call)
    : Used start (attempts ++ [loader.attempt call s]) ((call.run s).1.2, (call.run s).2)
  | resolveSource {attempts loader s} (used : Used start attempts (loader, s))
    : Used start attempts (loader, (outcome loader.resolveSource s).2)
  | expandSource {attempts loader s} (used : Used start attempts (loader, s)) (source : String)
    : Used start attempts (loader, (outcome (loader.expandSource source) s).2)
  | change {attempts loader s} (used : Used start attempts (loader, s)) (t : σ)
    : Used start attempts (loader, t)

/-- What a loader keeps is the source that the last attempt found if it succeeded, and nothing
if it failed or if there has been none.
-/
def Tells (attempts : List Attempt) (kept : Option String) : Prop :=
  match attempts.getLast? with
  | none => kept = none
  | some last =>
      if last.succeeded then ∃ source, last.found = .ok source ∧ kept = some source
      else kept = none

/-- Whatever a loader has kept before, a load makes it tell of that load. -/
theorem IsLoad.tells {α : Type} {call : StateM σ (Except LoadError α × Loader (StateM σ))}
    (isLoad : loader.IsLoad call) (attempts : List Attempt) (s : σ)
    : Tells (attempts ++ [loader.attempt call s]) (call.run s).1.2.settingsSource := by
  obtain ⟨action, gives, rfl⟩ := isLoad.exists_recorded
  rw [Tells, List.getLast?_concat]
  simp only [attempt, run_recorded]
  cases ended : (outcome action s).1 with
  | error error => rfl
  | ok given => exact ⟨given.1, gives s given ended, rfl⟩

/-- What a loader keeps tells of its last load after every operation, by induction on the run. -/
theorem Used.tells {start later : Loader (StateM σ) × σ} {attempts : List Attempt}
    (used : Used start attempts later) (fresh : start.1.settingsSource = none)
    : Tells attempts later.1.settingsSource := by
  induction used with
  | begin => exact fresh
  | load _ isLoad => exact isLoad.tells _ _
  | resolveSource _ ih | expandSource _ _ ih | change _ _ ih => exact ih

/-- After every run of operations of a new loader, the source that it keeps is that of its last
load: the one that this load found if it succeeded, at whatever point it may have failed
otherwise. Nothing is kept if it failed or if there has been no load.
-/
theorem settingsSource_tells_last_load {loader : Loader (StateM σ)}
    (fresh : loader.settingsSource = none) {s : σ} {attempts : List Attempt}
    {later : Loader (StateM σ) × σ} (used : Used (loader, s) attempts later)
    : (∀ source,
        later.1.settingsSource = some source
        ↔ ∃ last,
            attempts.getLast? = some last ∧ last.succeeded = true ∧ last.found = .ok source)
      ∧ (later.1.settingsSource = none
        ↔ ∀ last, attempts.getLast? = some last → last.succeeded = false) := by
  have tells := used.tells fresh
  rw [Tells] at tells
  cases attempted : attempts.getLast? with
  | none =>
      simp only [attempted] at tells
      simp [tells]
  | some last =>
      simp only [attempted] at tells
      cases succeeded : last.succeeded with
      | false =>
          rw [succeeded, if_neg Bool.false_ne_true] at tells
          simp [tells, succeeded]
      | true =>
          rw [succeeded, if_pos rfl] at tells
          obtain ⟨source, found, kept⟩ := tells
          simp [kept, found, succeeded]

/-- A loader whose source is in a variable. -/
def variableLoader : Loader (StateM World) where
  options := { environmentVariable := some "S" }

/-- What that loader loads from a variable with a document. -/
def goodLoad : (Except LoadError Json × Loader (StateM World)) × World :=
  variableLoader.loadValue.run { environment := [("S", ascii "[1]")] }

/-- What it loads after the variable has been changed to half a document. -/
def badLoad : (Except LoadError Json × Loader (StateM World)) × World :=
  goodLoad.1.2.loadValue.run { environment := [("S", ascii "[")] }

/-- The source of the first load is kept until the second load, which fails at decoding. -/
theorem settingsSource_tells_last_load_changed
    : goodLoad.1.2.settingsSource = some "[1]" ∧ badLoad.1.2.settingsSource = none := by
  have good
      : Used (variableLoader, { environment := [("S", ascii "[1]")] })
          [variableLoader.attempt variableLoader.loadValue { environment := [("S", ascii "[1]")] }]
          (goodLoad.1.2, goodLoad.2) :=
    .load .begin .loadValue
  have bad := Used.load ((good.expandSource "[2]").change { environment := [("S", ascii "[")] })
    .loadValue
  refine ⟨((settingsSource_tells_last_load rfl good).1 "[1]").mpr ⟨_, rfl, ?_, ?_⟩,
    (settingsSource_tells_last_load rfl bad).2.mpr ?_⟩
  · decide +kernel
  · decide +kernel
  · rintro _ ⟨rfl⟩
    decide +kernel

end TaggedConfig.Loader
