import TaggedConfig.Proofs.Loader.Recording
import TaggedConfig.Proofs.Outcome
import TaggedConfig.Proofs.Source.Sending

/-! The ways to load a configuration agree.
All of them find the source, expand it and blank its comments before they part. A schema that
allows everything only moves the place at which a document that is no JSON is refused.
-/

namespace TaggedConfig.Loader

open Outcome
open Run

variable {σ : Type} [Host (StateM σ)]

-----------------------------------------------------------------------------------------
-- What loads have in common
-----------------------------------------------------------------------------------------

/-- How a loader expands its documents. -/
def expander (loader : Loader (StateM σ)) : Expander (StateM σ) where
  chain := loader.chain
  context := loader.context
  ceiling := loader.options.ceiling

/-- Without a callback a source is loaded through the chain and then expanded. -/
theorem outcome_expandSource {loader : Loader (StateM σ)} (chained : loader.callback = none)
    (source : String) (s : σ)
    : outcome (loader.expandSource source) s
      = match outcome (loader.chain.load loader.context source) s with
        | (.error error, t) => (.error error, t)
        | (.ok raw, t) => outcome (loader.expander.expand raw) t := by
  rw [expandSource, outcome_bind, fetchSource, chained]
  dsimp only
  rcases outcome (loader.chain.load loader.context source) s with ⟨_ | _, _⟩ <;> rfl

/-- A callback is called unless loading has been cancelled, and what it returns is expanded. -/
theorem outcome_expandSource_called {loader : Loader (StateM σ)}
    {callback : String → Action (StateM σ) Bytes} (given : loader.callback = some callback)
    (source : String) (s : σ)
    : outcome (loader.expandSource source) s
      = if (askToken s).1 then (.error (.ofFault .cancelled), (askToken s).2)
        else
          match outcome (callback source) (askToken s).2 with
          | (.error error, t) => (.error (error.withSource (Descriptor.redact source)), t)
          | (.ok raw, t) => outcome (loader.expander.expand raw) t := by
  rw [expandSource, outcome_bind, fetchSource, given]
  dsimp only
  rw [outcome_checked, outcome_adapt]
  cases (askToken s).1 with
  | true => rfl
  | false =>
      rw [if_neg Bool.false_ne_true, if_neg Bool.false_ne_true]
      rcases outcome (callback source) (askToken s).2 with ⟨_ | _, _⟩ <;> rfl

/-- Finds the source of a configuration and its document, expanded and without comments. -/
def document (loader : Loader (StateM σ)) : Action (StateM σ) (String × Bytes) := do
  let source ← loader.resolveSource
  let expanded ← loader.expandSource source
  pure (source, Comment.blank expanded)

/-- Checks the document of a source, which is then as it was. -/
def checkDocument (loader : Loader (StateM σ)) (source : String) (data : Bytes)
    : ExceptT LoadError (StateM σ) (String × Bytes) := do
  match loader.findings data with
  | .error error => throw (.failed (error.withSource (Descriptor.redact source)))
  | .ok [] => pure (source, data)
  | .ok found =>
      let shown := Descriptor.redact source
      ExceptT.lift (Host.log .debug
        s!"Schema validation of '{shown}' failed with {found.length} error(s)")
      throw (.invalid found)

theorem outcome_prepare (loader : Loader (StateM σ)) (s : σ)
    : outcome loader.prepare s
      = match outcome loader.document s with
        | (.ok (source, data), t) => outcome (loader.checkDocument source data) t
        | (.error error, t) => (.error (.failed error), t) := by
  rw [prepare, document, outcome_bind, outcome_bind, outcome_adapt]
  rcases outcome loader.resolveSource s with ⟨error | source, found⟩
  · rfl
  · simp only [Except.mapError, outcome_bind, outcome_map, outcome_adapt]
    rcases outcome (loader.expandSource source) found with ⟨error | expanded, after⟩ <;> rfl

/-- The document is what resolving and expanding the source gives, without comments. -/
theorem map_document (loader : Loader (StateM σ))
    : Prod.snd <$> loader.document
      = Comment.blank <$> (loader.resolveSource >>= loader.expandSource) := by
  simp [document]

theorem fst_record {α : Type} (loader : Loader (StateM σ))
    (result : Except LoadError (String × α))
    : (loader.record result).1 = result.map Prod.snd := by
  cases result <;> rfl

theorem run_loadBytes (loader : Loader (StateM σ)) (s : σ)
    : loader.loadBytes.run s
      = (loader.record (outcome loader.prepare s).1, (outcome loader.prepare s).2) :=
  run_recorded loader.prepare s

/-- What a load makes of the document of a source: the settings that it holds, unless it cannot
be decoded or the caller refuses them.
-/
def settingsOf {α : Type} (source : String) (decode : Bytes → Except String α)
    (validate : α → Except String Unit) (data : Bytes)
    : Except LoadError α :=
  match decode data with
  | .error reason =>
      .error (.failed { fault := .decode reason, source := some (Descriptor.redact source) })
  | .ok settings =>
      match validate settings with
      | .error reason => .error (.failed (.ofFault (.rejected reason)))
      | .ok () => .ok settings

/-- A load leaves the state that preparation leaves, and only decodes after it. -/
theorem run_loadValidated {α : Type} (loader : Loader (StateM σ))
    (decode : Bytes → Except String α) (validate : α → Except String Unit) (s : σ)
    : (loader.loadValidated decode validate).run s
      = (loader.record ((outcome loader.prepare s).1 >>= fun (source, data) =>
            (settingsOf source decode validate data).map fun settings => (source, settings)),
          (outcome loader.prepare s).2) := by
  rw [loadValidated, run_recorded, outcome_bind]
  rcases outcome loader.prepare s with ⟨error | ⟨source, data⟩, after⟩
  · rfl
  · simp only [ok_bind, settingsOf]
    cases decode data with
    | error reason => rfl
    | ok settings =>
        dsimp only
        cases validate settings <;> rfl

-----------------------------------------------------------------------------------------
-- Schemas that find nothing
-----------------------------------------------------------------------------------------

theorem findings_unchecked {loader : Loader (StateM σ)} (unchecked : loader.check = none)
    (data : Bytes)
    : loader.findings data = .ok [] := by
  rw [findings, unchecked]
  rfl

/-- Without a schema any document passes. -/
theorem outcome_prepare_unchecked {loader : Loader (StateM σ)} (unchecked : loader.check = none)
    (s : σ)
    : outcome loader.prepare s
      = ((outcome loader.document s).1.mapError .failed, (outcome loader.document s).2) := by
  rw [outcome_prepare]
  rcases outcome loader.document s with ⟨error | ⟨source, data⟩, after⟩
  · rfl
  · dsimp only
    rw [checkDocument, findings_unchecked unchecked]
    rfl

/-- A schema that finds nothing lets any JSON document pass. -/
theorem outcome_prepare_permissive {loader : Loader (StateM σ)} {check : Json → List Finding}
    (checking : loader.check = some check) (permissive : ∀ value, check value = []) (s : σ)
    : outcome loader.prepare s
      = ((outcome loader.document s).1.mapError .failed >>= fun (source, data) =>
            (settingsOf source Json.decodeText (fun _ => pure ()) data).map fun _ => (source, data),
          (outcome loader.document s).2) := by
  rw [outcome_prepare]
  rcases outcome loader.document s with ⟨error | ⟨source, data⟩, after⟩
  · rfl
  · simp only [checkDocument, findings, checking, settingsOf]
    cases decoded : Json.decodeText data with
    | error reason => simp [Except.mapError, decoded]; rfl
    | ok value =>
        dsimp only
        rw [permissive]
        simp [Except.mapError, decoded]; rfl

-----------------------------------------------------------------------------------------
-- Agreement
-----------------------------------------------------------------------------------------

/-- Without a schema, loading bytes is to resolve the source, to expand it and to blank its
comments, and fails as these do.
-/
theorem loadBytes_unchecked {loader : Loader (StateM σ)} (unchecked : loader.check = none) (s : σ)
    : (loader.loadBytes.run s).1.1
        = ((outcome (loader.resolveSource >>= loader.expandSource) s).1.map
            Comment.blank).mapError .failed
      ∧ (loader.loadBytes.run s).2
        = (outcome (loader.resolveSource >>= loader.expandSource) s).2 := by
  have whole := congrArg (outcome · s) loader.map_document
  simp only [outcome_map, Prod.mk.injEq] at whole
  rw [run_loadBytes, fst_record, outcome_prepare_unchecked unchecked, ← whole.1, ← whole.2]
  cases (outcome loader.document s).1 <;> exact ⟨rfl, rfl⟩

/-- A load that decodes fails as loading bytes does, else it decodes the bytes. -/
theorem loadValidated_of_loadBytes {α : Type} (loader : Loader (StateM σ))
    (decode : Bytes → Except String α) (validate : α → Except String Unit) (s : σ)
    : (∀ error,
        (loader.loadBytes.run s).1.1 = .error error →
          ((loader.loadValidated decode validate).run s).1.1 = .error error)
      ∧ ∀ data,
          (loader.loadBytes.run s).1.1 = .ok data →
            ∃ source,
              (outcome loader.resolveSource s).1 = .ok source
              ∧ ((loader.loadValidated decode validate).run s).1.1
                = settingsOf source decode validate data := by
  rw [run_loadBytes, run_loadValidated, fst_record, fst_record]
  cases prepared : (outcome loader.prepare s).1 with
  | error error =>
      refine ⟨?_, nofun⟩
      rintro _ ⟨rfl⟩
      rfl
  | ok given =>
      refine ⟨nofun, ?_⟩
      rintro _ ⟨rfl⟩
      refine ⟨given.1, loader.givesFound_prepare s given prepared, ?_⟩
      dsimp only [ok_bind]
      cases settingsOf given.1 decode validate given.2 <;> rfl

/-- A schema that finds nothing does not change what loading a value comes to. If that is an
error, bytes fail to load in the same way with the schema.
-/
theorem loadValue_permissive {loader checked : Loader (StateM σ)} {check : Json → List Finding}
    (unchecked : loader.check = none) (permissive : ∀ value, check value = [])
    (same : checked = { loader with check := some check }) (s : σ)
    : checked.loadValue.run s
        = (((loader.loadValue.run s).1.1,
            { (loader.loadValue.run s).1.2 with check := some check }),
            (loader.loadValue.run s).2)
      ∧ ∀ error,
          (loader.loadValue.run s).1.1 = .error error →
            (checked.loadBytes.run s).1.1 = .error error := by
  subst same
  have sameDocument
      : ({ loader with check := some check } : Loader (StateM σ)).document = loader.document := rfl
  simp only [loadValue, load, run_loadValidated, run_loadBytes]
  rw [outcome_prepare_unchecked unchecked, outcome_prepare_permissive rfl permissive, sameDocument]
  cases (outcome loader.document s).1 with
  | error error =>
      refine ⟨rfl, ?_⟩
      rintro _ ⟨rfl⟩
      rfl
  | ok given =>
      simp only [Except.mapError, ok_bind]
      cases settled : settingsOf given.1 Json.decodeText (fun _ => pure ()) given.2 with
      | error error =>
          refine ⟨rfl, ?_⟩
          rintro _ ⟨rfl⟩
          rfl
      | ok value =>
          simp only [map_ok, ok_bind, settled]
          exact ⟨rfl, nofun⟩

/-- All loads agree. Without a schema, loading bytes is to resolve the source, to expand it and
to blank its comments, and fails as these do. A load that decodes fails in the same way if
loading bytes does, else it decodes the same bytes. A schema that finds nothing makes no
difference to the values that are loaded, although errors of decoding then come from its check.
-/
theorem entryPoints_agree (loader : Loader (StateM σ)) {check : Json → List Finding}
    (permissive : ∀ value, check value = []) (s : σ)
    : (loader.check = none →
        (loader.loadBytes.run s).1.1
          = ((outcome (loader.resolveSource >>= loader.expandSource) s).1.map
              Comment.blank).mapError .failed
        ∧ (loader.loadBytes.run s).2
          = (outcome (loader.resolveSource >>= loader.expandSource) s).2)
      ∧ (∀ {α : Type} (decode : Bytes → Except String α) (validate : α → Except String Unit),
          ((loader.loadValidated decode validate).run s).2 = (loader.loadBytes.run s).2
          ∧ (∀ error,
              (loader.loadBytes.run s).1.1 = .error error →
                ((loader.loadValidated decode validate).run s).1.1 = .error error)
          ∧ ∀ data,
              (loader.loadBytes.run s).1.1 = .ok data →
                ∃ source,
                  (outcome loader.resolveSource s).1 = .ok source
                  ∧ ((loader.loadValidated decode validate).run s).1.1
                    = settingsOf source decode validate data)
      ∧ (loader.check = none →
          ∀ checked,
            checked = { loader with check := some check } →
              checked.loadValue.run s
                = (((loader.loadValue.run s).1.1,
                    { (loader.loadValue.run s).1.2 with check := some check }),
                    (loader.loadValue.run s).2)
              ∧ ∀ error,
                  (loader.loadValue.run s).1.1 = .error error →
                    (checked.loadBytes.run s).1.1 = .error error) := by
  refine ⟨fun unchecked => ?_, fun decode validate => ⟨?_, ?_⟩, fun unchecked checked same => ?_⟩
  · exact loadBytes_unchecked unchecked s
  · rw [run_loadValidated, run_loadBytes]
  · exact loader.loadValidated_of_loadBytes decode validate s
  · exact loadValue_permissive unchecked permissive same s

/-- A loader of an array that is not closed. -/
def openArrayLoader : Loader (StateM World) where
  options := { source := some "data://[1" }

/-- An array that is not closed is loaded as bytes, but not once a schema that finds nothing is
set: then it fails to load as it does when its value is asked for without a schema.
-/
theorem entryPoints_agree_malformed
    : openArrayLoader.check = none
      ∧ (openArrayLoader.loadBytes.run {}).1.1 = .ok (ascii "[1")
      ∧ (({ openArrayLoader with check := some fun _ => [] } : Loader _).loadBytes.run {}).1.1
        = .error (.failed {
          fault := .decode "EOF while parsing a list at line 1 column 2"
          source := some "data://[1"
        }) := by
  have agree := @entryPoints_agree _ _ openArrayLoader (fun _ => []) (fun _ => rfl) {}
  refine ⟨rfl, ?_, (agree.2.2 rfl _ rfl).2 _ ((map_eq_error (f := fun _ => ())).mp ?_)⟩
  · rw [(agree.1 rfl).1]
    decide +kernel
  · decide +kernel

end TaggedConfig.Loader
