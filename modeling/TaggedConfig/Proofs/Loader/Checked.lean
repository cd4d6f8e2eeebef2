import TaggedConfig.Settings
import TaggedConfig.Proofs.Json.Typed
import TaggedConfig.Proofs.Loader.EntryPoints
import TaggedConfig.Proofs.World

/-! What a schema has checked is what the caller gets.
The check reads the document as a value and the caller by a shape. Both see the same document,
and settings that the caller gets are those that the checked value holds.
-/

namespace TaggedConfig

open Json (Datum Shape)
open Outcome
open Run
open World (Yields)

/-- A type of settings that are decoded by a shape. -/
structure SettingsType (α : Type) where
  shape : Shape
  proper : shape.isProper
  /-- The settings that a value of the shape states. -/
  ofDatum : Datum → Except String α

namespace SettingsType

variable {α : Type}

/-- Decodes the settings that a text holds. -/
def decode (type : SettingsType α) (text : Bytes) : Except String α := do
  type.ofDatum (← decodeShape type.shape text)

/-- Decodes the settings that a value holds. -/
def ofJson? (type : SettingsType α) (value : Json) : Option α := do
  (type.ofDatum (← type.shape.ofJson? value)).toOption

/-- The settings of a service. -/
def service : SettingsType Settings where
  shape := Settings.shape
  proper := by decide
  ofDatum datum :=
    match Settings.ofDatum? datum with
    | some settings => pure settings
    | none => throw "settings of another shape"

/-- The settings of a deployment, as a value of their shape. -/
def deployment : SettingsType Datum where
  shape := deploymentShape
  proper := by decide
  ofDatum := pure

theorem decode_service : service.decode = Settings.decode := rfl

theorem decode_deployment : deployment.decode = decodeShape deploymentShape := by
  funext text
  exact bind_pure _

/-- A text that decodes to a value and to settings holds the settings that its value holds. -/
theorem ofJson?_of_decode (type : SettingsType α) {text : Bytes} {value : Json} {settings : α}
    (generic : Json.decode text = .ok value) (typed : type.decode text = .ok settings)
    : type.ofJson? value = some settings := by
  obtain ⟨datum, shaped, stated⟩ := bind_eq_ok.mp typed
  have same : Json.decodeAs type.shape text = .ok datum := mapError_eq_ok.mp shaped
  have held := Json.ofJson?_of_decode type.proper generic same
  rw [ofJson?, held]
  change (type.ofDatum datum).toOption = some settings
  rw [stated]
  rfl

end SettingsType

namespace Loader

variable {loader : Loader (StateM World)}

/-- The document that a load reads in a world: the source is found, its tags are expanded and
comments are blanked.
-/
inductive HasDocument (loader : Loader (StateM World)) (world : World) : Bytes → Prop where
  | intro {source : String} {found after : World} {expanded : Bytes}
      (resolved : Yields loader.resolveSource world source found)
      (expanding : Yields (loader.expandSource source) found expanded after)
      : HasDocument loader world (Comment.blank expanded)

theorem findings_eq_ok {check : Json → List Finding} (checking : loader.check = some check)
    {document : Bytes} {found : List Finding}
    : loader.findings document = .ok found
      ↔ ∃ value, Json.decode document = .ok value ∧ check value = found := by
  rw [findings, checking]
  cases read : Json.decode document <;> simp [Json.decodeText, read, Except.mapError]

/-- Preparation fails before the check or at it, or the document has been checked: it is good
without findings and invalid with them.
-/
theorem prepare_cases (loader : Loader (StateM World)) (world : World)
    : (∃ error, (outcome loader.prepare world).1 = .error (.failed error))
      ∨ ∃ document found,
          loader.HasDocument world document
          ∧ loader.findings document = .ok found
          ∧ ((found = [] ∧ ∃ source, (outcome loader.prepare world).1 = .ok (source, document))
            ∨ (found ≠ [] ∧ (outcome loader.prepare world).1 = .error (.invalid found))) := by
  rw [prepare, outcome_bind, outcome_adapt]
  rcases resolved : outcome loader.resolveSource world with ⟨error | source, between⟩
  · exact Or.inl ⟨error, rfl⟩
  · simp only [Except.mapError, outcome_bind, outcome_map, outcome_adapt]
    rcases expanding : outcome (loader.expandSource source) between with ⟨error | bytes, after⟩
    · exact Or.inl ⟨error, rfl⟩
    · have document : loader.HasDocument world (Comment.blank bytes) := ⟨resolved, expanding⟩
      cases checked : loader.findings (Comment.blank bytes) with
      | error error =>
          simp only [Except.map, checked]
          exact Or.inl ⟨_, rfl⟩
      | ok found =>
          simp only [Except.map, checked]
          refine Or.inr ⟨_, found, document, checked, ?_⟩
          cases found with
          | nil => exact Or.inl ⟨rfl, source, rfl⟩
          | cons first others => exact Or.inr ⟨List.cons_ne_nil first others, rfl⟩

/-- What a load comes to, given what its preparation comes to. -/
theorem loadValidated_eq {α : Type} (decode : Bytes → Except String α)
    (validate : α → Except String Unit) (world : World)
    : ((loader.loadValidated decode validate).run world).1.1
      = match (outcome loader.prepare world).1 with
        | .error error => .error error
        | .ok (source, document) =>
            match decode document with
            | .error reason =>
                let error := Error.ofFault (.decode reason)
                .error (.failed (error.withSource (Descriptor.redact source)))
            | .ok settings =>
                match validate settings with
                | .error reason => .error (.failed (.ofFault (.rejected reason)))
                | .ok () => .ok settings := by
  rw [run_loadValidated, fst_record]
  cases (outcome loader.prepare world).1 with
  | error error => rfl
  | ok given =>
      simp only [ok_bind, settingsOf]
      cases decode given.2 with
      | error reason => rfl
      | ok settings =>
          dsimp only
          cases validate settings <;> rfl

/-- With a schema, settings that the caller gets are those that a value without findings
holds, the value of the document that the load has read. A document is called invalid with
the findings in its value, and only if there are some.
-/
theorem loadValidated_checked {α : Type} (type : SettingsType α) (loader : Loader (StateM World))
    {check : Json → List Finding} (checking : loader.check = some check)
    (validate : α → Except String Unit) (world : World)
    : (∀ settings,
        ((loader.loadValidated type.decode validate).run world).1.1 = .ok settings →
          ∃ document value,
            loader.HasDocument world document
            ∧ Json.decode document = .ok value
            ∧ check value = []
            ∧ type.ofJson? value = some settings)
      ∧ ∀ found,
          ((loader.loadValidated type.decode validate).run world).1.1 = .error (.invalid found) →
            found ≠ []
            ∧ ∃ document value,
                loader.HasDocument world document
                ∧ Json.decode document = .ok value
                ∧ check value = found := by
  rw [loadValidated_eq]
  rcases loader.prepare_cases world with
    ⟨error, failed⟩ | ⟨document, found, read, checked, ⟨none, source, prepared⟩ | ⟨some, prepared⟩⟩
  · rw [failed]
    exact ⟨nofun, nofun⟩
  · obtain ⟨value, valued, rfl⟩ := (findings_eq_ok checking).mp checked
    rw [prepared]
    dsimp only
    cases decoded : type.decode document with
    | error reason => exact ⟨nofun, nofun⟩
    | ok settings =>
        dsimp only
        have held := type.ofJson?_of_decode valued decoded
        cases validate settings with
        | error reason => exact ⟨nofun, nofun⟩
        | ok =>
            refine ⟨?_, nofun⟩
            rintro _ ⟨rfl⟩
            exact ⟨document, value, read, valued, none, held⟩
  · obtain ⟨value, valued, rfl⟩ := (findings_eq_ok checking).mp checked
    rw [prepared]
    refine ⟨nofun, ?_⟩
    rintro _ ⟨rfl⟩
    exact ⟨some, document, value, read, valued, rfl⟩

/-- A check that allows ports up to 8080 only. -/
def portCheck (value : Json) : List Finding :=
  match value.member? "port" with
  | some (.number (.integer port)) => if port ≤ 8080 then [] else [⟨"/port", "too great"⟩]
  | _ => [⟨"", "no port"⟩]

/-- A loader of a document with that check. -/
def portLoader (source : String) : Loader (StateM World) where
  options := { source := some source }
  check := some portCheck

/-- A member that no field is named after may be repeated, and the checked value has the last
one. A port that the check does not allow makes the document invalid.
-/
theorem loadValidated_checked_repeated
    : (∃ document value,
        (portLoader "\x7b\"x\":1,\"port\":80,\"name\":\"a\",\"x\":2\x7d").HasDocument {} document
        ∧ Json.decode document = .ok value
        ∧ portCheck value = []
        ∧ SettingsType.service.ofJson? value = some ⟨"a", 80⟩)
      ∧ ∃ document value,
        (portLoader "\x7b\"port\":9000,\"name\":\"a\"\x7d").HasDocument {} document
        ∧ Json.decode document = .ok value
        ∧ portCheck value = [⟨"/port", "too great"⟩] := by
  constructor
  · exact (loadValidated_checked .service (portLoader _) rfl (fun _ => pure ()) {}).1
      ⟨"a", 80⟩ (by decide +kernel)
  · exact ((loadValidated_checked .service (portLoader _) rfl (fun _ => pure ()) {}).2
      [⟨"/port", "too great"⟩] (by decide +kernel)).2

end Loader

end TaggedConfig
