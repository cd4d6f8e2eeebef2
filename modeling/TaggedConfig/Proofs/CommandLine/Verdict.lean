import TaggedConfig.Proofs.CommandLine.Agreement
import TaggedConfig.Proofs.Loader.Checked

/-! The exit code of a validation, which tells what has been found.
It is that of a schema that cannot be used, of a source without a value, of a value with findings
or of one without, however the report is written.
-/

namespace TaggedConfig.CommandLine

open Outcome
open Run
open World (Yields)

/-- What validating a source comes to: the report and the world that it leaves. -/
def validateIn (engine : SchemaEngine (StateM World)) (world : World) (arguments : List String)
    (source schema : String) (ceiling : UInt64) (format : String) (quiet : Bool)
    : Report × World :=
  (runValidate engine arguments source schema format quiet ceiling
    : StateM World Report).run world

/-- The file can be read as a text, which states the value. -/
inductive StatesValue (world : World) (path : String) : Json → Prop where
  | intro {content : Bytes} {text : String} {value : Json}
    (reading : world.files.read world.workingDirectory path = .ok content)
    (decoding : Utf8.decode? content = some text)
    (stating : CompiledSchema.fileValue path text = .ok value)
    : StatesValue world path value

/-- The file states a value that the engine compiles: it has these findings from then on, and has
left this world.
-/
inductive HasSchema (engine : SchemaEngine (StateM World)) (world : World) (path : String)
    : (Json → List Finding) → World → Prop where
  | intro {value : Json} {findings : Json → List Finding} {after : World}
    (states : StatesValue world path value)
    (compiling : (engine.compile value).run world = (.ok findings, after))
    : HasSchema engine world path findings after

/-- Nothing has been done but to read the file and to compile what it states, if anything. -/
inductive OnlySchema (engine : SchemaEngine (StateM World)) (world : World) (path : String)
    : World → Prop where
  | unstated : OnlySchema engine world path world
  | compiled {value : Json} (states : StatesValue world path value)
    : OnlySchema engine world path ((engine.compile value).run world).2

/-- Compiling what the file states sends no requests, as it is where that refers to nothing on the
network.
-/
def CompilesOffline (engine : SchemaEngine (StateM World)) (world : World) (path : String) : Prop :=
  ∀ value,
    StatesValue world path value →
      ((engine.compile value).run world).2.requests = world.requests

/-- With a new token the source is fetched, its tags are expanded, its comments are blanked and the
rest is decoded to the value.
-/
inductive HasValue (world : World) (source : String) (ceiling : UInt64) : Json → Prop where
  | intro {raw expanded : Bytes} {fetched after : World} {value : Json}
    (fetching : Yields (Chain.builtin.load {} source) world.renewed raw fetched)
    (expanding
      : Yields (Expander.expand { chain := Chain.builtin, ceiling } raw) fetched expanded after)
    (decoding : Json.decode (Comment.blank expanded) = .ok value)
    : HasValue world source ceiling value

/-- A loader of a source that is checked. -/
def checkedLoader (arguments : List String) (source : String) (ceiling : UInt64)
    (check : Json → List Finding)
    : Loader (StateM World) :=
  { loaderOf arguments source ceiling with check := some check }

/-- A finding as an item of a report in JSON. -/
def findingItem (finding : Finding) : String :=
  "\n    \x7b\n      \"location\": " ++ Json.stringText finding.location
    ++ ",\n      \"message\": " ++ Json.stringText finding.message ++ "\n    \x7d"

/-- A finding as a line of a report. -/
def findingLine (finding : Finding) : String := "  " ++ finding.text ++ "\n"

/-- The report that lists the findings, each of them once and in order. -/
def findingsReport (format : String) (findings : List Finding) : Report :=
  if format = "json" then
    .printing 1 ("\x7b\n  \"errors\": [" ++ ",".intercalate (findings.map findingItem)
      ++ "\n  ],\n  \"valid\": false\n\x7d\n")
  else .complaining 1 ("✗ Validation failed\n\n" ++ String.join (findings.map findingLine))

/-- The report tells what a schema makes of a source: its value has no findings, or it has some,
which are listed, or there is no value.
-/
structure TellsVerdict (world : World) (source : String) (ceiling : UInt64)
    (findings : Json → List Finding) (format : String) (report : Report)
    : Prop where
  accepts
    : report.exit = 0 ↔ ∃ value, HasValue world source ceiling value ∧ findings value = []
  refuses
    : report.exit = 1 ↔ ∃ value, HasValue world source ceiling value ∧ findings value ≠ []
  fails : report.exit = 2 ↔ ∀ value, ¬HasValue world source ceiling value
  lists
    : ∀ value,
        HasValue world source ceiling value
        → findings value ≠ []
        → report = findingsReport format (findings value)

-----------------------------------------------------------------------------------------
-- Reports
-----------------------------------------------------------------------------------------

/-- The items of an array are indented one by one, by induction on them. -/
theorem indentedItems_eq (depth : Nat) (items : List Json)
    : Json.indentedItems depth items
      = ",".intercalate (items.map fun item => Json.newLine depth ++ item.indentedFrom depth) := by
  induction items with
  | nil => rfl
  | cons item items ih =>
      cases items with
      | nil => simp [Json.indentedItems]
      | cons next items =>
          rw [Json.indentedItems, ih]
          · simp only [List.map_cons, String.intercalate_cons_cons]
          · exact nofun

theorem newLine_texts
    : Json.newLine 0 = "\n"
      ∧ Json.newLine 1 = "\n  "
      ∧ Json.newLine 2 = "\n    "
      ∧ Json.newLine 3 = "\n      " := by
  decide

theorem indented_finding (finding : Finding)
    : Json.newLine 2
        ++ (Json.ofMembers [("location", .string finding.location),
            ("message", .string finding.message)]).indentedFrom 2
      = findingItem finding := by
  have members
      : Json.ofMembers [("location", .string finding.location),
          ("message", .string finding.message)]
        = .object [("location", .string finding.location),
            ("message", .string finding.message)] := by
    have later : ¬"message" < "location" := by decide
    simp [Json.ofMembers, Json.insertMember, later]
  have location : Json.stringText "location" = "\"location\"" := by decide
  have message : Json.stringText "message" = "\"message\"" := by decide
  rw [members, ← String.toList_inj]
  unfold findingItem
  simp [Json.indentedFrom, Json.indentedMembers, location, message, newLine_texts]

theorem indented_findingsJson {findings : List Finding} (some : findings ≠ [])
    : (findingsJson findings).indented ++ "\n"
      = "\x7b\n  \"errors\": [" ++ ",".intercalate (findings.map findingItem)
        ++ "\n  ],\n  \"valid\": false\n\x7d\n" := by
  have members (items : Json)
      : Json.ofMembers [("valid", .bool false), ("errors", items)]
        = .object [("errors", items), ("valid", .bool false)] := by
    have earlier : "errors" < "valid" := by decide
    simp [Json.ofMembers, Json.insertMember, earlier]
  have errors : Json.stringText "errors" = "\"errors\"" := by decide
  have valid : Json.stringText "valid" = "\"valid\"" := by decide
  obtain ⟨first, others, rfl⟩ := List.exists_cons_of_ne_nil some
  have items := indentedItems_eq 2 ((first :: others).map fun finding =>
    .ofMembers [("location", .string finding.location), ("message", .string finding.message)])
  simp only [List.map_map, Function.comp_def, indented_finding] at items
  rw [findingsJson, members, ← String.toList_inj]
  simp only [Json.indented, Json.indentedFrom, Json.indentedMembers, List.map_cons] at items ⊢
  simp [items, errors, valid, newLine_texts]

theorem verdict_invalid (source format : String) (quiet : Bool) {findings : List Finding}
    (some : findings ≠ [])
    : verdict source format quiet (.error (.invalid findings))
      = findingsReport format findings := by
  unfold verdict findingsReport
  dsimp only
  rw [indented_findingsJson some]
  rfl

theorem exit_verdict_ok (source format : String) (quiet : Bool) (value : Json)
    : (verdict source format quiet (.ok value)).exit = 0 := by
  unfold verdict
  split_ifs <;> rfl

theorem exit_verdict_failed (source format : String) (quiet : Bool) (error : Error)
    : (verdict source format quiet (.error (.failed error))).exit = 2 := by
  unfold verdict
  split_ifs <;> rfl

theorem exit_findingsReport (format : String) (findings : List Finding)
    : (findingsReport format findings).exit = 1 := by
  unfold findingsReport
  split_ifs <;> rfl

-----------------------------------------------------------------------------------------
-- Schemas
-----------------------------------------------------------------------------------------

theorem outcome_readFileSource (world : World) (path : String)
    : ∃ result : Except Error Bytes,
        outcome (readFileSource path) world = (result, world)
        ∧ ∀ content,
            result = .ok content ↔ world.files.read world.workingDirectory path = .ok content := by
  have read
      : (Host.readFile path : StateM World _).run world
        = (world.files.read world.workingDirectory path, world) := rfl
  rw [readFileSource, outcome_bind, outcome_lift, read]
  dsimp only
  cases world.files.read world.workingDirectory path with
  | ok bytes => exact ⟨.ok bytes, rfl, fun content => by simp⟩
  | error fault => cases fault <;> exact ⟨_, rfl, fun content => iff_of_false nofun nofun⟩

theorem StatesValue.unique {world : World} {path : String} {value value' : Json}
    (first : StatesValue world path value) (second : StatesValue world path value')
    : value' = value := by
  obtain @⟨content, text, _, reading, decoding, stating⟩ := first
  obtain @⟨content', text', _, reading', decoding', stating'⟩ := second
  obtain rfl : content' = content := Except.ok.inj (reading'.symm.trans reading)
  obtain rfl : text' = text := Option.some.inj (decoding'.symm.trans decoding)
  exact Except.ok.inj (stating'.symm.trans stating)

section

variable {engine : SchemaEngine (StateM World)} {world : World} {path : String}

theorem HasSchema.unique {findings findings' : Json → List Finding} {after after' : World}
    (first : HasSchema engine world path findings after)
    (second : HasSchema engine world path findings' after')
    : findings' = findings ∧ after' = after := by
  obtain ⟨states, compiling⟩ := first
  obtain ⟨states', compiling'⟩ := second
  cases states'.unique states
  cases compiling.symm.trans compiling'
  exact ⟨rfl, rfl⟩

theorem OnlySchema.requests_eq {after : World} (only : OnlySchema engine world path after)
    (offline : CompilesOffline engine world path)
    : after.requests = world.requests := by
  cases only with
  | unstated => rfl
  | compiled states => exact offline _ states

/-- A file that states a value is compiled. -/
theorem outcome_ofFile {value : Json} (states : StatesValue world path value)
    : outcome (CompiledSchema.ofFile engine path) world
      = outcome ((CompiledSchema.ofValue engine value).adapt (·.withSource path)) world := by
  obtain @⟨content, text, _, reading, decoding, stating⟩ := states
  obtain ⟨opened, known, read⟩ := outcome_readFileSource world path
  rw [CompiledSchema.ofFile, outcome_bind, known, (read content).mpr reading]
  dsimp only
  rw [decoding]
  dsimp only
  rw [stating]
  rfl

/-- A file that states no value is not compiled. -/
theorem outcome_ofFile_unstated (engine : SchemaEngine (StateM World))
    (unstated : ∀ value, ¬StatesValue world path value)
    : ∃ error, outcome (CompiledSchema.ofFile engine path) world = (.error error, world) := by
  obtain ⟨opened, known, read⟩ := outcome_readFileSource world path
  rw [CompiledSchema.ofFile, outcome_bind, known]
  cases opened with
  | error error => exact ⟨error, rfl⟩
  | ok content =>
      dsimp only
      cases decoded : Utf8.decode? content with
      | none => exact ⟨_, rfl⟩
      | some text =>
          dsimp only
          cases stated : CompiledSchema.fileValue path text with
          | error reason => exact ⟨_, rfl⟩
          | ok value =>
              exact absurd ⟨(read content).mp rfl, decoded, stated⟩ (unstated value)

/-- Either a file has a schema or nothing comes of reading it. -/
theorem outcome_ofFile_cases (engine : SchemaEngine (StateM World)) (world : World) (path : String)
    : (∃ compiled after,
          outcome (CompiledSchema.ofFile engine path) world = (.ok compiled, after)
          ∧ HasSchema engine world path compiled.findings after)
      ∨ (∀ findings after, ¬HasSchema engine world path findings after)
        ∧ ∃ error after,
            outcome (CompiledSchema.ofFile engine path) world = (.error error, after)
            ∧ OnlySchema engine world path after := by
  by_cases stated : ∃ value, StatesValue world path value
  · obtain ⟨value, states⟩ := stated
    have compiled
        : outcome (ExceptT.lift (engine.compile value) : Action (StateM World) _) world
          = (.ok ((engine.compile value).run world).1, ((engine.compile value).run world).2) := rfl
    rw [outcome_ofFile states, outcome_adapt, CompiledSchema.ofValue, outcome_bind, compiled]
    rcases compiling : (engine.compile value).run world with ⟨reason | findings, after⟩
    · refine Or.inr ⟨?_, _, after, rfl, ?_⟩
      · rintro findings after' ⟨states', compiling'⟩
        cases states'.unique states
        cases compiling.symm.trans compiling'
      · have only : OnlySchema engine world path _ := .compiled states
        rwa [compiling] at only
    · exact Or.inl ⟨_, after, rfl, states, compiling⟩
  · have unstated := not_exists.mp stated
    obtain ⟨error, read⟩ := outcome_ofFile_unstated engine unstated
    refine Or.inr ⟨?_, error, world, read, .unstated⟩
    rintro findings after ⟨states, -⟩
    exact unstated _ states

/-- A schema that cannot be used is all that is reported, and nothing is done after reading it. -/
theorem run_validate_unread (arguments : List String) (source format : String) (quiet : Bool)
    (ceiling : UInt64) {error : Error} {after : World}
    (unread : outcome (CompiledSchema.ofFile engine path) world = (.error error, after))
    : validateIn engine world arguments source path ceiling format quiet
      = (.complaining 2 s!"{failMark}Failed to load schema {path}: {error.message}\n", after) := by
  unfold outcome at unread
  rw [validateIn, runValidate, StateT.run_bind, unread]
  rfl

/-- Otherwise the report is the verdict on a load that is checked by the schema. -/
theorem run_validate_read (arguments : List String) (source format : String) (quiet : Bool)
    (ceiling : UInt64) {compiled : CompiledSchema} {after : World}
    (read : outcome (CompiledSchema.ofFile engine path) world = (.ok compiled, after))
    : (validateIn engine world arguments source path ceiling format quiet).1
      = verdict source format quiet
          ((checkedLoader arguments source ceiling compiled.findings).loadValue.run
            after.renewed).1.1 := by
  unfold outcome at read
  rw [validateIn, runValidate, StateT.run_bind, read]
  rfl

end

-----------------------------------------------------------------------------------------
-- Values
-----------------------------------------------------------------------------------------

section

variable {world : World} {source : String} {ceiling : UInt64}

/-- A source is expanded if it can be fetched and then the tags in it be expanded. -/
theorem fst_expandSource_eq_ok (arguments : List String) {expanded : Bytes}
    : (outcome ((loaderOf arguments source ceiling).expandSource source) world).1 = .ok expanded
      ↔ ∃ raw fetched after,
          Yields (Chain.builtin.load {} source) world raw fetched
          ∧ Yields (Expander.expand { chain := Chain.builtin, ceiling } raw) fetched expanded
              after := by
  have expansion
      : (loaderOf arguments source ceiling : Loader (StateM World)).expandSource source
        = Chain.builtin.load {} source >>= fun raw =>
            Expander.expand { chain := Chain.builtin, ceiling } raw :=
    rfl
  rw [expansion, outcome_bind]
  constructor
  · intro expanding
    rcases fetching : outcome (Chain.builtin.load {} source) world with ⟨error | raw, fetched⟩
    · simp [fetching] at expanding
    · rw [fetching] at expanding
      exact ⟨raw, fetched, _, fetching, World.yields_of_fst expanding⟩
  · rintro ⟨raw, fetched, after, fetching, expanding⟩
    change outcome _ _ = _ at fetching expanding
    rw [fetching]
    exact congrArg Prod.fst expanding

/-- The value of a source is decoded from what it is expanded to. -/
theorem hasValue_iff (arguments : List String) {value : Json}
    : HasValue world source ceiling value
      ↔ ∃ expanded,
          (outcome ((loaderOf arguments source ceiling).expandSource source) world.renewed).1
            = .ok expanded
          ∧ Json.decode (Comment.blank expanded) = .ok value := by
  constructor
  · rintro ⟨fetching, expanding, decoding⟩
    exact ⟨_, (fst_expandSource_eq_ok arguments).mpr ⟨_, _, _, fetching, expanding⟩, decoding⟩
  · rintro ⟨expanded, known, decoding⟩
    obtain ⟨raw, fetched, after, fetching, expanding⟩ :=
      (fst_expandSource_eq_ok arguments).mp known
    exact ⟨fetching, expanding, decoding⟩

/-- A source has at most one value. -/
theorem HasValue.unique {value value' : Json} (first : HasValue world source ceiling value)
    (second : HasValue world source ceiling value')
    : value' = value := by
  obtain ⟨expanded, expanding, decoding⟩ := (hasValue_iff []).mp first
  obtain ⟨expanded', expanding', decoding'⟩ := (hasValue_iff []).mp second
  rw [expanding] at expanding'
  cases expanding'
  exact Except.ok.inj (decoding'.symm.trans decoding)

/-- The loader of a command leaves traces only. -/
theorem leavesTraces_expandSource (arguments : List String) (source : String) (ceiling : UInt64)
    : LeavesTraces ((loaderOf arguments source ceiling).expandSource source) :=
  (LeavesTraces.compositional.expandSource rfl
    (fun descriptor => ⟨rfl, .builtin _ descriptor⟩) (fun name => ⟨rfl, .lookup name⟩)
    (fun level text => ⟨rfl, .log level text⟩) source).2

/-- Log records that have been written before do not change what a source is expanded to. -/
theorem fst_expandSource_logged (arguments : List String) (log : List (Level × String))
    : (outcome ((loaderOf arguments source ceiling).expandSource source) { world with log }).1
      = (outcome ((loaderOf arguments source ceiling).expandSource source) world).1 := by
  obtain ⟨result, traces, -, runs⟩ := leavesTraces_expandSource arguments source ceiling world
  rw [runs world (.refl world), runs _ ⟨world.requests, log, rfl⟩]

/-- A load with a schema fails as its document does or as that is no JSON. Else the value is loaded,
or refused with what the schema finds in it.
-/
theorem loadValue_checked {loader : Loader (StateM World)} {check : Json → List Finding}
    (checking : loader.check = some check) (world : World)
    : (∃ error,
          (loader.loadValue.run world).1.1 = .error (.failed error)
          ∧ ∀ found value,
              (outcome loader.document world).1 = .ok found → Json.decode found.2 ≠ .ok value)
      ∨ ∃ found value,
          (outcome loader.document world).1 = .ok found
          ∧ Json.decode found.2 = .ok value
          ∧ (loader.loadValue.run world).1.1
            = if check value = [] then .ok value else .error (.invalid (check value)) := by
  rw [Loader.loadValue, Loader.load, Loader.run_loadValidated, Loader.fst_record,
    Loader.outcome_prepare]
  rcases outcome loader.document world with ⟨error | ⟨source, data⟩, after⟩
  · refine Or.inl ⟨error, rfl, ?_⟩
    rintro _ _ ⟨⟩
  · dsimp only
    cases text : Json.decodeText data with
    | error reason =>
        have refused : loader.findings data = .error (.ofFault (.decode reason)) := by
          rw [Loader.findings, checking]
          simp only [text]
          rfl
        refine Or.inl ⟨_, by rw [Loader.checkDocument, refused]; rfl, ?_⟩
        rintro _ value ⟨rfl⟩ decoded
        rw [Json.decodeText, mapError_eq_ok.mpr decoded] at text
        contradiction
    | ok value =>
        have decoded := mapError_eq_ok.mp text
        have found := (Loader.findings_eq_ok checking).mpr ⟨value, decoded, rfl⟩
        refine Or.inr ⟨_, value, rfl, decoded, ?_⟩
        rw [Loader.checkDocument, found]
        cases check value with
        | nil =>
            have settled
                : Loader.settingsOf source Json.decodeText (fun _ => pure ()) data = .ok value := by
              simp [Loader.settingsOf, text]
            rw [if_pos rfl]
            change ((Loader.settingsOf source Json.decodeText (fun _ => pure ()) data).map
              fun settings => (source, settings)).map Prod.snd = _
            rw [settled]
            rfl
        | cons first others => rfl

/-- Loading a value fails if the source has none. Else the value is loaded, or refused with what a
schema finds in it.
-/
theorem loadValue_cases (arguments : List String) (nonempty : source ≠ "")
    (check : Json → List Finding)
    : ((∀ value, ¬HasValue world source ceiling value)
        ∧ ∃ error,
            ((checkedLoader arguments source ceiling check).loadValue.run world.renewed).1.1
              = .error (.failed error))
      ∨ ∃ value,
          HasValue world source ceiling value
          ∧ ((checkedLoader arguments source ceiling check).loadValue.run world.renewed).1.1
            = if check value = [] then .ok value else .error (.invalid (check value)) := by
  have found
      : (outcome (checkedLoader arguments source ceiling check).document world.renewed).1
        = (outcome ((loaderOf arguments source ceiling).expandSource source) world.renewed).1.map
            fun expanded => (source, Comment.blank expanded) := by
    rw [Loader.document, resolveSource_explicit rfl nonempty, bind_assoc, outcome_bind]
    rw [← fst_expandSource_logged arguments
      (world.log ++ [(.debug, s!"Using explicit source '{Descriptor.redact source}'")])]
    exact congrArg Prod.fst (outcome_map _ _ _)
  have checking : (checkedLoader arguments source ceiling check).check = some check := rfl
  rcases loadValue_checked checking world.renewed with
    ⟨error, failed, unvalued⟩ | ⟨document, value, known, decoded, loaded⟩
  · refine Or.inl ⟨fun value has => ?_, error, failed⟩
    obtain ⟨expanded, expanding, decoding⟩ := (hasValue_iff arguments).mp has
    rw [expanding] at found
    exact unvalued _ value found decoding
  · rw [found] at known
    obtain ⟨expanded, expanding, rfl⟩ := map_eq_ok.mp known
    exact Or.inr ⟨value, (hasValue_iff arguments).mpr ⟨expanded, expanding, decoded⟩, loaded⟩

/-- The verdict on a load that is checked by a schema tells what the schema makes of the source. -/
theorem tellsVerdict_loadValue (arguments : List String) (nonempty : source ≠ "")
    (findings : Json → List Finding) (format : String) (quiet : Bool)
    : TellsVerdict world source ceiling findings format
        (verdict source format quiet
          ((checkedLoader arguments source ceiling findings).loadValue.run world.renewed).1.1) := by
  rcases loadValue_cases arguments nonempty findings with
    ⟨unvalued, error, failed⟩ | ⟨value, has, loaded⟩
  · have exit := exit_verdict_failed source format quiet error
    rw [failed]
    exact {
      accepts := iff_of_false (by simp [exit]) fun ⟨value, has, _⟩ => unvalued value has
      refuses := iff_of_false (by simp [exit]) fun ⟨value, has, _⟩ => unvalued value has
      fails := iff_of_true exit unvalued
      lists := fun value has => absurd has (unvalued value)
    }
  · have only {P : Json → Prop}
        : (∃ other, HasValue world source ceiling other ∧ P other) ↔ P value :=
      ⟨fun ⟨other, hasOther, holds⟩ => has.unique hasOther ▸ holds,
        fun holds => ⟨value, has, holds⟩⟩
    have valued : ¬∀ other, ¬HasValue world source ceiling other := fun none => none value has
    rw [loaded]
    split_ifs with fine
    · have exit := exit_verdict_ok source format quiet value
      exact {
        accepts := by simp [only, exit, fine]
        refuses := by simp [only, exit, fine]
        fails := iff_of_false (by simp [exit]) valued
        lists := fun other hasOther found => absurd (has.unique hasOther ▸ fine) found
      }
    · have exit := exit_findingsReport format (findings value)
      rw [verdict_invalid source format quiet fine]
      exact {
        accepts := by simp [only, exit, fine]
        refuses := by simp [only, exit, fine]
        fails := iff_of_false (by simp [exit]) valued
        lists := fun other hasOther _ => by rw [has.unique hasOther]
      }

/-- Reports that tell the same verdict have the same exit code. -/
theorem TellsVerdict.exit_eq {findings : Json → List Finding} {format format' : String}
    {report report' : Report} (tells : TellsVerdict world source ceiling findings format report)
    (tells' : TellsVerdict world source ceiling findings format' report')
    : report'.exit = report.exit := by
  by_cases valued : ∃ value, HasValue world source ceiling value
  · obtain ⟨value, has⟩ := valued
    by_cases fine : findings value = []
    · rw [tells.accepts.mpr ⟨value, has, fine⟩, tells'.accepts.mpr ⟨value, has, fine⟩]
    · rw [tells.refuses.mpr ⟨value, has, fine⟩, tells'.refuses.mpr ⟨value, has, fine⟩]
  · have unvalued := not_exists.mp valued
    rw [tells.fails.mpr unvalued, tells'.fails.mpr unvalued]

end

/-- The exit code of a validation is its verdict, whatever engine compiles the schema. A schema that
cannot be used is reported before anything is loaded: but for what compiling did nothing has been
done. Otherwise the report tells what the schema makes of the source. Neither the format nor the
wish for quiet changes the exit code.
-/
theorem exit_is_verdict (engine : SchemaEngine (StateM World)) (world : World) {source : String}
    (nonempty : source ≠ "") (schema : String) (ceiling : UInt64)
    : (∀ line format quiet,
          Invocation.ofArguments line = .run (.validate source schema format quiet ceiling) →
            runIn engine world line
            = validateIn engine world line source schema ceiling format quiet)
      ∧ ((∀ findings after, ¬HasSchema engine world schema findings after) →
          ∀ arguments format quiet,
            (validateIn engine world arguments source schema ceiling format quiet).1.exit = 2
            ∧ OnlySchema engine world schema
                (validateIn engine world arguments source schema ceiling format quiet).2
            ∧ (CompilesOffline engine world schema →
                (validateIn engine world arguments source schema ceiling format quiet).2.requests
                = world.requests))
      ∧ (∀ findings after,
          HasSchema engine world schema findings after →
            ∀ arguments format quiet,
              TellsVerdict after source ceiling findings format
                (validateIn engine world arguments source schema ceiling format quiet).1)
      ∧ ∀ arguments arguments' format format' quiet quiet',
          (validateIn engine world arguments' source schema ceiling format' quiet').1.exit
          = (validateIn engine world arguments source schema ceiling format quiet).1.exit := by
  have line (line : List String) (format : String) (quiet : Bool)
      (asks : Invocation.ofArguments line = .run (.validate source schema format quiet ceiling))
      : runIn engine world line
        = validateIn engine world line source schema ceiling format quiet := by
    rw [runIn, run, asks]
    rfl
  rcases outcome_ofFile_cases engine world schema with
    ⟨compiled, after, read, has⟩ | ⟨unusable, error, after, read, only⟩
  · have tells (arguments : List String) (format : String) (quiet : Bool)
        : TellsVerdict after source ceiling compiled.findings format
            (validateIn engine world arguments source schema ceiling format quiet).1 := by
      rw [run_validate_read arguments source format quiet ceiling read]
      exact tellsVerdict_loadValue arguments nonempty compiled.findings format quiet
    refine ⟨line, fun unusable => absurd has (unusable _ _), fun findings after' has' => ?_,
      fun _ _ _ _ _ _ => (tells _ _ _).exit_eq (tells _ _ _)⟩
    obtain ⟨rfl, rfl⟩ := has.unique has'
    exact tells
  · have unread (arguments : List String) (format : String) (quiet : Bool)
        : (validateIn engine world arguments source schema ceiling format quiet).1.exit = 2
          ∧ (validateIn engine world arguments source schema ceiling format quiet).2 = after := by
      rw [run_validate_unread arguments source format quiet ceiling read]
      exact ⟨rfl, rfl⟩
    refine ⟨line, fun _ arguments format quiet => ?_, fun _ _ has => absurd has (unusable _ _),
      fun arguments arguments' format format' quiet quiet' => ?_⟩
    · obtain ⟨exit, left⟩ := unread arguments format quiet
      rw [left]
      exact ⟨exit, only, only.requests_eq⟩
    · rw [(unread _ _ _).1, (unread _ _ _).1]

/-- The text of a schema that allows objects only. -/
def objectsText : String := "\x7b\"type\":\"object\"\x7d"

/-- A world in which a file holds that schema. -/
def objectsWorld : World where
  files := { items := [(["s"], .file (Utf8.encode objectsText))] }

theorem splitOn_schemaPath : "/s".splitOn "/" = ["", "s"] := by
  simp +decide [String.splitOn, String.splitOnAux.eq_1]

theorem statesValue_objects
    : StatesValue objectsWorld "/s" (.object [("type", .string "object")]) := by
  have reading
      : objectsWorld.files.read objectsWorld.workingDirectory "/s"
        = .ok (Utf8.encode objectsText) := by
    rw [FileTree.read, FileTree.parts, splitOn_schemaPath]
    decide +kernel
  have json : CompiledSchema.isYamlFile "/s" = false := by
    have dotless : "s".splitOn "." = ["s"] := by
      simp +decide [String.splitOn, String.splitOnAux.eq_1]
    simp [CompiledSchema.isYamlFile, CompiledSchema.extension?, splitOn_schemaPath, dotless]
  have stating
      : CompiledSchema.fileValue "/s" objectsText = .ok (.object [("type", .string "object")]) := by
    rw [CompiledSchema.fileValue, json]
    cbv
  exact ⟨reading, by decide +kernel, stating⟩

theorem exists_hasSchema_objects
    : ∃ findings,
        HasSchema .standalone objectsWorld "/s" findings objectsWorld
        ∧ findings (.array [.number (.integer 2)]) = [⟨"", "[2] is not of type \"object\""⟩] := by
  have found
      : (SchemaDocument.ofJson (.object [("type", .string "object")])).toOption.map
            (·.findings (.array [.number (.integer 2)]))
          = some [⟨"", "[2] is not of type \"object\""⟩] := by
    decide +kernel
  obtain ⟨document, compiled, findings⟩ := Option.map_eq_some_iff.mp found
  refine ⟨document.findings, ⟨statesValue_objects, ?_⟩, findings⟩
  change ((((SchemaDocument.ofJson _).mapError (·.message)).map (·.findings)), objectsWorld) = _
  rw [toOption_eq_some.mp compiled]
  rfl

/-- An array is refused with the one finding that the schema has, quiet or not. Where there is no
such file nothing is done.
-/
theorem exit_is_verdict_objects
    : (runIn .standalone objectsWorld ["validate", "-q", "--schema=/s", "[2]//"]).1
        = .complaining 1 "✗ Validation failed\n\n  [2] is not of type \"object\"\n"
      ∧ (runIn .standalone {} ["validate", "--schema=/s", "[2]//"]).1.exit = 2
      ∧ (runIn .standalone {} ["validate", "--schema=/s", "[2]//"]).2.requests = [] := by
  have nonempty : "[2]//" ≠ "" := by decide
  constructor
  · obtain ⟨line, -, tells, -⟩ :=
      exit_is_verdict .standalone objectsWorld nonempty "/s" defaultCeiling
    obtain ⟨listed, hasSchema, findings⟩ := exists_hasSchema_objects
    have hasValue
        : HasValue objectsWorld "[2]//" defaultCeiling (.array [.number (.integer 2)]) :=
      ⟨World.yields_of_fst (a := ascii "[2]//") (by decide +kernel),
        World.yields_of_fst (a := ascii "[2]//") (by decide +kernel), by cbv⟩
    rw [line _ "text" true (by rfl),
      (tells listed _ hasSchema _ "text" true).lists _ hasValue (by simp [findings]), findings]
    decide +kernel
  · obtain ⟨line, unread, -⟩ := exit_is_verdict .standalone {} nonempty "/s" defaultCeiling
    have unstated (value : Json) : ¬StatesValue {} "/s" value := by
      rintro ⟨reading, -, -⟩
      have missing : ({} : FileTree).read "/" "/s" = .error .notFound := by
        rw [FileTree.read, FileTree.parts, splitOn_schemaPath]
        decide +kernel
      cases missing.symm.trans reading
    rw [line _ "text" false (by rfl)]
    have unusable (findings : Json → List Finding) (after : World)
        : ¬HasSchema .standalone {} "/s" findings after := by
      rintro ⟨states, -⟩
      exact unstated _ states
    obtain ⟨exit, -, silent⟩ := unread unusable _ "text" false
    exact ⟨exit, silent fun value states => absurd states (unstated value)⟩

end TaggedConfig.CommandLine
