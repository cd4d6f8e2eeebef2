import TaggedConfig.CommandLine.Run
import TaggedConfig.Proofs.Loader.EntryPoints
import TaggedConfig.Proofs.Loader.Relation
import TaggedConfig.Proofs.Source.Traces
import TaggedConfig.Schema.Document

/-! The commands agree with the loader and with each other.
Expanding a source prints what loading its bytes gives. Checking many sources does for each of
them what checking it alone does, since each has a token of its own and earlier loads leave traces
only.
-/

namespace TaggedConfig.CommandLine

open Outcome
open Run

-----------------------------------------------------------------------------------------
-- Command lines
-----------------------------------------------------------------------------------------

/-- Arguments that do not look like options are taken in order, by induction on them. -/
theorem take?_positional (specs : List OptionSpec) {arguments : List String}
    (plain : ∀ argument ∈ arguments, looksLikeOption argument = false) (given : Given)
    : take? specs given none arguments = some (given.addPositional arguments) := by
  induction arguments generalizing given with
  | nil => simp [take?, Given.addPositional]
  | cons argument arguments ih =>
      rw [List.forall_mem_cons, looksLikeOption] at plain
      have noDashes : argument ≠ "--" := by
        rintro rfl
        exact absurd plain.1 (by decide)
      have joined
          : (given.addPositional [argument]).addPositional arguments
            = given.addPositional (argument :: arguments) := by
        simp [Given.addPositional]
      rw [← joined, ← ih plain.2, take?, if_neg noDashes]
      split at plain
      · exact absurd plain.1 (by decide)
      · rename_i short
        split <;> simp_all

/-- A source that does not look like an option can be expanded. -/
theorem ofArguments_expand {source : String} (plain : looksLikeOption source = false)
    : Invocation.ofArguments ["expand", source]
      = .run (.expand source defaultCeiling false none) := by
  have taken (specs : List OptionSpec)
      : take? specs {} none [source] = some (Given.addPositional {} [source]) :=
    take?_positional specs (List.forall_mem_singleton.mpr plain) {}
  simp [Invocation.ofArguments, expand?, taken, Given.addPositional, single?, givenCeiling?,
    givenPath?, Given.value?, Given.has]

theorem ofArguments_check {sources : List String} (present : sources ≠ [])
    (plain : ∀ source ∈ sources, looksLikeOption source = false)
    : Invocation.ofArguments ("check" :: sources) = .run (.check sources) := by
  simp [Invocation.ofArguments, check?, take?_positional [] plain, Given.addPositional,
    present]

/-- After two dashes any source can be expanded. -/
theorem ofArguments_expand_dashes (source : String)
    : Invocation.ofArguments ["expand", "--", source]
      = .run (.expand source defaultCeiling false none) := by
  rfl

theorem ofArguments_check_dashes {sources : List String} (present : sources ≠ [])
    : Invocation.ofArguments ("check" :: "--" :: sources) = .run (.check sources) := by
  simp [Invocation.ofArguments, check?, take?, Given.addPositional, present]

-----------------------------------------------------------------------------------------
-- The loads of the commands
-----------------------------------------------------------------------------------------

section

variable {σ : Type} [Host (StateM σ)]

/-- A loader of a source with default options. -/
def sourceLoader (source : String) : Loader (StateM σ) where
  options := { source := some source }

/-- An explicit source is not looked for elsewhere. -/
theorem resolveSource_explicit {loader : Loader (StateM σ)} {source : String}
    (explicit : loader.options.source = some source) (nonempty : source ≠ "")
    : loader.resolveSource
      = (do
          .log .debug s!"Using explicit source '{Descriptor.redact source}'"
          pure source) := by
  have given : loader.options.source.filter (! ·.isEmpty) = some source := by
    simp [explicit, nonempty]
  rw [Loader.resolveSource, given]

/-- The command line does not matter to the loads of a source that is not empty. -/
theorem prepare_loaderOf (arguments : List String) {source : String} (nonempty : source ≠ "")
    : (loaderOf arguments source defaultCeiling : Loader (StateM σ)).prepare
      = (sourceLoader source).prepare := by
  rw [Loader.prepare, Loader.prepare, resolveSource_explicit rfl nonempty,
    resolveSource_explicit rfl nonempty]
  rfl

/-- What is reported of the bytes of a source. -/
def expandReport : Except LoadError Bytes → Report
  | .ok content => { exit := 0, output := content }
  | .error error => .complaining 2 (failMark ++ error.message ++ "\n")

/-- What is reported of the value of a source. -/
def checkReport (source : String) : Except LoadError Json → Report
  | .ok _ => .printing 0 s!"{passMark}{source}: valid JSON\n"
  | .error error => .complaining 1 s!"{failMark}{source}: {error.message}\n"

/-- Loaders that prepare the same document load the same value. -/
theorem loadValue_eq {loader other : Loader (StateM σ)} (same : loader.prepare = other.prepare)
    (s : σ)
    : (loader.loadValue.run s).1.1 = (other.loadValue.run s).1.1
      ∧ (loader.loadValue.run s).2 = (other.loadValue.run s).2 := by
  simp only [Loader.loadValue, Loader.load, Loader.run_loadValidated, Loader.fst_record, same,
    and_self]

theorem exit_expandReport (loaded : Except LoadError Bytes)
    : ((expandReport loaded).exit = 0 ↔ ∃ content, loaded = .ok content)
      ∧ (∀ content, loaded = .ok content → (expandReport loaded).output = content)
      ∧ ((expandReport loaded).exit ≠ 0 →
          (expandReport loaded).exit = 2 ∧ (expandReport loaded).output = []) := by
  cases loaded with
  | ok content => simp [expandReport]
  | error error => simp [expandReport, Report.complaining]

theorem exit_checkReport (source : String) (loaded : Except LoadError Json)
    : ((checkReport source loaded).exit = 0 ↔ ∃ value, loaded = .ok value) := by
  cases loaded <;> simp [checkReport, Report.printing, Report.complaining]

theorem exit_checkReport_cases (source : String) (loaded : Except LoadError Json)
    : (checkReport source loaded).exit = 0 ∨ (checkReport source loaded).exit = 1 := by
  cases loaded with
  | ok value => exact .inl rfl
  | error error => exact .inr rfl

/-- A source has a value if its bytes are JSON. -/
theorem loadValue_ok_iff (loader : Loader (StateM σ)) (s : σ)
    : (∃ value, (loader.loadValue.run s).1.1 = .ok value)
      ↔ ∃ content,
          (loader.loadBytes.run s).1.1 = .ok content
          ∧ ∃ value, Json.decodeText content = .ok value := by
  obtain ⟨failing, loading⟩ :=
    loader.loadValidated_of_loadBytes Json.decodeText (fun _ => pure ()) s
  cases loaded : (loader.loadBytes.run s).1.1 with
  | error error =>
      refine iff_of_false ?_ nofun
      rintro ⟨value, given⟩
      cases (failing error loaded).symm.trans given
  | ok content =>
      obtain ⟨source, -, settled⟩ := loading content loaded
      have value : (loader.loadValue.run s).1.1 = _ := settled
      rw [value, Loader.settingsOf]
      cases decoded : Json.decodeText content <;> simp [decoded]

end

-----------------------------------------------------------------------------------------
-- Runs of the commands
-----------------------------------------------------------------------------------------

section

variable {line : List String} {source : String}

/-- A command goes on with its loader in the world with a new token. -/
theorem run_newLoader {α : Type} (line : List String) (source : String) (ceiling : UInt64)
    (next : Loader (StateM World) → StateM World α) (world : World)
    : (newLoader line source ceiling >>= next).run world
      = (next (loaderOf line source ceiling)).run world.renewed :=
  rfl

/-- Expanding a source is to load its bytes with a new token. -/
theorem run_expand (engine : SchemaEngine (StateM World)) (nonempty : source ≠ "")
    (asks : Invocation.ofArguments line = .run (.expand source defaultCeiling false none))
    (world : World)
    : (run engine line : StateM World Report).run world
      = (expandReport ((sourceLoader source).loadBytes.run world.renewed).1.1,
        ((sourceLoader source).loadBytes.run world.renewed).2) := by
  have unchecked : (sourceLoader source : Loader (StateM World)).check = none := rfl
  obtain ⟨loaded, after⟩ := Loader.loadBytes_unchecked unchecked world.renewed
  have expanded
      : (loaderOf line source defaultCeiling).resolveSource
          >>= (loaderOf line source defaultCeiling).expandSource
        = (sourceLoader source).resolveSource
          >>= ((sourceLoader source).expandSource : String → Action (StateM World) Bytes) := by
    rw [resolveSource_explicit rfl nonempty, resolveSource_explicit rfl nonempty]
    rfl
  rw [run, asks]
  dsimp only
  rw [runExpand, run_newLoader, expanded, StateT.run_bind, loaded, after]
  unfold outcome
  rcases ((sourceLoader source).resolveSource >>= (sourceLoader source).expandSource).run.run
    world.renewed with ⟨error | content, t⟩ <;> rfl

/-- Checking a source is to load its value with a new token. -/
theorem run_checkOne (line : List String) (nonempty : source ≠ "") (world : World)
    : (checkOne line source : StateM World Report).run world
      = (checkReport source ((sourceLoader source).loadValue.run world.renewed).1.1,
        ((sourceLoader source).loadValue.run world.renewed).2) := by
  obtain ⟨sameResult, sameState⟩ := loadValue_eq (prepare_loaderOf line nonempty) world.renewed
  rw [checkOne, run_newLoader, StateT.run_bind, ← sameResult, ← sameState]
  rcases (loaderOf line source defaultCeiling : Loader (StateM World)).loadValue.run world.renewed
    with ⟨⟨error | value, _⟩, t⟩ <;> rfl

end

-----------------------------------------------------------------------------------------
-- Checks leave traces only
-----------------------------------------------------------------------------------------

/-- The document of a source is put together from loads through the built-in chain. -/
theorem document_related
    {Rel : ∀ {α : Type}, Action (StateM World) α → Action (StateM World) α → Prop}
    (compositional : Compositional @Rel)
    (loaded
      : ∀ context descriptor,
          Rel (Chain.builtin.load context descriptor) (Chain.builtin.load context descriptor))
    (looked : ∀ name, Rel (ExceptT.lift (Host.lookup name)) (ExceptT.lift (Host.lookup name)))
    (logged : ∀ level text, Rel (Action.log level text) (Action.log level text))
    (source : String)
    : Rel (sourceLoader source).document (sourceLoader source).document := by
  refine compositional.bind (compositional.resolveSource rfl rfl looked logged) fun found => ?_
  refine compositional.bind ?_ fun expanded => compositional.pure _
  exact compositional.expandSource rfl (loaded _) looked logged found

theorem leavesTraces_document (source : String) : LeavesTraces (sourceLoader source).document :=
  (document_related LeavesTraces.compositional
    (fun context descriptor => ⟨rfl, .builtin context descriptor⟩)
    (fun name => ⟨rfl, .lookup name⟩) (fun level text => ⟨rfl, .log level text⟩) source).2

/-- The value of a document that has been found. -/
def documentValue (found : Except Error (String × Bytes)) : Except LoadError Json := do
  let (source, data) ← found.mapError .failed
  Loader.settingsOf source Json.decodeText (fun _ => pure ()) data

theorem run_loadValue (source : String) (world : World)
    : ((sourceLoader source).loadValue.run world).1.1
        = documentValue (outcome (sourceLoader source).document world).1
      ∧ ((sourceLoader source).loadValue.run world).2
        = (outcome (sourceLoader source).document world).2 := by
  simp only [Loader.loadValue, Loader.load, Loader.run_loadValidated, Loader.fst_record]
  rw [Loader.outcome_prepare_unchecked rfl, documentValue]
  refine ⟨?_, rfl⟩
  cases (outcome (sourceLoader source).document world).1 with
  | error error => rfl
  | ok found =>
      simp only [Except.mapError, ok_bind]
      cases Loader.settingsOf found.1 Json.decodeText (fun _ => pure ()) found.2 <;> rfl

/-- A check of a source leaves traces only. What it reports and leaves does not depend on earlier
traces, nor on what has become of the tokens of earlier loads.
-/
theorem checkOne_leaves (line : List String) {source : String} (nonempty : source ≠ "")
    (world : World)
    : ∃ (report : Report) (traces : Traces),
        (report.exit = 0 ∨ report.exit = 1)
        ∧ ∀ other,
            world.renewed.SameButTraces other.renewed →
              (checkOne line source : StateM World Report).run other
                = (report, other.leaving traces) := by
  obtain ⟨result, traces, -, runs⟩ := leavesTraces_document source world.renewed
  refine ⟨checkReport source (documentValue result), traces, exit_checkReport_cases _ _,
    fun other same => ?_⟩
  obtain ⟨loaded, after⟩ := run_loadValue source other.renewed
  rw [run_checkOne line nonempty, loaded, after, runs _ same]
  rfl

-----------------------------------------------------------------------------------------
-- Checks of many sources
-----------------------------------------------------------------------------------------

theorem run_mapM_cons {σ α β : Type} (f : α → StateM σ β) (item : α) (items : List α) (s : σ)
    : ((item :: items).mapM f).run s
      = (((f item).run s).1 :: ((items.mapM f).run ((f item).run s).2).1,
        ((items.mapM f).run ((f item).run s).2).2) := by
  rw [List.mapM_cons]
  rfl

/-- Reports of sources that pass or fail make a report that passes if all do and fails else. -/
theorem exit_joinReports {reports : List Report}
    (settled : ∀ report ∈ reports, report.exit = 0 ∨ report.exit = 1)
    : (joinReports reports).exit = if ∀ report ∈ reports, report.exit = 0 then 0 else 1 := by
  have whole : ¬∃ report ∈ reports, report.exit = brokenExit := by
    rintro ⟨report, member, broken⟩
    rcases settled report member with exit | exit <;> rw [exit] at broken <;> contradiction
  simp [joinReports, whole]

/-- What a command line comes to in a world: its report and the world that it leaves. -/
def runIn (engine : SchemaEngine (StateM World)) (world : World) (line : List String)
    : Report × World :=
  (run engine line : StateM World Report).run world

/-- What checking a source by itself comes to. -/
def checkAlone (engine : SchemaEngine (StateM World)) (world : World) (source : String)
    : Report × World :=
  runIn engine world ["check", "--", source]

/-- What expanding a source comes to. -/
def expandAlone (engine : SchemaEngine (StateM World)) (world : World) (source : String)
    : Report × World :=
  runIn engine world ["expand", "--", source]

section

variable {engine : SchemaEngine (StateM World)} {line : List String} {sources : List String}
  {world other : World}

/-- All sources are checked, since no check breaks off. By induction on them. -/
theorem run_checkEach (line : List String) (nonempty : ∀ source ∈ sources, source ≠ "")
    (world : World)
    : (checkEach line sources : StateM World (List Report)).run world
      = (sources.mapM (checkOne line) : StateM World (List Report)).run world := by
  induction sources generalizing world with
  | nil => rfl
  | cons source sources ih =>
      rw [List.forall_mem_cons] at nonempty
      obtain ⟨report, traces, settled, runs⟩ := checkOne_leaves line nonempty.1 world
      have whole : report.exit ≠ brokenExit := by
        rcases settled with exit | exit <;> rw [exit] <;> decide
      rw [run_mapM_cons, checkEach, StateT.run_bind, runs world (.refl _), ← ih nonempty.2]
      change (if report.exit = brokenExit then pure [report] else do
          let others ← checkEach line sources
          pure (report :: others) : StateM World (List Report)).run _ = _
      rw [if_neg whole]
      rfl

/-- Many sources are checked one after the other. -/
theorem runIn_check (engine : SchemaEngine (StateM World))
    (asks : Invocation.ofArguments line = .run (.check sources))
    (nonempty : ∀ source ∈ sources, source ≠ "")
    : runIn engine world line
      = (joinReports ((sources.mapM (checkOne line) : StateM World (List Report)).run world).1,
          ((sources.mapM (checkOne line) : StateM World (List Report)).run world).2) := by
  rw [← run_checkEach line nonempty, runIn, run, asks]
  rfl

/-- The command line does not matter to a check of a source that is not empty. -/
theorem checkAlone_eq (line : List String) {source : String} (nonempty : source ≠ "")
    : checkAlone engine world source
      = (checkOne line source : StateM World Report).run world := by
  obtain ⟨report, traces, settled, runs⟩ := checkOne_leaves line nonempty world
  have joined : joinReports [report] = report := by
    have exit := exit_joinReports (List.forall_mem_singleton.mpr settled)
    obtain ⟨_, output, errors⟩ := report
    rcases settled with rfl | rfl <;> simpa [joinReports] using exit
  have others
      : (checkOne ["check", "--", source] source : StateM World Report)
        = checkOne line source := by
    funext world
    exact (run_checkOne _ nonempty world).trans (run_checkOne line nonempty world).symm
  rw [checkAlone, runIn_check engine (ofArguments_check_dashes (List.cons_ne_nil source []))
      (List.forall_mem_singleton.mpr nonempty), run_mapM_cons, others, runs world (.refl _)]
  exact congrArg (Prod.mk · _) joined

/-- A check of many sources is one check after the other, whatever those before it came to. By
induction on the sources.
-/
theorem checks_inOrder (engine : SchemaEngine (StateM World))
    (nonempty : ∀ source ∈ sources, source ≠ "")
    : (sources.mapM (checkOne line) : StateM World (List Report)).run world
      = (sources.mapM fun source => run engine ["check", "--", source]
          : StateM World (List Report)).run world := by
  induction sources generalizing world with
  | nil => rfl
  | cons source sources ih =>
      rw [List.forall_mem_cons] at nonempty
      rw [run_mapM_cons, run_mapM_cons, ih nonempty.2]
      have alone : checkAlone engine world source = _ := checkAlone_eq line nonempty.1
      rw [← alone]
      rfl

/-- The sources are reported as each is by itself, and they leave the requests and log records that
each leaves by itself. By induction on the sources.
-/
theorem checks_alone (engine : SchemaEngine (StateM World)) (line : List String)
    (nonempty : ∀ source ∈ sources, source ≠ "")
    (same : world.renewed.SameButTraces other.renewed)
    : ∃ cancelled,
        (sources.mapM (checkOne line) : StateM World (List Report)).run other
        = (sources.map fun source => (checkAlone engine world source).1,
            other.leaving {
              cancelled
              requests := sources.flatMap fun source =>
                (checkAlone engine world source).2.requests.drop world.requests.length
              log := sources.flatMap fun source =>
                (checkAlone engine world source).2.log.drop world.log.length
            }) := by
  induction sources generalizing other with
  | nil => exact ⟨other.cancelled, congrArg (Prod.mk []) (by simp [World.leaving])⟩
  | cons source sources ih =>
      rw [List.forall_mem_cons] at nonempty
      obtain ⟨report, traces, -, runs⟩ := checkOne_leaves line nonempty.1 world
      have alone : checkAlone engine world source = (report, world.leaving traces) :=
        (checkAlone_eq line nonempty.1).trans (runs world (.refl _))
      obtain ⟨cancelled, rest⟩ := ih nonempty.2 (same.renewed traces)
      refine ⟨cancelled, ?_⟩
      rw [run_mapM_cons, runs other same, rest, World.leaving_leaving]
      simp [alone, Traces.append, World.leaving]

/-- A report that is made alone passes or fails. -/
theorem exit_checkAlone (engine : SchemaEngine (StateM World)) (world : World) {source : String}
    (nonempty : source ≠ "")
    : (checkAlone engine world source).1.exit = 0
      ∨ (checkAlone engine world source).1.exit = 1 := by
  obtain ⟨report, traces, settled, runs⟩ := checkOne_leaves [] nonempty world
  rwa [checkAlone_eq [] nonempty, runs world (.refl _)]

/-- A source passes if it can be expanded to a text that is JSON. -/
theorem checkAlone_pass_iff {source : String} (nonempty : source ≠ "")
    : (checkAlone engine world source).1.exit = 0
      ↔ (expandAlone engine world source).1.exit = 0
        ∧ ∃ value, Json.decodeText (expandAlone engine world source).1.output = .ok value := by
  have expanded : (expandAlone engine world source).1
      = expandReport ((sourceLoader source).loadBytes.run world.renewed).1.1 :=
    congrArg Prod.fst (run_expand engine nonempty (ofArguments_expand_dashes source) world)
  obtain ⟨passes, gives, -⟩ :=
    exit_expandReport ((sourceLoader source).loadBytes.run world.renewed).1.1
  rw [checkAlone_eq [] nonempty, run_checkOne [] nonempty, exit_checkReport, loadValue_ok_iff,
    expanded, passes]
  constructor
  · rintro ⟨content, loaded, decoded⟩
    exact ⟨⟨content, loaded⟩, by rwa [gives content loaded]⟩
  · rintro ⟨⟨content, loaded⟩, decoded⟩
    exact ⟨content, loaded, by rwa [gives content loaded] at decoded⟩

end

/-- Expanding a source succeeds if its bytes can be loaded, with a token that is not cancelled, and
then prints them. A check of many sources checks one after the other, and passes if each can be
expanded to JSON by itself. It reports each source as by itself, and leaves nothing but the
requests and log records that each leaves by itself.
-/
theorem commands_agree (engine : SchemaEngine (StateM World)) (world : World)
    : (∀ line source,
        source ≠ "" →
        Invocation.ofArguments line = .run (.expand source defaultCeiling false none) →
          ((runIn engine world line).1.exit = 0
            ↔ ∃ content, ((sourceLoader source).loadBytes.run world.renewed).1.1 = .ok content)
          ∧ (∀ content,
              ((sourceLoader source).loadBytes.run world.renewed).1.1 = .ok content →
                (runIn engine world line).1.output = content)
          ∧ ((runIn engine world line).1.exit ≠ 0 →
              (runIn engine world line).1.exit = 2 ∧ (runIn engine world line).1.output = []))
      ∧ ∀ line (sources : List String),
          (∀ source ∈ sources, source ≠ "") →
          Invocation.ofArguments line = .run (.check sources) →
            runIn engine world line
              = (joinReports <$> sources.mapM fun source => run engine ["check", "--", source]
                  : StateM World Report).run world
            ∧ ((runIn engine world line).1.exit = 0
              ↔ ∀ source ∈ sources,
                  (expandAlone engine world source).1.exit = 0
                  ∧ ∃ value,
                      Json.decodeText (expandAlone engine world source).1.output = .ok value)
            ∧ ((runIn engine world line).1.exit ≠ 0 → (runIn engine world line).1.exit = 1)
            ∧ (runIn engine world line).1.output
              = sources.flatMap (fun source => (checkAlone engine world source).1.output)
            ∧ (runIn engine world line).1.errors
              = sources.flatMap (fun source => (checkAlone engine world source).1.errors)
            ∧ { (runIn engine world line).2 with cancelled := world.cancelled }
              = { world with
                  requests :=
                    world.requests ++ sources.flatMap fun source =>
                      (checkAlone engine world source).2.requests.drop world.requests.length
                  log :=
                    world.log ++ sources.flatMap fun source =>
                      (checkAlone engine world source).2.log.drop world.log.length } := by
  refine ⟨fun line source nonempty asks => ?_, fun line sources nonempty asks => ?_⟩
  · have reported := congrArg Prod.fst (run_expand engine nonempty asks world)
    rw [runIn, reported]
    exact exit_expandReport _
  · obtain ⟨cancelled, ran⟩ := checks_alone engine line nonempty (.refl world.renewed)
    have checked : runIn engine world line = _ := runIn_check engine asks nonempty
    have exit
        : (runIn engine world line).1.exit
          = if ∀ source ∈ sources, (checkAlone engine world source).1.exit = 0 then 0 else 1 := by
      rw [checked, ran, exit_joinReports]
      · simp only [List.forall_mem_map]
      · simpa only [List.forall_mem_map] using fun source given =>
          exit_checkAlone engine world (nonempty source given)
    refine ⟨?_, ?_, fun failed => ?_, ?_⟩
    · rw [checked, checks_inOrder engine nonempty]
      rfl
    · rw [exit, ite_eq_left_iff]
      simp only [one_ne_zero, imp_false, not_not]
      exact forall₂_congr fun source member => checkAlone_pass_iff (nonempty source member)
    · rw [exit] at failed ⊢
      exact if_neg fun passed => failed (if_pos passed)
    · rw [checked, ran]
      simp [joinReports, List.flatMap_map, World.leaving]

/-- A world in which a web server has an array that is not closed. -/
def openArrayWorld : World where
  network := { routes := [{ url := "http://h/a", body := ascii "[1" }] }

/-- Both sources can be expanded, but only the second of them to JSON, so their check fails. It
still reports the second as by itself, and the one request it sends is that for the first.
-/
theorem commands_agree_mixed
    : (runIn .standalone openArrayWorld ["expand", "data://[2]//"]).1.output = ascii "[2]  "
      ∧ (runIn .standalone openArrayWorld ["check", "http://h/a", "data://[2]//"]).1.exit = 1
      ∧ (runIn .standalone openArrayWorld ["check", "http://h/a", "data://[2]//"]).1.output
        = Utf8.encode "✓ data://[2]//: valid JSON\n"
      ∧ (runIn .standalone openArrayWorld ["check", "http://h/a", "data://[2]//"]).2.requests
        = [{ url := "http://h/a" }] := by
  have agree := commands_agree .standalone openArrayWorld
  obtain ⟨-, prints, -⟩ :=
    agree.1 ["expand", "data://[2]//"] _ (by decide) (ofArguments_expand (by decide))
  obtain ⟨-, passes, fails, output, -, left⟩ :=
    agree.2 ["check", "http://h/a", "data://[2]//"] _ (by decide)
      (ofArguments_check (by decide) (by decide))
  refine ⟨prints _ (by decide +kernel), fails fun passed => ?_, ?_, ?_⟩
  · obtain ⟨-, value, decoded⟩ := passes.mp passed "http://h/a" (by decide)
    have printed : (expandAlone .standalone openArrayWorld "http://h/a").1.output = ascii "[1" := by
      decide +kernel
    rw [printed] at decoded
    have refused : (Json.decodeText (ascii "[1")).toOption = none := by decide +kernel
    rw [decoded] at refused
    cases refused
  · rw [output]
    decide +kernel
  · refine (congrArg World.requests left).trans ?_
    decide +kernel

end TaggedConfig.CommandLine
