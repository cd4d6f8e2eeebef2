import TaggedConfig.Proofs.CommandLine.Verdict
import TaggedConfig.Proofs.Expansion.Inline
import TaggedConfig.Proofs.Source.Dispatch
import TaggedConfig.Proofs.World.FileTree

/-! Expansions that are written to a file.
Main statement: either the whole of what would have been printed is written or no file changes. The
file is written after everything has been read, so it may be the source itself or what that refers
to.
-/

namespace TaggedConfig.CommandLine

open Run
open World (Yields)

/-- With a new token the source is fetched and its tags are expanded to the bytes. -/
inductive HasExpansion (world : World) (source : String) (ceiling : UInt64) : Bytes → Prop where
  | intro {raw expanded : Bytes} {fetched after : World}
    (fetching : Yields (Chain.builtin.load {} source) world.renewed raw fetched)
    (expanding
      : Yields (Expander.expand { chain := Chain.builtin, ceiling } raw) fetched expanded after)
    : HasExpansion world source ceiling expanded

/-- Nothing is printed and nothing is left but traces. -/
structure ChangesNothing (world : World) (ran : Report × World) : Prop where
  exit : ran.1.exit = 2
  output : ran.1.output = []
  after : ∃ traces, ran.2 = world.leaving traces

/-- Nothing is printed, and nothing is left but traces and the content under the path. -/
structure WritesOutput (world : World) (path : String) (content : Bytes)
    (ran : Report × World)
    : Prop where
  exit : ran.1.exit = 0
  output : ran.1.output = []
  after
    : ∃ traces files,
        ran.2 = { world.leaving traces with files }
        ∧ world.files.Written files world.workingDirectory path content

/-- What prints content, or writes it under a path, reports and leaves. -/
def deliver (world : World) (output : Option String) (content : Bytes)
    : Report × World :=
  match output with
  | none => ({ exit := 0, output := content }, world)
  | some path =>
      match world.files.write world.workingDirectory path content with
      | .ok files => (.complaining 0 s!"{passMark}Wrote to {path}\n", { world with files })
      | .error fault => (.unwritten fault, world)

/-- What is given of an expanded source. -/
def givenContent (keepComments : Bool) (expanded : Bytes) : Bytes :=
  if keepComments then expanded else Comment.blank expanded

section

variable {engine : SchemaEngine (StateM World)} {world : World} {source : String}
  {ceiling : UInt64} {keepComments : Bool} {line : List String}

-----------------------------------------------------------------------------------------
-- Expansions
-----------------------------------------------------------------------------------------

theorem hasExpansion_iff (arguments : List String) {expanded : Bytes}
    : HasExpansion world source ceiling expanded
      ↔ (outcome ((loaderOf arguments source ceiling).expandSource source) world.renewed).1
        = .ok expanded := by
  rw [fst_expandSource_eq_ok arguments]
  constructor
  · rintro ⟨fetching, expanding⟩
    exact ⟨_, _, _, fetching, expanding⟩
  · rintro ⟨raw, fetched, after, fetching, expanding⟩
    exact ⟨fetching, expanding⟩

theorem HasExpansion.unique {expanded expanded' : Bytes}
    (has : HasExpansion world source ceiling expanded)
    (has' : HasExpansion world source ceiling expanded')
    : expanded' = expanded :=
  Except.ok.inj (((hasExpansion_iff []).mp has').symm.trans ((hasExpansion_iff []).mp has))

/-- A source that is not empty is expanded as it stands, and that leaves traces only. -/
theorem outcome_expandSource (nonempty : source ≠ "") (arguments : List String)
    (ceiling : UInt64) (world : World)
    : ∃ result traces,
        outcome
            ((loaderOf arguments source ceiling).resolveSource
              >>= (loaderOf arguments source ceiling).expandSource) world.renewed
          = (result, world.leaving traces)
        ∧ ∀ expanded, result = .ok expanded ↔ HasExpansion world source ceiling expanded := by
  rw [resolveSource_explicit rfl nonempty]
  simp only [bind_assoc, pure_bind]
  obtain ⟨result, traces, -, runs⟩ :=
    (LeavesTraces.log .debug s!"Using explicit source '{Descriptor.redact source}'").bind
      (fun _ => leavesTraces_expandSource arguments source ceiling) world.renewed
  have ran := runs _ (.refl world.renewed)
  refine ⟨result, traces, ran, fun expanded => ?_⟩
  rw [hasExpansion_iff arguments, ← fst_expandSource_logged arguments
    (world.log ++ [(.debug, s!"Using explicit source '{Descriptor.redact source}'")])]
  have fst := congrArg Prod.fst ran
  rw [outcome_bind] at fst
  exact ⟨fun known => fst.trans known, fun known => fst.symm.trans known⟩

-----------------------------------------------------------------------------------------
-- Reports
-----------------------------------------------------------------------------------------

/-- Content that is to be written is delivered. -/
theorem run_write (world : World) (path : String) (content : Bytes)
    : (do
          match ← Host.writeFile path content with
          | .ok () => pure (.complaining 0 s!"{passMark}Wrote to {path}\n")
          | .error fault => pure (.unwritten fault)
          : StateM World Report).run world
      = deliver world (some path) content := by
  have wrote
      : (Host.writeFile path content : StateM World _).run world
        = world.writeFile path content := rfl
  rw [StateT.run_bind, wrote, World.writeFile, deliver]
  cases world.files.write world.workingDirectory path content <;> rfl

/-- The command reports that there is no expansion, or prints or writes it. -/
theorem runIn_expand (nonempty : source ≠ "") {output : Option String}
    (asks : Invocation.ofArguments line = .run (.expand source ceiling keepComments output))
    : ∃ traces,
        ((∀ expanded, ¬HasExpansion world source ceiling expanded)
          ∧ ∃ text, runIn engine world line = (.complaining 2 text, world.leaving traces))
        ∨ ∃ expanded,
            HasExpansion world source ceiling expanded
            ∧ runIn engine world line
              = deliver (world.leaving traces) output (givenContent keepComments expanded) := by
  obtain ⟨result, traces, ran, known⟩ := outcome_expandSource nonempty line ceiling world
  unfold outcome at ran
  refine ⟨traces, ?_⟩
  rw [runIn, run, asks]
  dsimp only
  rw [runExpand, run_newLoader, StateT.run_bind, ran]
  cases result with
  | error error =>
      have absent (expanded : Bytes) : ¬HasExpansion world source ceiling expanded := by
        intro has
        cases (known expanded).mpr has
      exact .inl ⟨absent, _, rfl⟩
  | ok expanded =>
      refine .inr ⟨expanded, (known expanded).mp rfl, ?_⟩
      cases output with
      | none => rfl
      | some path => exact run_write (world.leaving traces) path _

/-- Without a path the expansion is printed. -/
theorem runIn_printing (nonempty : source ≠ "")
    (asks : Invocation.ofArguments line = .run (.expand source ceiling keepComments none))
    {expanded : Bytes} (has : HasExpansion world source ceiling expanded)
    : (runIn engine world line).1
      = { exit := 0, output := givenContent keepComments expanded } := by
  obtain ⟨traces, ⟨absent, -⟩ | ⟨expanded', has', ran⟩⟩ := runIn_expand nonempty asks
  · exact absurd has (absent expanded)
  · rw [ran, has.unique has']
    rfl

/-- Content is written under a path and nothing else changes, or nothing changes at all. -/
theorem deliver_some (traces : Traces) (path : String) (content : Bytes)
    : (world.files.Addressed world.workingDirectory path
        ∧ WritesOutput world path content (deliver (world.leaving traces) (some path) content))
      ∨ ¬world.files.Addressed world.workingDirectory path
        ∧ ChangesNothing world (deliver (world.leaving traces) (some path) content) := by
  have delivered
      : deliver (world.leaving traces) (some path) content
        = match world.files.write world.workingDirectory path content with
          | .ok files =>
              (.complaining 0 s!"{passMark}Wrote to {path}\n",
                { world.leaving traces with files })
          | .error fault => (.unwritten fault, world.leaving traces) := rfl
  rw [delivered]
  cases wrote : world.files.write world.workingDirectory path content with
  | ok files =>
      exact .inl ⟨FileTree.addressed_iff.mpr ⟨files, wrote⟩, rfl, rfl, traces, files, rfl,
        FileTree.written_of_write wrote⟩
  | error fault =>
      refine .inr ⟨fun addressed => ?_, rfl, rfl, traces, rfl⟩
      obtain ⟨files, written⟩ := FileTree.addressed_iff.mp addressed
      cases wrote.symm.trans written

end

/-- An expansion that is to be written is written as a whole or not at all. Without an expansion
nothing changes, nor where the command does not succeed. Where it does, the path has afterwards
what the command prints that has no path, nothing is printed, and nothing else has changed. It
succeeds if there is an expansion and a file can be written under the path. As a tree has no links,
devices or permissions, a path leads to one file at most and what that holds can be replaced.
-/
theorem output_all_or_nothing (engine : SchemaEngine (StateM World)) (world : World)
    {source : String} (nonempty : source ≠ "") {ceiling : UInt64} {keepComments : Bool}
    {path : String} {line : List String}
    (asks
      : Invocation.ofArguments line = .run (.expand source ceiling keepComments (some path)))
    : ((∀ expanded, ¬HasExpansion world source ceiling expanded) →
          ChangesNothing world (runIn engine world line))
      ∧ ((runIn engine world line).1.exit ≠ 0 → ChangesNothing world (runIn engine world line))
      ∧ ((runIn engine world line).1.exit = 0 →
          ∀ alone,
            Invocation.ofArguments alone = .run (.expand source ceiling keepComments none) →
              (runIn engine world alone).1.exit = 0
              ∧ WritesOutput world path (runIn engine world alone).1.output
                  (runIn engine world line))
      ∧ ((runIn engine world line).1.exit = 0
          ↔ (∃ expanded, HasExpansion world source ceiling expanded)
            ∧ world.files.Addressed world.workingDirectory path) := by
  obtain ⟨traces, ⟨absent, text, ran⟩ | ⟨expanded, has, ran⟩⟩ := runIn_expand nonempty asks
  · have changes : ChangesNothing world (runIn engine world line) := by
      rw [ran]
      exact ⟨rfl, rfl, traces, rfl⟩
    have failed : (runIn engine world line).1.exit ≠ 0 := by simp [changes.exit]
    exact ⟨fun _ => changes, fun _ => changes, fun exit => absurd exit failed,
      iff_of_false failed fun ⟨⟨expanded, has⟩, _⟩ => absent expanded has⟩
  · rw [ran]
    rcases deliver_some traces path (givenContent keepComments expanded) with
      ⟨addressed, writes⟩ | ⟨unaddressed, changes⟩
    · refine ⟨fun absent => absurd has (absent expanded), fun failed => absurd writes.exit failed,
        fun _ alone asksAlone => ?_, iff_of_true writes.exit ⟨⟨expanded, has⟩, addressed⟩⟩
      rw [runIn_printing nonempty asksAlone has]
      exact ⟨rfl, writes⟩
    · have failed
          : (deliver (world.leaving traces) (some path)
                (givenContent keepComments expanded)).1.exit ≠ 0 := by
        simp [changes.exit]
      exact ⟨fun _ => changes, fun _ => changes, fun exit => absurd exit failed,
        iff_of_false failed fun ⟨_, addressed⟩ => unaddressed addressed⟩

/-- A file source has the content that is read under its path. -/
theorem yields_file {world : World} {path : String} {content : Bytes}
    (owned : Descriptor.scheme path = .file) (plain : Descriptor.filePath path = path)
    (rooted : isAbsolutePath path = true) (running : world.cancelled = false)
    (reading : world.files.read world.workingDirectory path = .ok content)
    : ∃ log, Yields (Chain.builtin.load {} path) world content { world with log } := by
  have asked : Yields Action.checkCancelled world () world := by
    have asked
        : Yields (ExceptT.lift Host.isCancelled : Action (StateM World) Bool) world false world :=
      congrArg (fun cancelled => (Except.ok cancelled, world)) running
    exact asked.bind (.pure world ())
  have read : Yields (readFileSource path) world content world := by
    obtain ⟨result, ran, known⟩ := outcome_readFileSource world path
    rw [(known content).mpr reading] at ran
    exact ran
  have probed
      : Yields ((SourceLoader.ofScheme .file : SourceLoader (StateM World)).load {} path) world
          (.loaded content) world := by
    change Yields (Context.resolvePath {} (Descriptor.filePath path) >>= _) _ _ _
    rw [plain, Context.resolvePath, if_pos rooted, pure_bind]
    exact read.map _
  rw [Chain.arranged_builtin.load_eq, owned]
  exact ⟨_, asked.bind ((probed.adapt _).bind ((Yields.log world _ _).bind (.pure _ content)))⟩

/-- The tag of a source is replaced by the content of the source, if no tags are in either. -/
theorem replacement_yields {expander : Expander (StateM World)} {depth : UInt64}
    {raw content : Bytes} {world after : World} (below : depth < expander.ceiling)
    (name
      : (Segmentation.ofBytes raw).segments = [] ∧ (Segmentation.ofBytes raw).unclosed = false)
    (found
      : (Segmentation.ofBytes content).segments = []
        ∧ (Segmentation.ofBytes content).unclosed = false)
    (loading
      : Yields (expander.chain.load expander.context (Utf8.repair raw))
          { world with
            log :=
              world.log
              ++ [(.trace,
                Expander.announcement .source (Descriptor.redact (Utf8.repair raw)) depth)] }
          content after)
    : Yields (expander.replacement depth .source raw) world content after := by
  rw [Expander.replacement_eq_resolve _ _ _ (next_fits below),
    expander.expand_noTags (next_le below) name.1 name.2, pure_bind, Expander.resolve, bind_assoc]
  refine .bind (.log _ _ _) (.bind loading ?_)
  rw [expander.expand_noTags (next_le below) found.1 found.2]
  exact .pure _ _

/-- A world in which one file refers to another, with log records. -/
def referringWorld (log : List (Level × String)) : World where
  files := { items := [(["f"], .file (ascii "[$\x7bSRC:/g\x7d]")), (["g"], .file (ascii "1"))] }
  log

/-- The reference is replaced by the content of the file. -/
theorem hasExpansion_referring
    : HasExpansion (referringWorld []) "/f" defaultCeiling (ascii "[1]") := by
  obtain ⟨log, fetching⟩
      : ∃ log,
          Yields (Chain.builtin.load {} "/f") (referringWorld []) (ascii "[$\x7bSRC:/g\x7d]")
            (referringWorld log) :=
    yields_file (by decide +kernel) (by decide +kernel) (by decide +kernel) rfl (by cbv)
  let expander : Expander (StateM World) := { chain := Chain.builtin }
  have below : 0 < expander.ceiling := by decide
  have name : Utf8.repair (ascii "/g") = "/g" := by decide +kernel
  obtain ⟨later, loading⟩
      : ∃ later,
          Yields (Chain.builtin.load {} "/g")
            (referringWorld
              (log ++ [(.trace, Expander.announcement .source (Descriptor.redact "/g") 0)]))
            (ascii "1") (referringWorld later) :=
    yields_file (by decide +kernel) (by decide +kernel) (by decide +kernel) rfl (by cbv)
  have replaced
      : Yields (expander.replacement 0 .source (ascii "/g")) (referringWorld log) (ascii "1")
          (referringWorld later) :=
    replacement_yields below (by decide +kernel) (by decide +kernel) (by rw [name]; exact loading)
  have segmentation
      : Segmentation.ofBytes (ascii "[$\x7bSRC:/g\x7d]")
        = ⟨[⟨ascii "[", .source, ascii "/g"⟩], ascii "]", false⟩ := by
    cbv
  have expanding
      : Yields (expander.expand (ascii "[$\x7bSRC:/g\x7d]")) (referringWorld log) (ascii "[1]")
          (referringWorld later) := by
    rw [Expander.expand_eq_assemble _ _ (UInt64.le_of_lt below), segmentation,
      Segmentation.assemble, Segmentation.assembleAfter, List.mapM_cons, List.mapM_nil]
    exact .bind (.bind (.bind replaced (.pure _ _)) (.bind (.pure _ _) (.pure _ _))) (.pure _ _)
  exact ⟨fetching, expanding⟩

/-- The file that is referred to is written as a whole, and no other one changes. -/
theorem output_all_or_nothing_referring
    : (runIn .standalone (referringWorld []) ["expand", "--output", "/g", "/f"]).1.exit = 0
      ∧ WritesOutput (referringWorld []) "/g" (ascii "[1]")
          (runIn .standalone (referringWorld []) ["expand", "--output", "/g", "/f"]) := by
  have nonempty : "/f" ≠ "" := by decide
  have asks
      : Invocation.ofArguments ["expand", "--output", "/g", "/f"]
        = .run (.expand "/f" defaultCeiling false (some "/g")) := by
    rfl
  have asksAlone
      : Invocation.ofArguments ["expand", "/f"]
        = .run (.expand "/f" defaultCeiling false none) := by
    rfl
  have addressed : (referringWorld []).files.Addressed "/" "/g" :=
    ⟨[], "g", {
      valid := by decide +kernel
      unslashed := by decide +kernel
      last := by cbv
      leads := by cbv
      within := rfl
      plain := by decide
      fits := by decide
      free := by decide
    }⟩
  obtain ⟨-, -, writes, succeeds⟩ :=
    output_all_or_nothing .standalone (referringWorld []) nonempty asks
  have exit := succeeds.mpr ⟨⟨_, hasExpansion_referring⟩, addressed⟩
  obtain ⟨-, written⟩ := writes exit _ asksAlone
  rw [runIn_printing nonempty asksAlone hasExpansion_referring] at written
  exact ⟨exit, written⟩

end TaggedConfig.CommandLine
