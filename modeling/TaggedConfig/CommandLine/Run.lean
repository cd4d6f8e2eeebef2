import TaggedConfig.CommandLine.Command
import TaggedConfig.Loader
import TaggedConfig.Schema.Source

/-! What the commands do and report.
A report is a value: the exit code and what is written to either stream. The output is written
by the commands themselves, since one that cannot be written changes the report.
-/

namespace TaggedConfig.CommandLine

/-- The exit code and the two output streams of a command. -/
structure Report where
  exit : Nat
  output : Bytes := []
  errors : Bytes := []
  deriving DecidableEq, Repr

def programName : String := "tagconf"

/-- What the program answers when asked for its version. -/
def versionText : String := programName ++ " 0.1.0\n"

/-- What the program answers to a command line that it does not understand, and as help. It stands
for texts that the parser of arguments words by itself.
-/
def usageText : String :=
  "Usage: " ++ programName ++ " <expand|validate|check> SOURCE... [OPTIONS]\n"

def passMark : String := "✓ "

def failMark : String := "✗ "

/-- The exit code of a program that breaks off since it cannot say what it has to say. -/
def brokenExit : Nat := 101

namespace Report

/-- A report that writes a text to the output. -/
def printing (exit : Nat) (text : String) : Report := { exit, output := Utf8.encode text }

/-- A report that writes a text to the errors. -/
def complaining (exit : Nat) (text : String) : Report := { exit, errors := Utf8.encode text }

/-- What is reported of an expansion that cannot be written. -/
def unwritten (fault : FileFault) : Report :=
  .complaining 2 s!"Error writing output: {fault.reason}\n"

/-- What is left of a report that cannot be written. -/
def broken (fault : FileFault) : Report :=
  .complaining brokenExit s!"failed printing to stdout: {fault.reason}\n"

end Report

/-- The loader of a source that a command names. The whole command line is searched when the
source is empty.
-/
def loaderOf {m : Type → Type} [Monad m] [Host m] (arguments : List String) (source : String)
    (ceiling : UInt64) : Loader m where
  options := { source := some source, ceiling }
  arguments := programName :: arguments

variable {m : Type → Type} [Monad m] [ProgramHost m]

/-- Writes the output of a report, or makes another report of the fault. -/
def Report.write (report : Report) (otherwise : FileFault → Report) : m Report := do
  match ← ProgramHost.print report.output with
  | .ok () => pure report
  | .error fault => pure (otherwise fault)

/-- Such a loader with a token of its own. -/
def newLoader (arguments : List String) (source : String) (ceiling : UInt64) : m (Loader m) := do
  ProgramHost.renewToken
  pure (loaderOf arguments source ceiling)

/-- Expands a source and writes it to the output or to a file. -/
def runExpand (arguments : List String) (source : String) (ceiling : UInt64)
    (keepComments : Bool) (output : Option String) : m Report := do
  let loader ← newLoader arguments source ceiling
  match ← (loader.resolveSource >>= loader.expandSource).run with
  | .error error =>
      pure (.complaining 2 (failMark ++ (LoadError.failed error).message ++ "\n"))
  | .ok expanded =>
      let content := if keepComments then expanded else Comment.blank expanded
      match output with
      | none => Report.write { exit := 0, output := content } .unwritten
      | some path =>
          match ← Host.writeFile path content with
          | .ok () => pure (.complaining 0 s!"{passMark}Wrote to {path}\n")
          | .error fault => pure (.unwritten fault)

def findingsJson (findings : List Finding) : Json :=
  .ofMembers [("valid", .bool false),
    ("errors", .array (findings.map fun finding =>
      .ofMembers [("location", .string finding.location),
        ("message", .string finding.message)]))]

/-- The report of a check by a schema. -/
def verdict (source format : String) (quiet : Bool) : Except LoadError Json → Report
  | .ok _ =>
      if quiet then { exit := 0 }
      else if format = "json" then
        .printing 0 ((Json.ofMembers [("valid", .bool true)]).text ++ "\n")
      else .printing 0 s!"{passMark}{source} is valid\n"
  | .error (.invalid findings) =>
      if format = "json" then .printing 1 ((findingsJson findings).indented ++ "\n")
      else
        .complaining 1 (failMark ++ "Validation failed\n\n"
          ++ String.join (findings.map fun finding => "  " ++ finding.text ++ "\n"))
  | .error error =>
      if format = "json" then
        let value :=
          Json.ofMembers [("valid", .bool false), ("error", .string error.message)]
        .printing 2 (value.indented ++ "\n")
      else .complaining 2 (failMark ++ error.message ++ "\n")

/-- Checks a source by the schema of a file. -/
def runValidate (engine : SchemaEngine m) (arguments : List String)
    (source schema format : String) (quiet : Bool) (ceiling : UInt64) : m Report := do
  match ← (CompiledSchema.ofFile engine schema).run with
  | .error error =>
      pure (.complaining 2 s!"{failMark}Failed to load schema {schema}: {error.message}\n")
  | .ok compiled =>
      let loader ← newLoader arguments source ceiling
      let (result, _) ← { loader with check := some compiled.findings }.loadValue
      (verdict source format quiet result).write .broken

/-- Whether a source is JSON, and the line that says so. -/
def checkOne (arguments : List String) (source : String) : m Report := do
  let (result, _) ← (← newLoader arguments source defaultCeiling).loadValue
  match result with
  | .ok _ => (Report.printing 0 s!"{passMark}{source}: valid JSON\n").write .broken
  | .error error => pure (.complaining 1 s!"{failMark}{source}: {error.message}\n")

/-- Checks sources one after the other, whatever becomes of each, unless the program breaks off. -/
def checkEach (arguments : List String) : List String → m (List Report)
  | [] => pure []
  | source :: sources => do
      let report ← checkOne arguments source
      if report.exit = brokenExit then pure [report]
      else pure (report :: (← checkEach arguments sources))

/-- Joins the reports of sources: any that fails makes the whole fail. -/
def joinReports (reports : List Report) : Report where
  exit :=
    if reports.any (·.exit = brokenExit) then brokenExit
    else if reports.all (·.exit = 0) then 0
    else 1
  output := reports.flatMap (·.output)
  errors := reports.flatMap (·.errors)

/-- Checks that sources are JSON. -/
def runCheck (arguments sources : List String) : m Report :=
  joinReports <$> checkEach arguments sources

/-- Carries out what a command line asks for. Neither the version nor help is missed if it cannot
be written.
-/
def run (engine : SchemaEngine m) (arguments : List String) : m Report :=
  match Invocation.ofArguments arguments with
  | .version => (Report.printing 0 versionText).write fun _ => { exit := 0 }
  | .help => (Report.printing 0 usageText).write fun _ => { exit := 0 }
  | .misuse => pure (.complaining 2 usageText)
  | .run (.expand source ceiling keepComments output) =>
      runExpand arguments source ceiling keepComments output
  | .run (.validate source schema format quiet ceiling) =>
      runValidate engine arguments source schema format quiet ceiling
  | .run (.check sources) => runCheck arguments sources

end TaggedConfig.CommandLine
