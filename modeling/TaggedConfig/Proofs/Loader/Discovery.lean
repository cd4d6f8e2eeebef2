import TaggedConfig.Loader
import TaggedConfig.World
import TaggedConfig.Proofs.Run

/-! Discovery of the source of a configuration.
Main statement: the first origin counts that states a source which is not empty, and what later
origins state makes no difference. Only the last origin may give an empty source, and it does so
exactly where an empty argument follows the flag and no other origin states anything.
-/

namespace TaggedConfig.Loader

open Run

/-- Where a source may come from. -/
inductive SourceOrigin where
  | explicit
  | environment
  | commandLine
  deriving DecidableEq, Repr

/-- The origins that come before one. -/
def SourceOrigin.earlier : SourceOrigin → List SourceOrigin
  | .explicit => []
  | .environment => [.explicit]
  | .commandLine => [.explicit, .environment]

variable {m : Type → Type} [Monad m] [Host m]

/-- The argument after which a source stands on a command line. -/
def flag (loader : Loader m) : String := "--" ++ loader.options.parameter

/-- The sources that origins state: the explicit one, the value of the variable that is named if
that is a text, and the argument right after the first flag.
-/
inductive States (loader : Loader m) (environment : Environment)
    : SourceOrigin → String → Prop where
  | explicit {source : String} (given : loader.options.source = some source)
    : States loader environment .explicit source
  | environment {name source : String} {value : Bytes}
    (named : loader.options.environmentVariable = some name)
    (found : environment.lookup name = some value) (text : Utf8.decode? value = some source)
    : States loader environment .environment source
  | commandLine {source : String} {before after : List String}
    (line : loader.arguments = before ++ loader.flag :: source :: after)
    (first : loader.flag ∉ before)
    : States loader environment .commandLine source

/-- The origin states no source that is not empty. -/
def Unset (loader : Loader m) (environment : Environment) (origin : SourceOrigin) : Prop :=
  ∀ source, loader.States environment origin source → source = ""

/-- The origin is the first that states a source which is not empty. -/
structure Prefers (loader : Loader m) (environment : Environment) (origin : SourceOrigin)
    (source : String)
    : Prop where
  states : loader.States environment origin source
  nonempty : source ≠ ""
  first : ∀ earlier ∈ origin.earlier, loader.Unset environment earlier

/-- No origin before the command line states a source that is not empty. -/
def LeftToCommandLine (loader : Loader m) (environment : Environment) : Prop :=
  ∀ earlier ∈ SourceOrigin.commandLine.earlier, loader.Unset environment earlier

/-- The first flag is followed by an empty argument, and what other origins state is empty too. -/
structure LeavesEmptyArgument (loader : Loader m) (environment : Environment) : Prop where
  states : loader.States environment .commandLine ""
  unset : loader.LeftToCommandLine environment

/-- What discovery comes to. The last two ways are those in which the command line has no source:
its only flag is its last argument, or it has none.
-/
inductive Discovers (loader : Loader m) (environment : Environment)
    : Except Error String → Prop where
  | preferred {origin : SourceOrigin} {source : String}
    (prefers : loader.Prefers environment origin source)
    : Discovers loader environment (.ok source)
  | emptyArgument (leaves : loader.LeavesEmptyArgument environment)
    : Discovers loader environment (.ok "")
  | valueMissing {before : List String} (line : loader.arguments = before ++ [loader.flag])
    (first : loader.flag ∉ before)
    (unset : loader.LeftToCommandLine environment)
    : Discovers loader environment (.error (.ofFault (.argumentMissing loader.flag)))
  | flagMissing (absent : loader.flag ∉ loader.arguments)
    (unset : loader.LeftToCommandLine environment)
    : Discovers loader environment (.error (.ofFault .sourceNotDefined))

/-- What the command line states, whatever that is. -/
def commandLineSource (loader : Loader m) : Except Error String :=
  match argumentAfter? loader.flag loader.arguments with
  | none => .error (.ofFault .sourceNotDefined)
  | some none => .error (.ofFault (.argumentMissing loader.flag))
  | some (some source) => .ok source

-----------------------------------------------------------------------------------------
-- Arguments
-----------------------------------------------------------------------------------------

/-- What follows the first flag is found, by induction on the arguments before it. -/
theorem argumentAfter?_append {flag : String} {before : List String} (first : flag ∉ before)
    (after : List String)
    : argumentAfter? flag (before ++ flag :: after) = some after.head? := by
  induction before with
  | nil => rw [List.nil_append, argumentAfter?, if_pos rfl]
  | cons argument before ih =>
      rw [List.mem_cons, not_or] at first
      rw [List.cons_append, argumentAfter?, if_neg (Ne.symm first.1), ih first.2]

theorem argumentAfter?_notMem {flag : String} {arguments : List String}
    (absent : flag ∉ arguments)
    : argumentAfter? flag arguments = none := by
  induction arguments with
  | nil => rfl
  | cons argument arguments ih =>
      rw [List.mem_cons, not_or] at absent
      rw [argumentAfter?, if_neg (Ne.symm absent.1), ih absent.2]

-----------------------------------------------------------------------------------------
-- Origins
-----------------------------------------------------------------------------------------

section

variable {loader : Loader m} {environment : Environment}

/-- An origin states one source. -/
theorem States.unique {origin : SourceOrigin} {source source' : String}
    (states : loader.States environment origin source)
    (states' : loader.States environment origin source')
    : source' = source := by
  cases states with
  | explicit given =>
      cases states' with
      | explicit given' => exact Option.some.inj (given'.symm.trans given)
  | environment named found text =>
      cases states' with
      | environment named' found' text' =>
          obtain rfl := Option.some.inj (named'.symm.trans named)
          obtain rfl := Option.some.inj (found'.symm.trans found)
          exact Option.some.inj (text'.symm.trans text)
  | @commandLine _ before after line first =>
      cases states' with
      | @commandLine _ before' after' line' first' =>
          have known := argumentAfter?_append first (source :: after)
          have known' := argumentAfter?_append first' (source' :: after')
          rw [← line] at known
          rw [← line', known] at known'
          exact (Option.some.inj (Option.some.inj known')).symm

/-- The arguments do not matter to what the other origins state. -/
theorem States.of_options {other : Loader m} (options : other.options = loader.options)
    {origin : SourceOrigin} {source : String} (origin_ne : origin ≠ .commandLine)
    (states : loader.States environment origin source)
    : other.States environment origin source := by
  cases states with
  | explicit given => exact .explicit (options ▸ given)
  | environment named found text => exact .environment (options ▸ named) found text
  | commandLine => contradiction

/-- Of two origins one comes before the other. -/
theorem SourceOrigin.earlier_or (origin other : SourceOrigin)
    : origin = other ∨ origin ∈ other.earlier ∨ other ∈ origin.earlier := by
  cases origin <;> cases other <;> decide

/-- No two origins are the first to state a source. -/
theorem Prefers.unique {origin origin' : SourceOrigin} {source source' : String}
    (prefers : loader.Prefers environment origin source)
    (prefers' : loader.Prefers environment origin' source')
    : source' = source := by
  rcases SourceOrigin.earlier_or origin origin' with rfl | earlier | earlier
  · exact prefers.states.unique prefers'.states
  · exact absurd (prefers'.first origin earlier source prefers.states) prefers.nonempty
  · exact absurd (prefers.first origin' earlier source' prefers'.states) prefers'.nonempty

/-- A preferred source before which nothing is stated is that of the command line. -/
theorem Prefers.of_commandLine {origin : SourceOrigin} {source : String}
    (prefers : loader.Prefers environment origin source)
    (unset : loader.LeftToCommandLine environment)
    : loader.States environment .commandLine source := by
  have states := prefers.states
  cases origin with
  | explicit => exact absurd (unset .explicit (by decide) source states) prefers.nonempty
  | environment => exact absurd (unset .environment (by decide) source states) prefers.nonempty
  | commandLine => exact states

theorem States.commandLineSource_eq {source : String}
    (states : loader.States environment .commandLine source)
    : loader.commandLineSource = .ok source := by
  cases states with
  | commandLine line first =>
      rw [commandLineSource, line, argumentAfter?_append first, List.head?_cons]

/-- Where nothing else is stated, discovery comes to what the command line states. -/
theorem Discovers.eq_commandLineSource {result : Except Error String}
    (discovers : loader.Discovers environment result)
    (unset : loader.LeftToCommandLine environment)
    : result = loader.commandLineSource := by
  cases discovers with
  | preferred prefers => exact (prefers.of_commandLine unset).commandLineSource_eq.symm
  | emptyArgument leaves => exact leaves.states.commandLineSource_eq.symm
  | valueMissing line first =>
      rw [commandLineSource, line, argumentAfter?_append first, List.head?_nil]
  | flagMissing absent => rw [commandLineSource, argumentAfter?_notMem absent]

/-- Discovery comes to one thing only. -/
theorem Discovers.unique {result result' : Except Error String}
    (discovers : loader.Discovers environment result)
    (discovers' : loader.Discovers environment result')
    : result' = result := by
  have unsettled
      (unset : loader.LeftToCommandLine environment)
      : result' = result := by
    rw [discovers.eq_commandLineSource unset, discovers'.eq_commandLineSource unset]
  cases discovers with
  | preferred prefers =>
      cases discovers' with
      | preferred prefers' => rw [prefers.unique prefers']
      | emptyArgument leaves => exact unsettled leaves.unset
      | valueMissing _ _ unset => exact unsettled unset
      | flagMissing _ unset => exact unsettled unset
  | emptyArgument leaves => exact unsettled leaves.unset
  | valueMissing _ _ unset => exact unsettled unset
  | flagMissing _ unset => exact unsettled unset

end

-----------------------------------------------------------------------------------------
-- Discovery
-----------------------------------------------------------------------------------------

variable (loader : Loader (StateM World)) (world : World)

/-- The environment gives the value of the variable, or nothing if that is unset. -/
theorem sourceOfEnvironment_cases
    : ((outcome loader.sourceOfEnvironment world).1 = .ok none
        ∧ loader.Unset world.environment .environment)
      ∨ ∃ source,
          (outcome loader.sourceOfEnvironment world).1 = .ok (some source)
          ∧ loader.States world.environment .environment source
          ∧ source ≠ "" := by
  unfold sourceOfEnvironment
  cases named : loader.options.environmentVariable with
  | none =>
      refine .inl ⟨rfl, fun source states => ?_⟩
      cases states with
      | environment named' => cases named.symm.trans named'
  | some name =>
      dsimp only
      have looked
          : (Host.lookup name : StateM World _).run world
            = (world.environment.lookup name, world) := rfl
      rw [outcome_bind, outcome_lift, looked]
      dsimp only
      cases found : (world.environment.lookup name).bind Utf8.decode? with
      | none =>
          refine .inl ⟨rfl, fun source states => ?_⟩
          cases states with
          | environment named' found' text =>
              obtain rfl := Option.some.inj (named.symm.trans named')
              rw [found', Option.bind_some, text] at found
              cases found
      | some source =>
          obtain ⟨value, looked, text⟩ := Option.bind_eq_some_iff.mp found
          have states : loader.States world.environment .environment source :=
            .environment named looked text
          dsimp only
          by_cases empty : source = ""
          · refine .inl ⟨?_, fun other stated => ?_⟩
            · rw [if_pos (by simp [empty])]
              rfl
            · exact (states.unique stated).trans empty
          · refine .inr ⟨source, ?_, states, empty⟩
            rw [if_neg (by simp [empty])]
            rfl

theorem fst_sourceOfArguments
    : (outcome loader.sourceOfArguments world).1 = loader.commandLineSource := by
  unfold sourceOfArguments commandLineSource flag
  dsimp only
  cases argumentAfter? ("--" ++ loader.options.parameter) loader.arguments with
  | none => rfl
  | some following => cases following <;> rfl

/-- Where nothing else is stated, the command line decides. -/
theorem discovers_commandLineSource {environment : Environment}
    (unset : loader.LeftToCommandLine environment)
    : loader.Discovers environment loader.commandLineSource := by
  unfold commandLineSource
  by_cases flagged : loader.flag ∈ loader.arguments
  · obtain ⟨before, after, line, first⟩ := List.eq_append_cons_of_mem flagged
    rw [line, argumentAfter?_append first]
    cases after with
    | nil => exact .valueMissing line first unset
    | cons source after =>
        have states : loader.States environment .commandLine source := .commandLine line first
        by_cases empty : source = ""
        · subst empty
          exact .emptyArgument ⟨states, unset⟩
        · exact .preferred ⟨states, empty, unset⟩
  · rw [argumentAfter?_notMem flagged]
    exact .flagMissing flagged unset

/-- Discovery goes through the origins in their order. -/
theorem discovers_resolveSource
    : loader.Discovers world.environment (outcome loader.resolveSource world).1 := by
  unfold resolveSource
  cases given : loader.options.source.filter (! ·.isEmpty) with
  | some source =>
      obtain ⟨stated, filled⟩ := Option.filter_eq_some_iff.mp given
      exact .preferred ⟨.explicit stated, by simpa using filled, nofun⟩
  | none =>
      have unset : loader.Unset world.environment .explicit := by
        rintro source ⟨stated⟩
        simpa [stated] using given
      dsimp only
      rw [outcome_bind]
      rcases loader.sourceOfEnvironment_cases world
        with ⟨known, other⟩ | ⟨source, known, states⟩
      · have earlier : loader.LeftToCommandLine world.environment := by
          simpa only [LeftToCommandLine, SourceOrigin.earlier, List.forall_mem_cons]
            using ⟨unset, other, nofun⟩
        rcases ran : outcome loader.sourceOfEnvironment world with ⟨result, after⟩
        obtain rfl : result = .ok none := by rw [← known, ran]
        dsimp only
        rw [fst_sourceOfArguments]
        exact loader.discovers_commandLineSource earlier
      · rcases ran : outcome loader.sourceOfEnvironment world with ⟨result, after⟩
        obtain rfl : result = .ok (some source) := by rw [← known, ran]
        refine .preferred ⟨states.1, states.2, ?_⟩
        exact List.forall_mem_singleton.mpr unset

/-- Discovery finds the first source that is not empty, if there is one, and then it does not
matter what later origins state. It finds no other source, and in particular no empty one, unless
the first flag is followed by an empty argument and no other origin states anything. Without a
value after the first flag it fails, as it does without a flag.
-/
theorem resolveSource_first_nonempty_iff
    : ((∀ source,
          (outcome loader.resolveSource world).1 = .ok source →
            ∃ origin, loader.Prefers world.environment origin source)
        ↔ ¬loader.LeavesEmptyArgument world.environment)
      ∧ (∀ source,
          (outcome loader.resolveSource world).1 = .ok source →
            (∃ origin, loader.Prefers world.environment origin source)
            ∨ source = "" ∧ loader.LeavesEmptyArgument world.environment)
      ∧ (∀ origin source,
          loader.Prefers world.environment origin source →
            (outcome loader.resolveSource world).1 = .ok source
            ∧ ∀ (other : Loader (StateM World)) (otherWorld : World),
                (∀ place text,
                  place = origin ∨ place ∈ origin.earlier →
                    (other.States otherWorld.environment place text
                      ↔ loader.States world.environment place text)) →
                  (outcome other.resolveSource otherWorld).1 = .ok source)
      ∧ ∀ error,
          (outcome loader.resolveSource world).1 = .error error
          ↔ loader.LeftToCommandLine world.environment
            ∧ (error = .ofFault .sourceNotDefined ∧ loader.flag ∉ loader.arguments
              ∨ error = .ofFault (.argumentMissing loader.flag)
                ∧ ∃ before,
                    loader.arguments = before ++ [loader.flag] ∧ loader.flag ∉ before) := by
  have discovers := loader.discovers_resolveSource world
  have known {result : Except Error String} (found : loader.Discovers world.environment result)
      : (outcome loader.resolveSource world).1 = result :=
    found.unique discovers
  have either {source : String} (found : (outcome loader.resolveSource world).1 = .ok source)
      : (∃ origin, loader.Prefers world.environment origin source)
        ∨ source = "" ∧ loader.LeavesEmptyArgument world.environment := by
    rw [found] at discovers
    cases discovers with
    | preferred prefers => exact .inl ⟨_, prefers⟩
    | emptyArgument leaves => exact .inr ⟨rfl, leaves⟩
  refine ⟨⟨fun rule leaves => ?_, fun settled source found => ?_⟩, fun _ found => either found,
    fun origin source prefers => ⟨known (.preferred prefers), fun other otherWorld same => ?_⟩,
    fun error => ⟨fun failed => ?_, ?_⟩⟩
  · obtain ⟨origin, prefers⟩ := rule "" (known (.emptyArgument leaves))
    exact prefers.nonempty rfl
  · exact (either found).resolve_right fun ⟨_, leaves⟩ => settled leaves
  · have prefers : other.Prefers otherWorld.environment origin source := {
      states := (same _ _ (.inl rfl)).mpr prefers.states
      nonempty := prefers.nonempty
      first := fun earlier member text states =>
        prefers.first earlier member text ((same _ _ (.inr member)).mp states)
    }
    exact (Discovers.preferred prefers).unique (other.discovers_resolveSource otherWorld)
  · rw [failed] at discovers
    cases discovers with
    | valueMissing line first unset => exact ⟨unset, .inr ⟨rfl, _, line, first⟩⟩
    | flagMissing absent unset => exact ⟨unset, .inl ⟨rfl, absent⟩⟩
  · rintro ⟨unset, ⟨rfl, absent⟩ | ⟨rfl, before, line, first⟩⟩
    · exact known (.flagMissing absent unset)
    · exact known (.valueMissing line first unset)

/-- A world in which a variable names a source. -/
def discoveryWorld : World where
  environment := [("E", []), ("S", ascii "data://1")]

/-- A loader whose explicit source is empty, with that variable and some arguments. -/
def discoveryLoader (arguments : List String) : Loader (StateM World) where
  options := { source := some "", environmentVariable := some "S" }
  arguments

/-- An empty explicit source does not count, and where the variable names a source it does not
matter what follows the flag, be it nothing at all.
-/
theorem resolveSource_first_nonempty_iff_shadowed
    : (outcome (discoveryLoader ["p", "--settings", "x"]).resolveSource discoveryWorld).1
        = .ok "data://1"
      ∧ (outcome (discoveryLoader ["p", "--settings"]).resolveSource discoveryWorld).1
        = .ok "data://1" := by
  have unset (earlier : SourceOrigin) (member : earlier ∈ SourceOrigin.environment.earlier)
      : (discoveryLoader ["p", "--settings", "x"]).Unset discoveryWorld.environment earlier := by
    obtain rfl := List.mem_singleton.mp member
    rintro source ⟨given⟩
    exact (Option.some.inj given).symm
  have states {arguments : List String}
      : (discoveryLoader arguments).States discoveryWorld.environment .environment "data://1" :=
    .environment rfl
      (by decide +kernel : discoveryWorld.environment.lookup "S" = some (ascii "data://1"))
      (by decide +kernel)
  obtain ⟨-, -, found, -⟩ :=
    resolveSource_first_nonempty_iff (discoveryLoader ["p", "--settings", "x"]) discoveryWorld
  obtain ⟨taken, kept⟩ := found .environment "data://1" ⟨states, by decide, unset⟩
  refine ⟨taken, kept _ _ fun place text early => ?_⟩
  have place_ne : place ≠ .commandLine := by
    rintro rfl
    exact absurd early (by decide)
  have same (first second : List String)
      : (discoveryLoader first).options = (discoveryLoader second).options := rfl
  exact ⟨.of_options (same _ _) place_ne, .of_options (same _ _) place_ne⟩

/-- An empty argument after the flag is taken as the source, although an empty source is none
wherever else it is stated.
-/
theorem resolveSource_takes_empty_argument
    : (outcome
          ({ arguments := ["p", "--settings", ""] } : Loader (StateM World)).resolveSource {}).1
        = .ok ""
      ∧ ¬∃ origin,
          ({ arguments := ["p", "--settings", ""] } : Loader (StateM World)).Prefers [] origin "" :=
  ⟨rfl, fun ⟨_, prefers⟩ => prefers.nonempty rfl⟩

end TaggedConfig.Loader
