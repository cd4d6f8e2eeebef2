import TaggedConfig.CommandLine.Options
import TaggedConfig.Expansion

/-! The commands of the program and the command lines that ask for them. -/

namespace TaggedConfig.CommandLine

/-- A command. -/
inductive Command where
  /-- Prints or writes a source with its tags expanded. -/
  | expand (source : String) (ceiling : UInt64) (keepComments : Bool) (output : Option String)
  /-- Checks a source by a schema. -/
  | validate (source schema format : String) (quiet : Bool) (ceiling : UInt64)
  /-- Checks that sources are JSON. -/
  | check (sources : List String)
  deriving DecidableEq, Repr

/-- What a command line asks for. -/
inductive Invocation where
  | run (command : Command)
  | version
  | help
  /-- The command line is not understood. -/
  | misuse
  deriving DecidableEq, Repr

/-- The ceiling that a value states; a plus sign may come first. -/
def ceiling? (value : String) : Option UInt64 :=
  let digits :=
    match value.toList with
    | '+' :: digits => digits
    | digits => digits
  if digits.isEmpty || !digits.all Char.isDigit then none
  else
    let n := digits.foldl (fun n c => n * 10 + (c.toNat - 48)) 0
    if n < UInt64.size then some (UInt64.ofNat n) else none

/-- The ceiling that is given, or the default one. -/
def givenCeiling? (given : Given) : Option UInt64 :=
  match given.value? "max-depth" with
  | none => some defaultCeiling
  | some value => ceiling? value

/-- Refuses an empty path. -/
def path? (value : String) : Option String := if value.isEmpty then none else some value

/-- The one positional argument. -/
def single? (given : Given) : Option String :=
  match given.positional with
  | [argument] => some argument
  | _ => none

def ceilingSpec : OptionSpec := { long := "max-depth", takesValue := true }

/-- The path that an option gives, if it is given. -/
def givenPath? (given : Given) (name : String) : Option (Option String) :=
  match given.value? name with
  | none => some none
  | some value => (path? value).map some

/-- Help, if what was given before it can stand: the values of options and, of a command with one
argument, no second one. What is missing may be so.
-/
def help? (given : Given) : Option Invocation :=
  if given.positional.length ≤ 1 then some .help else none

def expand? (arguments : List String) : Option Invocation := do
  let given ← take?
    [ceilingSpec, { long := "keep-comments" },
      { long := "output", short := some 'o', takesValue := true }] {} none arguments
  let ceiling ← givenCeiling? given
  let output ← givenPath? given "output"
  if given.help then help? given
  else some (.run (.expand (← single? given) ceiling (given.has "keep-comments") output))

def validate? (arguments : List String) : Option Invocation := do
  let given ← take?
    [ceilingSpec, { long := "schema", short := some 's', takesValue := true },
      { long := "format", short := some 'f', takesValue := true },
      { long := "quiet", short := some 'q' }] {} none arguments
  let ceiling ← givenCeiling? given
  let schema ← givenPath? given "schema"
  let format := (given.value? "format").getD "text"
  if given.help then help? given
  else some (.run (.validate (← single? given) (← schema) format (given.has "quiet") ceiling))

def check? (arguments : List String) : Option Invocation := do
  let given ← take? [] {} none arguments
  if given.help then some .help
  else if given.positional.isEmpty then none
  else some (.run (.check given.positional))

/-- What there is help about. -/
def helpTopics : List (List String) := [[], ["expand"], ["validate"], ["check"], ["help"]]

/-- What a command line asks for. -/
def Invocation.ofArguments : List String → Invocation
  | "--version" :: _ => .version
  | "--help" :: _ => .help
  | "help" :: names => if helpTopics.contains names then .help else .misuse
  | "expand" :: arguments => (expand? arguments).getD .misuse
  | "validate" :: arguments => (validate? arguments).getD .misuse
  | "check" :: arguments => (check? arguments).getD .misuse
  | argument :: _ =>
      if "-V".isPrefixOf argument then .version
      else if "-h".isPrefixOf argument then .help
      else .misuse
  | [] => .misuse

end TaggedConfig.CommandLine
