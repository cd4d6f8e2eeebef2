import TaggedConfig.Text.Split

/-! Options and positional arguments of a command line.
Options may stand anywhere before two dashes, and none may be given twice. Help can be asked for
in the place of any of them, and what comes after that does not count.
-/

namespace TaggedConfig.CommandLine

/-- An option: a flag, or one that takes a value. -/
structure OptionSpec where
  long : String
  short : Option Char := none
  takesValue : Bool := false
  deriving DecidableEq, Repr

/-- What a command line gives: values by the long names of options, and the other arguments
in order. A flag has an empty value.
-/
structure Given where
  options : List (String × String) := []
  positional : List String := []
  /-- Whether help is asked for after these. -/
  help : Bool := false
  deriving DecidableEq, Repr

namespace Given

/-- Adds an option, which must not have been given before. -/
def addOption? (given : Given) (name value : String) : Option Given :=
  if (given.options.lookup name).isSome then none
  else some { given with options := given.options ++ [(name, value)] }

/-- Adds positional arguments. -/
def addPositional (given : Given) (arguments : List String) : Given :=
  { given with positional := given.positional ++ arguments }

def value? (given : Given) (name : String) : Option String := given.options.lookup name

/-- Whether a flag is given. -/
def has (given : Given) (name : String) : Bool := (given.value? name).isSome

end Given

/-- Whether an argument looks like an option and so is no value. A lone dash is a value. -/
def looksLikeOption (argument : String) : Bool :=
  match argument.toList with
  | '-' :: _ :: _ => true
  | _ => false

/-- What the letters of a cluster of short options ask for. -/
inductive Cluster where
  | flags (given : Given)
  /-- The last option takes the next argument as its value. -/
  | wants (given : Given) (name : String)
  | help (given : Given)

/-- The letter that asks for help. -/
def helpLetter : Char := 'h'

def helpName : String := "help"

/-- Takes the letters of a cluster. What follows the letter of an option with a value is the
value, perhaps after an equals sign.
-/
def takeCluster? (specs : List OptionSpec) (given : Given) : List Char → Option Cluster
  | [] => some (.flags given)
  | letter :: rest =>
      match specs.find? (·.short = some letter) with
      | none => if letter = helpLetter then some (.help given) else none
      | some spec =>
          if spec.takesValue then
            match rest with
            | [] => some (.wants given spec.long)
            | '=' :: value =>
                (given.addOption? spec.long (String.ofList value)).map Cluster.flags
            | value => (given.addOption? spec.long (String.ofList value)).map Cluster.flags
          else
            match given.addOption? spec.long "" with
            | some given => takeCluster? specs given rest
            | none => none

/-- Takes a long option after its dashes. Only an option with a value may have an equals sign. -/
def takeLong? (specs : List OptionSpec) (given : Given) (text : List Char) : Option Cluster :=
  let (name, value?) :=
    match Text.splitFirst? '=' text with
    | some (name, value) => (name, some value)
    | none => (text, none)
  match specs.find? (·.long.toList = name), value? with
  | none, none => if name = helpName.toList then some (.help given) else none
  | none, some _ => none
  | some spec, some value =>
      if spec.takesValue then
        (given.addOption? spec.long (String.ofList value)).map Cluster.flags
      else none
  | some spec, none =>
      if spec.takesValue then some (.wants given spec.long)
      else (given.addOption? spec.long "").map Cluster.flags

/-- Takes the arguments of a command line; `wanted` is the option that takes the next one. -/
def take? (specs : List OptionSpec) (given : Given) (wanted : Option String)
    : List String → Option Given
  | [] => if wanted.isSome then none else some given
  | argument :: rest =>
      match wanted with
      | some name =>
          if looksLikeOption argument then none
          else
            match given.addOption? name argument with
            | some given => take? specs given none rest
            | none => none
      | none =>
          let cluster? :=
            match argument.toList with
            | ['-', '-'] => none
            | '-' :: '-' :: text => takeLong? specs given text
            | '-' :: letter :: letters => takeCluster? specs given (letter :: letters)
            | _ => some (.flags (given.addPositional [argument]))
          if argument = "--" then some (given.addPositional rest)
          else
            match cluster? with
            | none => none
            | some (.flags given) => take? specs given none rest
            | some (.wants given name) => take? specs given (some name) rest
            | some (.help given) => some { given with help := true }

end TaggedConfig.CommandLine
