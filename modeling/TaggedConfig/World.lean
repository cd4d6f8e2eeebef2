import TaggedConfig.Text.Utf8
import TaggedConfig.World.FileTree
import TaggedConfig.World.Network

/-! A world of values in which loading can be followed step by step.
Everything that an action may see is part of it, and so is all that an action leaves behind.
-/

namespace TaggedConfig

/-- Variables and their values. -/
abbrev Environment := List (String × Bytes)

namespace Environment

/-- The value of a variable: what follows the name and an equals sign in some entry. -/
def lookup (environment : Environment) (name : String) : Option Bytes :=
  if name.isEmpty ∨ name.toList.any (· = '\x00') then none
  else
    environment.findSome? fun (other, value) =>
      let start := Utf8.encode name ++ ascii "="
      let entry := Utf8.encode other ++ ascii "=" ++ value
      if start.isPrefixOf entry then some (entry.drop start.length) else none

/-- Sets a variable, or removes it. -/
def set (environment : Environment) (name : String) (value : Option Bytes) : Environment :=
  let others := environment.filter (·.1 ≠ name)
  match value with
  | some value => (name, value) :: others
  | none => others

end Environment

/-- The surroundings of a load and the traces it has left. -/
structure World where
  environment : Environment := []
  files : FileTree := {}
  workingDirectory : String := "/"
  network : Network := {}
  /-- Whether the token of the loads at hand has been cancelled. Only one token matters at a time:
  a loader keeps its own for all its loads, and the program takes a new one for each loader.
  -/
  cancelled : Bool := false
  /-- The requests that reached the network, first to last. -/
  requests : List Request := []
  /-- The log records, first to last. -/
  log : List (Level × String) := []
  deriving DecidableEq, Repr

namespace World

/-- Sends a request. The load may be cancelled while it is under way. -/
def send (world : World) (request : Request) : Exchange × World :=
  let (exchange, sent) := world.network.send request
  (exchange, { world with
    requests := world.requests ++ sent.toList
    cancelled := world.cancelled || sent.any world.network.cancels })

/-- The world with a new token. -/
def renewed (world : World) : World := { world with cancelled := false }

/-- The working directory, if it is still there. -/
def currentDirectory (world : World) : Except FileFault String :=
  match world.files.item? (FileTree.parts world.workingDirectory) with
  | some .directory => .ok world.workingDirectory
  | _ => .error .notFound

/-- Writes a file, or leaves the world as it is. -/
def writeFile (world : World) (path : String) (content : Bytes)
    : Except FileFault Unit × World :=
  match world.files.write world.workingDirectory path content with
  | .ok files => (.ok (), { world with files })
  | .error fault => (.error fault, world)

/-- Puts a file, or a directory if the path ends with a slash, together with the directories
above it.
-/
def place (world : World) (path : String) (content : Bytes) : World :=
  let location := FileTree.destination world.workingDirectory path
  let files := world.files.makeDirectories location.dropLast
  { world with
    files :=
      if path.endsWith "/" then files.putDirectory location
      else files.put location (.file content) }

instance : Host (StateM World) where
  lookup name := do pure ((← get).environment.lookup name)
  workingDirectory := do pure (← get).currentDirectory
  readFile path := do
    let world ← get
    pure (world.files.read world.workingDirectory path)
  writeFile path content := fun world => world.writeFile path content
  send _ request := fun world => world.send request
  isCancelled := do pure (← get).cancelled
  cancel := modify fun world => { world with cancelled := true }
  log level text := modify fun world => { world with log := world.log ++ [(level, text)] }

/-- The standard output of a world takes all that is written to it. -/
instance : ProgramHost (StateM World) where
  renewToken := modify renewed
  print _ := pure (.ok ())

end World

end TaggedConfig
