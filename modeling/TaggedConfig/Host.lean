import TaggedConfig.Bytes
import TaggedConfig.Error

/-! The surroundings in which sources are loaded.
Loading is written against this interface alone, so a world made up of values answers as
well as a real one.
-/

namespace TaggedConfig

/-- The weight of a log record. -/
inductive Level where
  | trace
  | debug
  | warning
  deriving DecidableEq, Repr

/-- Why a file could not be read or written. -/
inductive FileFault where
  | notFound
  | isDirectory
  | notDirectory
  | nameTooLong
  | nulInPath
  | notText
  | other (reason : String)
  deriving DecidableEq, Repr

/-- The reason in the words of the operating system. -/
def FileFault.reason : FileFault → String
  | .notFound => "No such file or directory (os error 2)"
  | .isDirectory => "Is a directory (os error 21)"
  | .notDirectory => "Not a directory (os error 20)"
  | .nameTooLong => "File name too long (os error 36)"
  | .nulInPath => "file name contained an unexpected NUL byte"
  | .notText => "stream did not contain valid UTF-8"
  | .other reason => reason

/-- A request to read a URL, with an access token if the server asks for one. -/
structure Request where
  url : String
  token : Option String := none
  deriving DecidableEq, Repr

/-- What becomes of a request. -/
inductive Exchange where
  | answered (status : Nat) (body : Bytes)
  | failed (reason : String)
  /-- The load was cancelled before an answer came. -/
  | abandoned
  /-- What was to carry out the request ended without a result. -/
  | lost
  deriving DecidableEq, Repr

/-- How long a request may take, in milliseconds. -/
structure Patience where
  whole : Nat := 10000
  header : Nat := 5000
  deriving DecidableEq, Repr

/-- The effects that loading may have. -/
class Host (m : Type → Type) where
  /-- The value of an environment variable. -/
  lookup : String → m (Option Bytes)
  /-- The directory against which relative paths are resolved. It may have been removed. -/
  workingDirectory : m (Except FileFault String)
  readFile : String → m (Except FileFault Bytes)
  writeFile : String → Bytes → m (Except FileFault Unit)
  send : Patience → Request → m Exchange
  isCancelled : m Bool
  cancel : m Unit
  log : Level → String → m Unit

/-- The effects that the program has besides. -/
class ProgramHost (m : Type → Type) extends Host m where
  /-- Takes a new token for the loads to come, one that has not been cancelled. -/
  renewToken : m Unit
  /-- Writes to the standard output. Writing nothing succeeds. -/
  print : Bytes → m (Except FileFault Unit)

/-- An action on the host that may fail. -/
abbrev Action (m : Type → Type) := ExceptT Error m

namespace Action

variable {m : Type → Type} [Monad m] [Host m]

/-- Fails with a fault outside any source. -/
def fail {α : Type} (fault : Fault) : Action m α := throw (.ofFault fault)

def failSource {α : Type} (fault : SourceFault) : Action m α := throw (.ofSourceFault fault)

/-- Writes a log record. -/
def log (level : Level) (text : String) : Action m Unit := ExceptT.lift (Host.log level text)

/-- Fails once the load has been cancelled. -/
def checkCancelled : Action m Unit := do
  if ← ExceptT.lift Host.isCancelled then fail .cancelled

end Action

end TaggedConfig
