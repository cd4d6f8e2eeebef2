import TaggedConfig.CommandLine.Run
import TaggedConfig.Schema.Document

/-! The program: the command line carried out on the real environment and file system.
It sends no requests, so web and secret-store sources fail as on a host without a network. Nothing
cancels its loads, so its tokens are never renewed.
-/

namespace TaggedConfig

/-- The fault that an error number of the operating system stands for. -/
def FileFault.ofNumber (number : UInt32) (reason : String) : FileFault :=
  if number = 2 then .notFound
  else if number = 20 then .notDirectory
  else if number = 21 then .isDirectory
  else if number = 36 then .nameTooLong
  else .other reason

/-- The fault that an input or output error stands for. -/
def FileFault.ofError (error : IO.Error) : FileFault :=
  match error with
  | .noFileOrDirectory _ number reason | .inappropriateType _ number reason
  | .permissionDenied _ number reason | .resourceExhausted _ number reason
  | .invalidArgument _ number reason => .ofNumber number reason
  | error => .other (toString error)

/-- Carries out an operation that may fail. -/
def guarded {α : Type} (action : IO α) : IO (Except FileFault α) := do
  try
    pure (.ok (← action))
  catch error => pure (.error (.ofError error))

/-- Carries out a file operation on a path without zero bytes. -/
def onFile {α : Type} (path : String) (action : IO α) : IO (Except FileFault α) :=
  if path.toList.any (· = '\x00') then pure (.error .nulInPath) else guarded action

instance : Host IO where
  lookup name := do
    if name.isEmpty || name.toList.any (· = '\x00') then pure none
    else pure ((← IO.getEnv name).map Utf8.encode)
  workingDirectory := guarded do pure (← IO.currentDir).toString
  readFile path := onFile path do pure (← IO.FS.readBinFile path).toList
  writeFile path content := onFile path (IO.FS.writeBinFile path ⟨content.toArray⟩)
  send _ _ := pure (.failed "Connection error: Network is unreachable (os error 101)")
  isCancelled := pure false
  cancel := pure ()
  log _ _ := pure ()

instance : ProgramHost IO where
  renewToken := pure ()
  print content := guarded do
    let output ← IO.getStdout
    output.write ⟨content.toArray⟩
    output.flush

end TaggedConfig

/-- Carries out the command line and ends with its exit code. -/
def main (arguments : List String) : IO UInt32 := do
  let report : TaggedConfig.CommandLine.Report ←
    TaggedConfig.CommandLine.run .standalone arguments
  (← IO.getStderr).write ⟨report.errors.toArray⟩
  pure (UInt32.ofNat report.exit)
