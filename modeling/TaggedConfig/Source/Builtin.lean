import TaggedConfig.Source.Fetch

/-! The built-in loaders: web, secret store, inline data, files.
Each of the first three owns the descriptors of its scheme; the last takes any descriptor.
-/

namespace TaggedConfig

variable {m : Type → Type} [Monad m] [Host m]

/-- Whether a path starts at the root. -/
def isAbsolutePath (path : String) : Bool := path.toList.head? = some '/'

/-- A path within a directory. A path from the root stays as it is, and no slash is added to
an empty directory or after one.
-/
def joinPath (directory path : String) : String :=
  if isAbsolutePath path then path
  else
    match directory.toList.getLast? with
    | none | some '/' => directory ++ path
    | some _ => directory ++ "/" ++ path

/-- The path of a file source. -/
def Context.resolvePath (context : Context) (path : String) : Action m String :=
  if isAbsolutePath path then pure path
  else
    match context.baseDirectory with
    | some directory => pure (joinPath directory path)
    | none => do
        match ← ExceptT.lift Host.workingDirectory with
        | .ok directory => pure (joinPath directory path)
        | .error fault => .failSource (.file path fault.reason)

def readFileSource (path : String) : Action m Bytes := do
  match ← ExceptT.lift (Host.readFile path) with
  | .ok bytes => pure bytes
  | .error .notFound => .failSource (.fileNotFound path)
  | .error fault => .failSource (.file path fault.reason)

namespace SourceLoader

/-- Web documents: `http://…` and `https://…`. -/
def web : SourceLoader m where
  name := "http"
  load context descriptor :=
    if Descriptor.isWeb descriptor then .loaded <$> fetchDocument context descriptor
    else pure .wrongFormat

/-- Secrets: `vault://host?token=…&path=…&key=…`, and `vaults://…` over TLS. -/
def secretStore : SourceLoader m where
  name := "vault"
  load context descriptor :=
    match Descriptor.secretAddress? descriptor with
    | some address => .loaded <$> SecretRequest.load context address
    | none => pure .wrongFormat

/-- Inline data: `data://…`, or the text of a JSON object or array. -/
def inline : SourceLoader m where
  name := "data"
  load _ descriptor :=
    match Descriptor.inline? descriptor with
    | some text => pure (.loaded (Utf8.encode text))
    | none => pure .wrongFormat

/-- Files: a path, perhaps after `file://`. -/
def file : SourceLoader m where
  name := "file"
  load context descriptor := do
    let path ← context.resolvePath (Descriptor.filePath descriptor)
    .loaded <$> readFileSource path

end SourceLoader

/-- The built-in chain. Files come last, since they take any descriptor. -/
def Chain.builtin : Chain m :=
  [SourceLoader.web, SourceLoader.secretStore, SourceLoader.inline, SourceLoader.file]

end TaggedConfig
