import TaggedConfig.Comment
import TaggedConfig.Expansion
import TaggedConfig.Json.Record
import TaggedConfig.Source.Builtin

/-! Loading of a configuration: find the source, fetch it, expand its tags, blank its
comments, check it and decode it. The source of the last load is kept while it is good.
-/

namespace TaggedConfig

/-- Where the source of a configuration comes from and how it is loaded. -/
structure Options where
  /-- The source itself; an empty one is none. -/
  source : Option String := none
  /-- The environment variable that holds the source. -/
  environmentVariable : Option String := none
  /-- The name of the command-line parameter that the source follows. -/
  parameter : String := "settings"
  ceiling : UInt64 := defaultCeiling
  patience : Patience := {}
  baseDirectory : Option String := none
  deriving DecidableEq, Repr

/-- A loader of configurations. -/
structure Loader (m : Type → Type) [Monad m] [Host m] where
  options : Options := {}
  chain : Chain m := Chain.builtin
  /-- Fetches the top-level source in the place of the chain. -/
  callback : Option (String → Action m Bytes) := none
  /-- Finds what a schema does not allow in a document. -/
  check : Option (Json → List Finding) := none
  /-- The command line that is searched for the source. -/
  arguments : List String := []
  /-- The source of the last load, if that one succeeded. -/
  settingsSource : Option String := none

namespace Loader

variable {m : Type → Type} [Monad m] [Host m]

/-- The argument after the first one that equals a flag; `some none` if nothing follows. -/
def argumentAfter? (flag : String) : List String → Option (Option String)
  | [] => none
  | argument :: rest => if argument = flag then some rest.head? else argumentAfter? flag rest

def sourceOfEnvironment (loader : Loader m) : Action m (Option String) := do
  match loader.options.environmentVariable with
  | none => pure none
  | some name =>
      match (← ExceptT.lift (Host.lookup name)).bind Utf8.decode? with
      | none => pure none
      | some source =>
          if source.isEmpty then pure none
          else
            let shown := Descriptor.redact source
            .log .debug s!"Using source '{shown}' from environment variable {name}"
            pure (some source)

/-- The source that the command line names. -/
def sourceOfArguments (loader : Loader m) : Action m String := do
  let flag := "--" ++ loader.options.parameter
  match argumentAfter? flag loader.arguments with
  | none => .fail .sourceNotDefined
  | some none => .fail (.argumentMissing flag)
  | some (some source) =>
      .log .debug s!"Using source '{Descriptor.redact source}' from {flag} argument"
      pure source

/-- The source to load: the explicit one, else that of the environment, else that of the
command line.
-/
def resolveSource (loader : Loader m) : Action m String := do
  match loader.options.source.filter (! ·.isEmpty) with
  | some source =>
      .log .debug s!"Using explicit source '{Descriptor.redact source}'"
      pure source
  | none =>
      match ← loader.sourceOfEnvironment with
      | some source => pure source
      | none => loader.sourceOfArguments

/-- What the loads of a configuration have in common. -/
def context (loader : Loader m) : Context where
  baseDirectory := loader.options.baseDirectory
  patience := loader.options.patience

/-- The bytes of a top-level source, from the callback if there is one. -/
def fetchSource (loader : Loader m) (source : String) : Action m Bytes :=
  match loader.callback with
  | some callback => do
      Action.checkCancelled
      (callback source).adapt (·.withSource (Descriptor.redact source))
  | none => loader.chain.load loader.context source

/-- The bytes of a source with its tags expanded. Comments stay. -/
def expandSource (loader : Loader m) (source : String) : Action m Bytes := do
  let raw ← loader.fetchSource source
  let expander : Expander m :=
    { chain := loader.chain, context := loader.context, ceiling := loader.options.ceiling }
  expander.expand raw

/-- The findings of the schema check; a document that is not JSON cannot be checked. -/
def findings (loader : Loader m) (data : Bytes) : Except Error (List Finding) :=
  match loader.check with
  | none => pure []
  | some check =>
      match Json.decodeText data with
      | .ok value => pure (check value)
      | .error reason => throw (.ofFault (.decode reason))

/-- The source that is resolved and its document, expanded, without comments and checked. -/
def prepare (loader : Loader m) : ExceptT LoadError m (String × Bytes) := do
  let source ← loader.resolveSource.adapt .failed
  let data ← Comment.blank <$> (loader.expandSource source).adapt .failed
  match loader.findings data with
  | .error error => throw (.failed (error.withSource (Descriptor.redact source)))
  | .ok [] => pure (source, data)
  | .ok found =>
      let shown := Descriptor.redact source
      ExceptT.lift (Host.log .debug
        s!"Schema validation of '{shown}' failed with {found.length} error(s)")
      throw (.invalid found)

/-- Keeps the source of a load that succeeded and forgets it after one that failed. -/
def record {α : Type} (loader : Loader m) (result : Except LoadError (String × α))
    : Except LoadError α × Loader m :=
  match result with
  | .ok (source, value) => (.ok value, { loader with settingsSource := some source })
  | .error error => (.error error, { loader with settingsSource := none })

/-- Loads the document without decoding it. -/
def loadBytes (loader : Loader m) : m (Except LoadError Bytes × Loader m) :=
  loader.record <$> loader.prepare.run

/-- Loads the document, decodes it and lets a validator refuse the settings. -/
def loadValidated {α : Type} (loader : Loader m) (decode : Bytes → Except String α)
    (validate : α → Except String Unit) : m (Except LoadError α × Loader m) :=
  loader.record <$> ExceptT.run do
    let (source, data) ← loader.prepare
    match decode data with
    | .error reason =>
        let error := Error.ofFault (.decode reason)
        throw (.failed (error.withSource (Descriptor.redact source)))
    | .ok settings =>
        match validate settings with
        | .error reason => throw (.failed (.ofFault (.rejected reason)))
        | .ok () => pure (source, settings)

/-- Loads the document and decodes it. -/
def load {α : Type} (loader : Loader m) (decode : Bytes → Except String α)
    : m (Except LoadError α × Loader m) :=
  loader.loadValidated decode fun _ => pure ()

def loadValue (loader : Loader m) : m (Except LoadError Json × Loader m) :=
  loader.load Json.decodeText

end Loader

end TaggedConfig
