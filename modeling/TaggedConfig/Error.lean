/-! Failures of expansion and loading, as causes that render to text.
An error keeps the source it arose in and a hint; a failed check lists what it found.
-/

namespace TaggedConfig

/-- Why a source could not be loaded. -/
inductive SourceFault where
  /-- The server answered with a status other than success. -/
  | status (url : String) (status : Nat)
  /-- No answer came back. -/
  | transport (url reason : String)
  /-- A secret-store address has no query. -/
  | secretAddress
  /-- A secret-store query names no token. -/
  | secretToken
  /-- A secret-store query names no path. -/
  | secretPath
  /-- A key of a secret-store query has an empty segment. -/
  | secretKey
  /-- The secret store holds nothing at the path. -/
  | secretNotFound
  /-- The secret holds nothing at the key. -/
  | keyNotFound (key : String)
  | fileNotFound (path : String)
  /-- A file could not be read for another reason. -/
  | file (path reason : String)
  /-- A loader that the caller supplied failed. -/
  | callback (reason : String)
  /-- The scheme is recognised but not supported. -/
  | unsupported (scheme : String)
  deriving DecidableEq, Repr

/-- Why expansion or loading failed. -/
inductive Fault where
  | unterminatedTag (offset : Nat)
  | tooManyLevels (ceiling : UInt64)
  /-- There is no word for the next depth. The program panics, which ends whatever called for it. -/
  | depthOverflow
  | variableMissing (name : String)
  | source (fault : SourceFault)
  | cancelled
  | sourceNotDefined
  | argumentMissing (parameter : String)
  /-- The document is not what the decoder expects. -/
  | decode (reason : String)
  /-- The schema is not one. -/
  | schema (reason : String)
  /-- The caller's validator refused the settings. -/
  | rejected (reason : String)
  | internal (reason : String)
  deriving DecidableEq, Repr

def SourceFault.summary : SourceFault → String
  | .status url code =>
      s!"unexpected HTTP status code [http-status={code}] from {url}"
  | .transport url _ => s!"HTTP request failed: {url}"
  | .secretAddress => "invalid url"
  | .secretToken => "missing access token"
  | .secretPath => "invalid path"
  | .secretKey => "invalid key"
  | .secretNotFound => "data not found"
  | .keyNotFound key => s!"key not found: {key}"
  | .fileNotFound path => s!"file not found: {path}"
  | .file path _ => s!"unable to read file: {path}"
  | .callback _ => "loader callback failed"
  | .unsupported scheme => s!"{scheme} sources are disabled"

def Fault.summary : Fault → String
  | .unterminatedTag offset => s!"error parsing tag: unterminated tag at offset {offset}"
  | .tooManyLevels ceiling => s!"too many expansion levels (maximum {ceiling.toNat})"
  | .depthOverflow => "attempt to add with overflow"
  | .variableMissing name => s!"environment variable '{name}' not set"
  | .source fault => fault.summary
  | .cancelled => "operation cancelled"
  | .sourceNotDefined => "source not defined"
  | .argumentMissing parameter => s!"missing source in '{parameter}' parameter"
  | .decode _ => "invalid JSON"
  | .schema _ => "invalid JSON schema"
  | .rejected _ => "settings rejected by validator"
  | .internal _ => "internal error"

/-- The underlying reason, in the words of whoever gave it. -/
def SourceFault.reason : SourceFault → Option String
  | .transport _ reason | .file _ reason | .callback reason => some reason
  | _ => none

/-- The underlying reason, in the words of whoever gave it. -/
def Fault.reason : Fault → Option String
  | .source fault => fault.reason
  | .decode reason | .schema reason | .rejected reason | .internal reason => some reason
  | _ => none

def SourceFault.hint : SourceFault → Option String
  | .transport url _ => some s!"Check that the URL '{url}' is reachable"
  | .secretAddress => some "Use vault://host:port?token=...&path=...[&key=...]"
  | .secretToken => some "Add a 'token' query parameter to the vault:// URL"
  | .secretPath => some "Add a 'path' query parameter to the vault:// URL"
  | .secretKey => some "Keys are '/'-separated and must not contain empty segments"
  | .fileNotFound _ => some "Relative paths are resolved against the working directory"
  | .unsupported scheme =>
      some s!"{scheme} support not compiled in. Rebuild with --features http"
  | .status _ _ | .secretNotFound | .keyNotFound _ | .file _ _ | .callback _ => none

/-- What to do about a fault. -/
def Fault.hint : Fault → Option String
  | .unterminatedTag _ =>
      some "Close the tag with '\x7d' (nested tags need their own closing brace)"
  | .tooManyLevels _ =>
      some "Check for a source or environment variable that references itself"
  | .variableMissing name => some s!"Set the {name} environment variable to a non-empty value"
  | .source fault => fault.hint
  | .sourceNotDefined =>
      some "Set a source explicitly, through the environment variable, or with --settings"
  | .internal _ => some "This is likely a bug in tagconf. Please report it."
  | .depthOverflow | .cancelled | .argumentMissing _ | .decode _ | .schema _ | .rejected _ => none

/-- A fault, the source in which it arose and a hint. Secrets of the source are masked. -/
structure Error where
  fault : Fault
  source : Option String := none
  hint : Option String := fault.hint
  deriving DecidableEq, Repr

namespace Error

/-- The error of a fault outside any source. -/
def ofFault (fault : Fault) : Error := { fault }

/-- The error of a source fault outside any source. -/
def ofSourceFault (fault : SourceFault) : Error := { fault := .source fault }

/-- Names the source, unless an inner load has named its own. -/
def withSource (error : Error) (source : String) : Error :=
  { error with source := error.source.orElse fun _ => some source }

def withHint (error : Error) (hint : String) : Error := { error with hint := some hint }

/-- Whether a source loader raised the error. -/
def isSourceFault (error : Error) : Bool :=
  match error.fault with
  | .source _ => true
  | _ => false

/-- The headline, then a line each for the source, the reason and the hint that are known. -/
def message (error : Error) : String :=
  let line (label : String) (text : Option String) : String :=
    match text with
    | some text => "\n  " ++ label ++ text
    | none => ""
  error.fault.summary ++ line "Source: " error.source ++ line "" error.fault.reason
    ++ line "Help: " error.hint

end Error

/-- One finding of a schema check: where in the document and what. -/
structure Finding where
  location : String
  message : String
  deriving DecidableEq, Repr

/-- The finding on one line; the root of a document needs no location. -/
def Finding.text (finding : Finding) : String :=
  if finding.location.isEmpty then finding.message
  else finding.location ++ ": " ++ finding.message

/-- Why settings could not be loaded: an error, or the findings of the schema check. -/
inductive LoadError where
  | failed (error : Error)
  | invalid (findings : List Finding)
  deriving DecidableEq, Repr

/-- The text of a load error; of several findings the first is shown. -/
def LoadError.message : LoadError → String
  | .failed error => "unable to load configuration [" ++ error.message ++ "]"
  | .invalid findings =>
      "unable to load configuration [validation failed"
        ++ (match findings with
          | first :: _ => " / " ++ first.message ++ " @ " ++ first.location
          | [] => "")
        ++ "]"

end TaggedConfig
