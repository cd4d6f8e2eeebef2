import TaggedConfig.Json.Decode
import TaggedConfig.Json.Print
import TaggedConfig.Source.Chain
import TaggedConfig.Source.Secret

/-! Sources behind the network: web documents and the secrets of a secret store.
Any status but success is an error. A secret is a member of a member of the answer.
-/

namespace TaggedConfig

variable {m : Type → Type} [Monad m] [Host m]

def successStatus : Nat := 200

def missingStatus : Nat := 404

/-- The status and body of the answer to a request. -/
def fetch (context : Context) (request : Request) : Action m (Nat × Bytes) := do
  Action.checkCancelled
  match ← ExceptT.lift (Host.send context.patience request) with
  | .answered status body => pure (status, body)
  | .failed reason => .failSource (.transport request.url reason)
  | .abandoned =>
      .log .debug s!"HTTP request to {request.url} abandoned on cancellation"
      .fail .cancelled
  | .lost => .fail (.internal "HTTP worker exited without a result")

/-- The body of a web document. -/
def fetchDocument (context : Context) (url : String) : Action m Bytes := do
  let (status, body) ← fetch context { url }
  if status = successStatus then pure body else .failSource (.status url status)

namespace SecretRequest

/-- The secret within the answer of a secret store. -/
def secret? (answer : Json) : Option (List (String × Json)) :=
  (answer.member? "data").bind fun data => (data.member? "data").bind Json.members?

/-- The value at a key, walking through objects only. -/
def select? (value : Json) : List String → Option Json
  | [] => some value
  | segment :: segments => (value.member? segment).bind (select? · segments)

/-- The bytes of a selected value: a string as it is, anything else as compact JSON, nothing
for a missing value or null.
-/
def selectedBytes? : Option Json → Option Bytes
  | none | some .null => none
  | some (.string text) => some (Utf8.encode text)
  | some value => some (Utf8.encode value.text)

/-- The bytes that a request selects from a secret. -/
def select (request : SecretRequest) (secret : List (String × Json))
    : Except SourceFault Bytes :=
  match request.key with
  | [] => pure (Utf8.encode (Json.object secret).text)
  | key =>
      match selectedBytes? (select? (.object secret) key) with
      | some bytes => pure bytes
      | none => throw (.keyNotFound request.keyText)

/-- The bytes that a request selects from an answer. -/
def answerBytes (request : SecretRequest) (status : Nat) (body : Bytes) : Except Fault Bytes :=
  if status = missingStatus then throw (.source .secretNotFound)
  else if status ≠ successStatus then throw (.source (.status request.endpoint status))
  else
    match Json.decodeText body with
    | .error reason => throw (.decode ("secret store response: " ++ reason))
    | .ok answer =>
        match secret? answer with
        | none => throw (.source .secretNotFound)
        | some secret => (request.select secret).mapError .source

/-- Reads the secret that a request is for. -/
def perform (context : Context) (request : SecretRequest) : Action m Bytes := do
  let (status, body) ← fetch context { url := request.endpoint, token := some request.token }
  match request.answerBytes status body with
  | .ok bytes => pure bytes
  | .error fault => .fail fault

/-- Reads the secret that an address names. -/
def load (context : Context) (address : String) : Action m Bytes := do
  for name in repeatedParameters address do
    .log .warning s!"Ignoring repeated '{name}' parameter in secret-store URL"
  match ofAddress address with
  | .ok request => request.perform context
  | .error fault => .failSource fault

end SecretRequest

end TaggedConfig
