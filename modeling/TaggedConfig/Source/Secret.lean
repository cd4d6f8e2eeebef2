import TaggedConfig.Error
import TaggedConfig.Source.Query

/-! Requests to a secret store, as its addresses state them.
The query names an access token, the path of a secret and perhaps a key within it.
-/

namespace TaggedConfig

/-- A request for a secret, or for the value at a key of it. -/
structure SecretRequest where
  /-- The server, without slashes at the end. -/
  server : String
  token : String
  path : String
  /-- The segments of the key; none stand for the whole secret. -/
  key : List String
  deriving DecidableEq, Repr

namespace SecretRequest

/-- The query of an address: after the first question mark, before a number sign. -/
def query (afterMark : List Char) : List Char :=
  match Text.splitFirst? '#' afterMark with
  | some (query, _) => query
  | none => afterMark

/-- The parameters that mean something to a secret store. -/
def parameterNames : List String := ["token", "path", "key"]

/-- The segments of a key, none of which may be empty. -/
def keySegments? (key : String) : Option (List String) :=
  let segments := Text.pieces '/' key.toList
  if segments.any (·.isEmpty) then none else some (segments.map String.ofList)

/-- A parameter that must have a value. -/
def required (fault : SourceFault) : Option String → Except SourceFault String
  | some value => if value.isEmpty then throw fault else pure value
  | none => throw fault

/-- The request that the parameters of a query state. The key is examined first, then the
token, then the path; the first parameter of a name counts.
-/
def ofParameters (server : List Char) (parameters : List (String × String))
    : Except SourceFault SecretRequest := do
  let key ←
    match Query.first? "key" parameters with
    | none => pure []
    | some key =>
        match keySegments? key with
        | some segments => pure segments
        | none => throw .secretKey
  let token ← required .secretToken (Query.first? "token" parameters)
  let path ← required .secretPath (Query.first? "path" parameters)
  pure { server := String.ofList (Text.trimEnd '/' server), token, path, key }

/-- The parameters of an address, if it has a query, and its server. -/
def parameters? (address : String) : Option (List Char × List (String × String)) :=
  (Text.splitFirst? '?' address.toList).map fun (server, afterMark) =>
    (server, Query.parameters (query afterMark))

/-- The request that an address states. -/
def ofAddress (address : String) : Except SourceFault SecretRequest :=
  match parameters? address with
  | none => throw .secretAddress
  | some (server, parameters) => ofParameters server parameters

/-- The parameters of an address that repeat an earlier one and do not count. -/
def repeatedParameters (address : String) : List String :=
  match parameters? address with
  | none => []
  | some (_, parameters) => Query.repeated parameterNames [] parameters

/-- The URL at which the secret is read. -/
def endpoint (request : SecretRequest) : String :=
  request.server ++ "/v1/" ++ String.ofList (request.path.toList.dropWhile (· = '/'))

def keyText (request : SecretRequest) : String := "/".intercalate request.key

end SecretRequest

end TaggedConfig
