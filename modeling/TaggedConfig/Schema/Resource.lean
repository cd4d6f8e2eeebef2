import TaggedConfig.Json.Compare
import TaggedConfig.Schema.Basic
import TaggedConfig.Schema.Refusal
import TaggedConfig.Text.Utf8

/-! Resources: the schemas within a document and what references between them lead to.
All of them are gone through before any schema is read, so that a reference out of the
document is refused wherever it stands.
-/

namespace TaggedConfig.Schema

/-- The vocabulary of a name of a schema of schemas. -/
def vocabulary? (name : String) : Option Vocabulary :=
  match name with
  | "https://json-schema.org/draft/2020-12/schema" => some .draft2020
  | "https://json-schema.org/draft/2019-09/schema" => some .draft2020
  | "http://json-schema.org/draft-07/schema" => some .draft7
  | "http://json-schema.org/draft-06/schema" => some .draft7
  | "http://json-schema.org/draft-04/schema" => some .draft7
  | _ => none

/-- The vocabulary that a value declares, or the one around it. Number signs at the end of a
name do not count.
-/
def declaredVocabulary (outer : Vocabulary) (value : Json) : Except Refusal Vocabulary :=
  match value.member? "$schema" with
  | some (.string name) =>
      let name := String.ofList (Text.trimEnd '#' name.toList)
      match vocabulary? name with
      | some vocabulary => pure vocabulary
      | none => throw (.unknownVocabulary name)
  | _ => pure outer

def documentAddress : Text.Uri :=
  ⟨some "json-schema".toList, some [], ['/'], none, none⟩

/-- The address that a reference stands for. -/
def addressOf (reference : String) : Except Refusal Text.Uri :=
  match Text.Uri.parse reference with
  | .ok uri => pure (documentAddress.resolve uri).normalize
  | .error fault => throw (.badReference reference fault)

/-- The name that a part of a pointer writes. -/
def pointerName : List Char → List Char
  | '~' :: c :: rest =>
      if c = '1' then '/' :: pointerName rest
      else if c = '0' then '~' :: pointerName rest
      else '~' :: c :: pointerName rest
  | c :: rest => c :: pointerName rest
  | [] => []

/-- The bytes of a text in which octets may be written in hexadecimal. -/
def octets : List Char → Bytes
  | '%' :: a :: b :: rest =>
      if Text.Uri.isHexDigit a && Text.Uri.isHexDigit b then
        UInt8.ofNat (Text.Uri.hexValue a * 16 + Text.Uri.hexValue b) :: octets rest
      else String.utf8EncodeChar '%' ++ octets (a :: b :: rest)
  | c :: rest => String.utf8EncodeChar c ++ octets rest
  | [] => []
termination_by text => text.length

/-- The greatest index of an item. -/
def indexLimit : Nat := UInt64.size - 1

/-- The index that a text writes. -/
def index? (text : List Char) : Option Nat :=
  let digits := if text.head? = some '+' then text.drop 1 else text
  let n := digits.foldl (fun n c => n * 10 + (c.toNat - 48)) 0
  if digits.isEmpty || !digits.all Char.isDigit || indexLimit < n then none else some n

/-- The value that a part of a pointer leads to. -/
def step (pointer : String) (value : Json) (part : List Char) : Except Refusal Json :=
  let name := pointerName part
  let found (value? : Option Json) : Except Refusal Json :=
    match value? with
    | some value => pure value
    | none => throw (.missingPointer pointer)
  match value with
  | .object members => found (members.lookup (String.ofList name))
  | .array items =>
      match index? name with
      | some index => found items[index]?
      | none => throw (.badIndex (String.ofList name) pointer)
  | _ => throw (.missingPointer pointer)

def atPointer (root : Json) (pointer : List Char) : Except Refusal Json := do
  let shown := String.ofList pointer
  match Utf8.decode? (octets pointer) with
  | some text => ((Text.pieces '/' text.toList).drop 1).foldlM (step shown) root
  | none => throw (.badOctets shown)

/-- A schema within a document and its vocabulary. -/
structure Resource where
  value : Json
  vocabulary : Vocabulary

def schemaKeywords (vocabulary : Vocabulary) : List String :=
  ["additionalProperties", "contains", "else", "if", "items", "not", "propertyNames", "then"]
    ++ match vocabulary with
      | .draft7 => ["additionalItems"]
      | .draft2020 => ["contentSchema", "unevaluatedItems", "unevaluatedProperties"]

/-- Keywords whose value is a list of schemas. -/
def listKeywords (vocabulary : Vocabulary) : List String :=
  ["allOf", "anyOf", "oneOf"]
    ++ match vocabulary with
      | .draft7 => ["items"]
      | .draft2020 => ["prefixItems"]

/-- Keywords whose value is an object of schemas. -/
def namedKeywords (vocabulary : Vocabulary) : List String :=
  ["definitions", "patternProperties", "properties"]
    ++ match vocabulary with
      | .draft7 => ["dependencies"]
      | .draft2020 => ["$defs", "dependentSchemas"]

/-- The schemas right within a schema. -/
def Resource.parts (resource : Resource) : List Json :=
  ((resource.value.members?).getD []).flatMap fun (name, value) =>
    match value with
    | .array items =>
        if (listKeywords resource.vocabulary).contains name then items else []
    | .object members =>
        if (schemaKeywords resource.vocabulary).contains name then [value]
        else if (namedKeywords resource.vocabulary).contains name then members.map (·.2)
        else []
    | _ => []

/-- Starts of the addresses of schemas of schemas, which are always at hand. -/
def knownAddresses : List String :=
  ["https://json-schema.org/draft/2020-12/", "https://json-schema.org/draft/2019-09/",
    "http://json-schema.org/draft-07/", "http://json-schema.org/draft-06/",
    "http://json-schema.org/draft-04/"]

/-- The references out of the document that a schema makes, directly or by references within
it, of which those in `seen` have been followed.
-/
def references (root : Json) : Nat → List String → Json → List String
  | 0, _, _ => []
  | fuel + 1, seen, value =>
      match value.member? "$ref" with
      | some (.string target) =>
          if seen.contains target || knownAddresses.any (target.startsWith ·) then []
          else
            match target.toList with
            | '#' :: pointer =>
                match atPointer root (pointer.dropWhile (· = '#')) with
                | .ok value => references root fuel (target :: seen) value
                | .error _ => []
            | _ => [target]
      | _ => []

/-- Checks the references of a schema, and gives the resources right within it. -/
def Resource.check (root : Json) (resource : Resource)
    : Except Refusal (List Text.Uri × List Resource) := do
  let addresses ← (references root (root.size + 1) [] resource.value).mapM addressOf
  let parts ← resource.parts.mapM fun value => do
    pure (⟨value, ← declaredVocabulary resource.vocabulary value⟩ : Resource)
  pure (addresses.map (·.withoutFragment), parts)

/-- Goes through resources level by level, `fuel` of them at most. The answer gives the
addresses that are referred to, and the resources.
-/
def gather (root : Json) : Nat → List Resource
    → Except Refusal (List Text.Uri × List Resource)
  | 0, _ => pure ([], [])
  | _, [] => pure ([], [])
  | fuel + 1, resource :: queue => do
      let (addresses, parts) ← resource.check root
      let (others, resources) ← gather root fuel (queue ++ parts)
      pure (addresses ++ others, resource :: resources)

/-- The refusal of an address that is not at hand. No file is read and no request sent for one, so
it is always that of a file that is missing or of a network that does not answer.
-/
def missing (address : Text.Uri) : Refusal :=
  let reason : Retrieval :=
    match String.ofList (address.scheme.getD []) with
    | "http" | "https" =>
        let path := if address.path = [] then ['/'] else address.path
        .unreachable { address with path := path }.text
    | "file" => .noFile
    | scheme => .unknownScheme scheme
  .missingResource address.text reason

/-- The resources of a document, if all references lead to it. -/
def resources (root : Json) : Except Refusal (List Resource) := do
  let vocabulary ← declaredVocabulary .draft2020 root
  let (addresses, resources) ← gather root (root.size + 1) [⟨root, vocabulary⟩]
  match addresses.find? (· ≠ documentAddress) with
  | some address => throw (missing address)
  | none => pure resources

/-- The name under which a reference can point to a resource. -/
def Resource.anchor? (resource : Resource) : Option String :=
  match resource.vocabulary with
  | .draft2020 =>
      match resource.value.member? "$anchor", resource.value.member? "$dynamicAnchor" with
      | some (.string name), _ | _, some (.string name) => some name
      | _, _ => none
  | .draft7 =>
      match resource.value.member? "$id" with
      | some (.string name) => (Text.dropStart? ['#'] name.toList).map String.ofList
      | _ => none

/-- The value that a fragment names within a document. -/
def atFragment (root : Json) (resources : List Resource) (fragment : List Char)
    : Except Refusal Json :=
  match fragment with
  | [] => pure root
  | '/' :: _ => atPointer root fragment
  | anchor =>
      let name := String.ofList anchor
      match resources.find? (·.anchor? = some name) with
      | some resource => pure resource.value
      | none => throw (if anchor.contains '/' then .badAnchor name else .missingAnchor name)

end TaggedConfig.Schema
