import TaggedConfig.Json.Print
import TaggedConfig.Text.Uri

/-! Why a value is refused as a schema. -/

namespace TaggedConfig.Schema

/-- Why a resource other than the document is not to be had. -/
inductive Retrieval where
  | unknownScheme (scheme : String)
  /-- The network does not answer. -/
  | unreachable (address : String)
  | noFile
  /-- All resources are gathered before schemas are read. -/
  | tooLate
  deriving DecidableEq, Repr

/-- A reason to refuse a value as a schema. -/
inductive Refusal where
  /-- What the schema of schemas finds. -/
  | finding (message : String)
  | unknownVocabulary (name : String)
  | badReference (text : String) (fault : Text.UriFault)
  | missingResource (address : String) (reason : Retrieval)
  | missingPointer (pointer : String)
  | badIndex (index pointer : String)
  | badOctets (pointer : String)
  | missingAnchor (name : String)
  | badAnchor (name : String)
  | wrongType (value : Json) (types : List String)
  | notFormat (value : Json) (format : String)
  | unknownType
  | notTypeName (value : Json)
  | repeatedNames (value : Json)

def typeNames : List String :=
  ["array", "boolean", "integer", "null", "number", "object", "string"]

/-- Texts with commas between them. -/
def listed (texts : List String) : String := ", ".intercalate texts

/-- The statement that a value is of none of the types. -/
def wrongTypeText (value : Json) (types : List String) : String :=
  match types with
  | [type] => value.text ++ " is not of type " ++ Json.stringText type
  | types => value.text ++ " is not of types " ++ listed (types.map Json.stringText)

/-- The statement that a value is not of a format. -/
def notFormatText (value : Json) (format : String) : String :=
  value.text ++ " is not a " ++ Json.stringText format

/-- The statement that a value is none of those that are allowed. -/
def notOneOfText (value : Json) (values : List Json) : String :=
  value.text ++ " is not one of " ++ (Json.array values).text

/-- The statement that items occur again in a list. -/
def repeatedText (value : Json) : String := value.text ++ " has non-unique elements"

/-- The wording of a failed retrieval. -/
def Retrieval.message : Retrieval → String
  | unknownScheme scheme => s!"Unknown scheme {scheme}"
  | unreachable address => s!"error sending request for url ({address})"
  | noFile => "No such file or directory (os error 2)"
  | tooLate => "Retrieving external resources is not supported once the registry is populated"

def Refusal.message : Refusal → String
  | finding message => message
  | unknownVocabulary name => s!"Unknown specification: {name}"
  | badReference text fault => s!"Invalid URI reference '{text}': {fault.message}"
  | missingResource address reason =>
      s!"Resource '{address}' is not present in a registry and retrieving it failed: "
        ++ reason.message
  | missingPointer pointer => s!"Pointer '{pointer}' does not exist"
  | badIndex index pointer => s!"Failed to parse array index '{index}' in pointer '{pointer}'"
  | badOctets pointer =>
      s!"Invalid percent encoding in pointer '{pointer}': "
        ++ "the decoded bytes do not represent valid UTF-8"
  | missingAnchor name => s!"Anchor '{name}' does not exist"
  | badAnchor name => s!"Anchor '{name}' is invalid"
  | wrongType value types => wrongTypeText value types
  | notFormat value format => notFormatText value format
  | unknownType => "Unexpected type"
  | notTypeName value => notOneOfText value (typeNames.map .string)
  | repeatedNames value => repeatedText value

end TaggedConfig.Schema
