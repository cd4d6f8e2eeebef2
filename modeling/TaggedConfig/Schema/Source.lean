import TaggedConfig.Json.Decode
import TaggedConfig.Source.Builtin
import TaggedConfig.Yaml.Document

/-! Where schemas come from: JSON text, YAML text or a file of either.
A file is YAML if its name says so. What a value that states a schema allows is left to an engine.
-/

namespace TaggedConfig

/-- What compiles schemas. It says what a schema does not allow in a value, or why a value states
no schema. While it compiles it may act on the host, since a schema may refer to others in files
and on the network.
-/
structure SchemaEngine (m : Type → Type) where
  compile : Json → m (Except String (Json → List Finding))

/-- A schema as it is stated and what it does not allow in a value. -/
structure CompiledSchema where
  source : Json
  findings : Json → List Finding

namespace CompiledSchema

/-- The value that a YAML text states. -/
def yamlValue (text : String) : Except String Json :=
  match Yaml.ofString? text with
  | some value => pure value
  | none => throw "invalid YAML"

/-- What follows the last dot of a file's name, unless the dot comes first. -/
def extension? (path : String) : Option String :=
  match ((path.splitOn "/").filter fun part => part ≠ "" ∧ part ≠ ".").getLast? with
  | none => none
  | some name =>
      match (name.splitOn ".").reverse with
      | ending :: stem => if ".".intercalate stem.reverse = "" then none else some ending
      | [] => none

def isYamlFile (path : String) : Bool :=
  match extension? path with
  | some ending => ending = "yaml" || ending = "yml"
  | none => false

/-- The value that the text of a file states. -/
def fileValue (path text : String) : Except String Json :=
  if isYamlFile path then yamlValue text else Json.decodeText (Utf8.encode text)

variable {m : Type → Type} [Monad m] [Host m]

/-- The schema that a value states. -/
def ofValue (engine : SchemaEngine m) (value : Json) : Action m CompiledSchema := do
  match ← ExceptT.lift (engine.compile value) with
  | .ok findings => pure ⟨value, findings⟩
  | .error reason => .fail (.schema reason)

/-- The schema of a text, by the value that it states. -/
def ofStated (engine : SchemaEngine m) (stated : Except String Json) : Action m CompiledSchema :=
  match stated with
  | .ok value => ofValue engine value
  | .error reason => .fail (.schema reason)

def ofJsonText (engine : SchemaEngine m) (text : Bytes) : Action m CompiledSchema :=
  ofStated engine (Json.decodeText text)

def ofYamlText (engine : SchemaEngine m) (text : String) : Action m CompiledSchema :=
  ofStated engine (yamlValue text)

def ofFile (engine : SchemaEngine m) (path : String) : Action m CompiledSchema := do
  let data ← readFileSource path
  match Utf8.decode? data with
  | none => .failSource (.file path FileFault.notText.reason)
  | some text => (ofStated engine (fileValue path text)).adapt (·.withSource path)

end CompiledSchema

end TaggedConfig
