import TaggedConfig.Schema.Meta
import TaggedConfig.Schema.Reading
import TaggedConfig.Schema.Source

/-! Schema documents: a schema together with what its references point to.
A document is refused if it does not obey the schema of schemas, if a pattern in it is none or
if a reference points nowhere. This is the engine with which the program runs. It covers the
schemas that stand by themselves and the keywords that these mostly use; an engine may do more,
and nothing about the program depends on which one it has.
-/

namespace TaggedConfig

/-- A schema and the document that it was read from. -/
structure SchemaDocument where
  origin : Schema.Origin
  vocabulary : Schema.Vocabulary
  root : Schema

namespace SchemaDocument

/-- The value of a document. -/
def source (document : SchemaDocument) : Json := document.origin.root

/-- A bound on the nesting of schemas in a value whose references are each followed once. -/
def nestingBound (source : Json) : Nat := (source.depth + 2) * (source.size + 1)

/-- The schema of schemas at an address. -/
def known? (reference : String) : Option Schema :=
  (Schema.vocabulary? (String.ofList (Text.trimEnd '#' reference.toList))).map
    Schema.Meta.ofVocabulary

/-- The schema that a reference points to. -/
def resolve (document : SchemaDocument) (reference : String) : Option Schema :=
  match known? reference with
  | some schema => some schema
  | none => do
      let value ← (Schema.target document.origin reference).toOption
      let reader := Schema.read document.origin (nestingBound document.source) document.vocabulary
      (((reader value).run []).toOption).map (·.1)

/-- The schema document of a value, or why the value states no schema. Nothing outside the value is
looked at, so that a schema that refers to another file or address states none.
-/
def ofJson (source : Json) : Except Schema.Refusal SchemaDocument := do
  let vocabulary ← Schema.declaredVocabulary .draft2020 source
  let origin : Schema.Origin := ⟨source, ← Schema.resources source⟩
  match Schema.Meta.findings vocabulary source with
  | first :: _ => throw (.finding first.message)
  | [] => do
      let (root, _) ← (Schema.read origin (nestingBound source) vocabulary source).run []
      pure ⟨origin, vocabulary, root⟩

/-- What the schema of a document does not allow in a value. References lead on from each
level of the value at most once around the document.
-/
def findings (document : SchemaDocument) (value : Json) : List Finding :=
  Schema.findings document.resolve (nestingBound document.source * (value.depth + 1))
    document.root "" value

end SchemaDocument

/-- The engine of schemas that stand by themselves. It does nothing on the host. -/
def SchemaEngine.standalone {m : Type → Type} [Monad m] : SchemaEngine m where
  compile value :=
    pure (((SchemaDocument.ofJson value).mapError (·.message)).map (·.findings))

end TaggedConfig
