/-! Tokens of a YAML text.
Indentation and brackets have become pairs of tokens, so what belongs together stands between
a start and its end.
-/

namespace TaggedConfig.Yaml

/-- A token. A tag has the handle of its namespace and what follows it. -/
inductive Token where
  | versionDirective (major minor : Nat)
  | tagDirective (handle namespaceText : String)
  | documentStart
  | documentEnd
  | blockSequenceStart
  | blockMappingStart
  | blockEnd
  | flowSequenceStart
  | flowSequenceEnd
  | flowMappingStart
  | flowMappingEnd
  | blockEntry
  | flowEntry
  | key
  | value
  | alias (name : String)
  | anchor (name : String)
  | tag (handle suffix : String)
  | scalar (text : String) (plain : Bool)
  deriving DecidableEq, Repr

def Token.isDirective : Token → Bool
  | .versionDirective .. | .tagDirective .. => true
  | _ => false

end TaggedConfig.Yaml
