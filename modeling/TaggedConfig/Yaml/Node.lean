import TaggedConfig.Yaml.Lexing

/-! Nodes of a YAML document, in which aliases stand for themselves.
Whatever is left out where a node could stand is an empty scalar.
-/

namespace TaggedConfig.Yaml

/-- What may come before a node: its anchor and its tag. -/
structure Properties (α : Type) where
  anchor : Option α
  tag : Option String

/-- A node, in which anchors are named by `α`. -/
inductive Node (α : Type) where
  | alias (target : α)
  | scalar (properties : Properties α) (text : String) (plain : Bool)
  | sequence (properties : Properties α) (items : List (Node α))
  | mapping (properties : Properties α) (entries : List (Node α × Node α))

namespace Node

/-- The scalar of what is left out. -/
def empty {α : Type} : Node α := .scalar ⟨none, none⟩ "" true

/-- The number of containers that may stand within each other. -/
def depthLimit : Nat := 128

/-- The namespaces of tags by their handles. -/
abbrev Namespaces := List (String × String)

/-- The namespaces that need no directive. -/
def defaultNamespaces : Namespaces := [("!", "!"), ("!!", "tag:yaml.org,2002:")]

def fullTag? (namespaces : Namespaces) (handle suffix : String) : Option String :=
  if handle = "" then some suffix else (namespaces.lookup handle).map (· ++ suffix)

/-- Reads an anchor and a tag, in either order. -/
def readProperties? (namespaces : Namespaces) (tokens : List Token)
    : Option (Properties String × List Token) :=
  match tokens with
  | .anchor name :: .tag handle suffix :: rest
  | .tag handle suffix :: .anchor name :: rest =>
      (fullTag? namespaces handle suffix).map fun tag => (⟨some name, some tag⟩, rest)
  | .anchor name :: rest => some (⟨some name, none⟩, rest)
  | .tag handle suffix :: rest =>
      (fullTag? namespaces handle suffix).map fun tag => (⟨none, some tag⟩, rest)
  | _ => some (⟨none, none⟩, tokens)

/-- Reads a node unless a token comes next that can only follow one. -/
def orEmpty? (followers : List Token) (read : List Token → Option (Node String × List Token))
    (tokens : List Token) : Option (Node String × List Token) :=
  if tokens.head?.any followers.contains then some (.empty, tokens) else read tokens

/-- Puts an item before those that are read next. -/
def andThen? {α : Type} (first : Option (α × List Token))
    (read : List Token → Option (List α × List Token)) : Option (List α × List Token) := do
  let (item, rest) ← first
  let (items, rest) ← read rest
  some (item :: items, rest)

/-- What follows the comma between entries, or the bracket before the first. -/
def passComma? (first : Bool) (tokens : List Token) : Option (List Token) :=
  match first, tokens with
  | true, _ => some tokens
  | false, .flowEntry :: rest => some rest
  | false, _ => none

mutual

/-- Reads a node. A block can stand in a block only, and entries without indentation of their
own in a mapping only. At most `room` containers may stand within each other, and `fuel` bounds
the tokens.
-/
def read? (namespaces : Namespaces) (fuel room : Nat) (block unindented : Bool)
    (tokens : List Token) : Option (Node String × List Token) :=
  match fuel, tokens with
  | 0, _ => none
  | _ + 1, .alias name :: rest => some (.alias name, rest)
  | fuel + 1, tokens => do
      let (properties, tokens) ← readProperties? namespaces tokens
      let empty :=
        if properties.anchor.isSome || properties.tag.isSome then
          some (.scalar properties "" true, tokens)
        else none
      let sequence := Option.map fun (items, rest) => (sequence properties items, rest)
      let mapping := Option.map fun (entries, rest) => (mapping properties entries, rest)
      match tokens, room with
      | .scalar text plain :: rest, _ =>
          if properties.tag = some "!" then
            some (.scalar { properties with tag := none } text plain, rest)
          else some (.scalar properties text plain, rest)
      | .flowSequenceStart :: rest, room + 1 =>
          sequence (flowItems? namespaces fuel room true rest)
      | .flowMappingStart :: rest, room + 1 =>
          mapping (flowEntries? namespaces fuel room true rest)
      | .blockEntry :: _, room + 1 =>
          if unindented then sequence (unindentedItems? namespaces fuel room tokens) else empty
      | .blockSequenceStart :: rest, room + 1 =>
          if block then sequence (blockItems? namespaces fuel room rest) else empty
      | .blockMappingStart :: rest, room + 1 =>
          if block then mapping (blockEntries? namespaces fuel room rest) else empty
      | _, _ => empty

/-- Reads the entries of a sequence up to the end of its block. -/
def blockItems? (namespaces : Namespaces) (fuel room : Nat) (tokens : List Token)
    : Option (List (Node String) × List Token) :=
  match fuel, tokens with
  | fuel + 1, .blockEntry :: rest =>
      andThen?
        (orEmpty? [.blockEntry, .blockEnd] (read? namespaces fuel room true false) rest)
        (blockItems? namespaces fuel room)
  | _ + 1, .blockEnd :: rest => some ([], rest)
  | _, _ => none

/-- Reads the entries of a sequence that has no block of its own. -/
def unindentedItems? (namespaces : Namespaces) (fuel room : Nat) (tokens : List Token)
    : Option (List (Node String) × List Token) :=
  match fuel, tokens with
  | 0, _ => none
  | fuel + 1, .blockEntry :: rest =>
      andThen?
        (orEmpty? [.blockEntry, .key, .value, .blockEnd]
          (read? namespaces fuel room true false) rest)
        (unindentedItems? namespaces fuel room)
  | _ + 1, _ => some ([], tokens)

/-- Reads the entries of a mapping up to the end of its block. -/
def blockEntries? (namespaces : Namespaces) (fuel room : Nat) (tokens : List Token)
    : Option (List (Node String × Node String) × List Token) :=
  match fuel, tokens with
  | fuel + 1, .key :: rest =>
      let readPart := orEmpty? [.key, .value, .blockEnd] (read? namespaces fuel room true true)
      let entry := do
        let (key, rest) ← readPart rest
        match rest with
        | .value :: rest => do
            let (value, rest) ← readPart rest
            some ((key, value), rest)
        | _ => some ((key, .empty), rest)
      andThen? entry (blockEntries? namespaces fuel room)
  | _ + 1, .blockEnd :: rest => some ([], rest)
  | _, _ => none

/-- Reads the items of a sequence in brackets. A key among them begins a mapping of one entry.
-/
def flowItems? (namespaces : Namespaces) (fuel room : Nat) (first : Bool)
    (tokens : List Token) : Option (List (Node String) × List Token) :=
  match fuel, tokens with
  | 0, _ => none
  | _ + 1, .flowSequenceEnd :: rest => some ([], rest)
  | fuel + 1, tokens => do
      match ← passComma? first tokens with
      | .flowSequenceEnd :: rest => some ([], rest)
      | .key :: rest =>
          andThen? (flowPair? namespaces fuel room rest)
            (flowItems? namespaces fuel room false)
      | rest =>
          andThen? (read? namespaces fuel room false false rest)
            (flowItems? namespaces fuel room false)

/-- Reads a mapping of one entry after the mark of its key. The token that follows a key that is
left out counts as that key.
-/
def flowPair? (namespaces : Namespaces) (fuel room : Nat) (tokens : List Token)
    : Option (Node String × List Token) :=
  match fuel, room with
  | fuel + 1, room + 1 => do
      let (key, rest) ←
        match tokens with
        | .value :: rest | .flowEntry :: rest | .flowSequenceEnd :: rest => some (.empty, rest)
        | _ => read? namespaces fuel room false false tokens
      let (value, rest) ←
        match rest with
        | .value :: rest =>
            orEmpty? [.flowEntry, .flowSequenceEnd] (read? namespaces fuel room false false) rest
        | _ => some (.empty, rest)
      some (.mapping ⟨none, none⟩ [(key, value)], rest)
  | _, _ => none

/-- Reads the entries of a mapping in brackets. A node that is not marked as a key has no value.
-/
def flowEntries? (namespaces : Namespaces) (fuel room : Nat) (first : Bool)
    (tokens : List Token) : Option (List (Node String × Node String) × List Token) :=
  match fuel, tokens with
  | 0, _ => none
  | _ + 1, .flowMappingEnd :: rest => some ([], rest)
  | fuel + 1, tokens => do
      let read := read? namespaces fuel room false false
      let readNext := flowEntries? namespaces fuel room false
      match ← passComma? first tokens with
      | .flowMappingEnd :: rest => some ([], rest)
      | .key :: rest =>
          let entry := do
            let (key, rest) ← orEmpty? [.value, .flowEntry, .flowMappingEnd] read rest
            match rest with
            | .value :: rest => do
                let (value, rest) ← orEmpty? [.flowEntry, .flowMappingEnd] read rest
                some ((key, value), rest)
            | _ => some ((key, .empty), rest)
          andThen? entry readNext
      | rest => andThen? ((read rest).map fun (key, rest) => ((key, .empty), rest)) readNext

end

/-- Reads directives. There is at most one version, which is 1.1 or 1.2, and one namespace for a
handle.
-/
def readDirectives? (version : Bool) (namespaces : Namespaces)
    : List Token → Option (Namespaces × List Token)
  | .versionDirective major minor :: rest =>
      if version || major ≠ 1 || (minor ≠ 1 && minor ≠ 2) then none
      else readDirectives? true namespaces rest
  | .tagDirective handle text :: rest =>
      if (namespaces.lookup handle).isSome then none
      else readDirectives? version ((handle, text) :: namespaces) rest
  | tokens => some (namespaces, tokens)

/-- The node of a document, which is all there is. A text without a document has none. -/
def ofTokens? (tokens : List Token) : Option (Option (Node String)) := do
  let fuel := 3 * tokens.length + 3
  let (namespaces, rest) ← readDirectives? false [] tokens
  let read := read? (namespaces ++ defaultNamespaces) fuel depthLimit true false
  let contents ←
    match tokens, rest with
    | [], _ => some (none, [])
    | _, .documentStart :: rest =>
        let next := rest.head?
        if next.all fun token => token.isDirective || [.documentStart, .documentEnd].contains token
        then some (some .empty, rest)
        else (read rest).map fun (node, rest) => (some node, rest)
    | first :: _, rest =>
        if first.isDirective then none
        else (read rest).map fun (node, rest) => (some node, rest)
  if contents.2.all (· = .documentEnd) then some contents.1 else none

end Node

end TaggedConfig.Yaml
