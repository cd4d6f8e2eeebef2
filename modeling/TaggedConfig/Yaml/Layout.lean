import TaggedConfig.Yaml.Cursor
import TaggedConfig.Yaml.Token

/-! Tokens read so far, the indentation in force and what may yet turn out to be a key.
A key is known by the colon after it, so its token is put in before what has been read since.
-/

namespace TaggedConfig.Yaml

/-- The start of what may be a key. It is required to be one if it begins at the indentation in
force.
-/
structure PossibleKey where
  required : Bool
  number : Nat
  index : Nat
  line : Nat
  column : Nat

/-- What has been read up to a place, the last token first. The keys are those of the brackets
that are open, and `key` is that of the innermost.
-/
structure Layout where
  cursor : Cursor
  tokens : List Token
  indent : Int
  outerIndents : List Int
  keyAllowed : Bool
  key : Option PossibleKey
  outerKeys : List (Option PossibleKey)

namespace Layout

def start (text : List Char) : Layout :=
  { cursor := .start text, tokens := [], indent := -1, outerIndents := []
    keyAllowed := true, key := none, outerKeys := [] }

/-- Whether brackets are open. -/
def isInFlow (layout : Layout) : Bool := !layout.outerKeys.isEmpty

/-- Adds a token. -/
def emit (layout : Layout) (token : Token) : Layout :=
  { layout with tokens := token :: layout.tokens }

/-- Puts in a token after the first `number` tokens. -/
def insert (layout : Layout) (number : Nat) (token : Token) : Layout :=
  let later := layout.tokens.length - number
  { layout with
    tokens := layout.tokens.take later ++ token :: layout.tokens.drop later }

/-- Adds a token that is written with `n` characters. -/
def emitMark (layout : Layout) (token : Token) (n : Nat) : Layout :=
  { layout.emit token with cursor := layout.cursor.skip n }

def allowKey (layout : Layout) (allowed : Bool) : Layout :=
  { layout with keyAllowed := allowed }

/-- Gives up a key that is not required. -/
def giveUp? : Option PossibleKey → Option (Option PossibleKey)
  | some key => if key.required then none else some none
  | none => some none

/-- Gives up the innermost key. -/
def dropKey? (layout : Layout) : Option Layout :=
  (giveUp? layout.key).map fun key => { layout with key := key }

/-- Gives up a key that began on an earlier line or too many characters ago. -/
def expire? (cursor : Cursor) : Option PossibleKey → Option (Option PossibleKey)
  | some key =>
      if key.line < cursor.line || key.index + 1024 < cursor.index then giveUp? (some key)
      else some (some key)
  | none => some none

/-- Gives up every key that has become too old. -/
def expireKeys? (layout : Layout) : Option Layout := do
  let key ← expire? layout.cursor layout.key
  let outerKeys ← layout.outerKeys.mapM (expire? layout.cursor)
  some { layout with key := key, outerKeys := outerKeys }

/-- Notes that a key may begin at the place, if one is allowed. -/
def noteKey? (layout : Layout) : Option Layout :=
  let cursor := layout.cursor
  let key : PossibleKey :=
    { required := !layout.isInFlow && layout.indent = cursor.column
      number := layout.tokens.length, index := cursor.index, line := cursor.line
      column := cursor.column }
  if layout.keyAllowed then
    layout.dropKey?.map fun layout => { layout with key := some key }
  else some layout

def openFlow (layout : Layout) : Layout :=
  { layout with key := none, outerKeys := layout.key :: layout.outerKeys }

/-- Closes a bracket, if one is open. -/
def closeFlow (layout : Layout) : Layout :=
  match layout.outerKeys with
  | key :: outerKeys => { layout with key := key, outerKeys := outerKeys }
  | [] => layout

/-- Opens a block at a column that is indented deeper, its token after the first `number`. -/
def openBlock (layout : Layout) (column number : Nat) (token : Token) : Layout :=
  if !layout.isInFlow && layout.indent < column then
    let outerIndents := layout.indent :: layout.outerIndents
    { layout.insert number token with indent := column, outerIndents := outerIndents }
  else layout

/-- Opens a block at the place, where an entry may stand only if a key may. -/
def openBlockHere? (layout : Layout) (token : Token) : Option Layout :=
  if layout.isInFlow then some layout
  else if layout.keyAllowed then
    some (layout.openBlock layout.cursor.column layout.tokens.length token)
  else none

/-- The indentations that are left when a block has to begin at a column, and how many end. -/
def remaining (column indent : Int) : List Int → Int × List Int × Nat
  | [] => (indent, [], 0)
  | outer :: others =>
      if column < indent then
        let (indent, others, ended) := remaining column outer others
        (indent, others, ended + 1)
      else (indent, outer :: others, 0)

/-- Closes the blocks that are indented deeper than a column. -/
def closeBlocks (layout : Layout) (column : Int) : Layout :=
  if layout.isInFlow then layout
  else
    let (indent, outerIndents, ended) := remaining column layout.indent layout.outerIndents
    { layout with
      tokens := List.replicate ended .blockEnd ++ layout.tokens
      indent := indent, outerIndents := outerIndents }

/-- Passes spaces, comments and line ends. A tab is no space where a key may begin, and a new
line may begin with a key outside of brackets.
-/
def passSpace : Nat → Layout → Layout
  | 0, layout => layout
  | fuel + 1, layout =>
      let tabs := layout.isInFlow || !layout.keyAllowed
      let spaces := layout.cursor.skipWhile fun c => c = ' ' || (tabs && c = '\t')
      let cursor := spaces.skipComment
      if cursor.rest.head?.any isBreak then
        passSpace fuel
          { layout with
            cursor := cursor.skipBreak, keyAllowed := layout.keyAllowed || !layout.isInFlow }
      else { layout with cursor := cursor }

end Layout

end TaggedConfig.Yaml
