import TaggedConfig.Yaml.Layout
import TaggedConfig.Yaml.Literal
import TaggedConfig.Yaml.Plain
import TaggedConfig.Yaml.Quoted
import TaggedConfig.Yaml.Tag

/-! The tokens of a YAML text.
Outside of brackets a deeper column opens a block, and a token at a lesser column closes it.
-/

namespace TaggedConfig.Yaml

namespace Layout

/-- Reads the mark of the start or end of a document. -/
def readDocumentMark? (layout : Layout) (token : Token) : Option Layout := do
  let layout ← (layout.closeBlocks (-1)).dropKey?
  some ((layout.allowKey false).emitMark token 3)

/-- Reads a directive with the rest of its line, which may hold a comment. -/
def readDirectiveLine? (layout : Layout) : Option Layout := do
  let layout ← (layout.closeBlocks (-1)).dropKey?
  let (directive, rest) ← readDirective? (layout.cursor.rest.drop 1)
  let cursor := ((layout.cursor.moveTo rest).skipWhile isBlank).skipComment
  if isLineEnd cursor.rest then
    some { (layout.allowKey false).emit directive with cursor := cursor.skipBreak }
  else none

def readOpening? (layout : Layout) (token : Token) : Option Layout := do
  let layout ← layout.noteKey?
  some ((layout.openFlow.allowKey true).emitMark token 1)

def readClosing? (layout : Layout) (token : Token) : Option Layout := do
  let layout ← layout.dropKey?
  some ((layout.closeFlow.allowKey false).emitMark token 1)

def readComma? (layout : Layout) : Option Layout := do
  let layout ← layout.dropKey?
  some ((layout.allowKey true).emitMark .flowEntry 1)

def readDash? (layout : Layout) : Option Layout := do
  let layout ← (← layout.openBlockHere? .blockSequenceStart).dropKey?
  some ((layout.allowKey true).emitMark .blockEntry 1)

def readKeyMark? (layout : Layout) : Option Layout := do
  let layout ← (← layout.openBlockHere? .blockMappingStart).dropKey?
  some ((layout.allowKey (! layout.isInFlow)).emitMark .key 1)

/-- Reads the colon of a value, which makes a key of what may be one. -/
def readColon? (layout : Layout) : Option Layout :=
  match layout.key with
  | some key =>
      let layout := layout.insert key.number .key
      let layout := layout.openBlock key.column key.number .blockMappingStart
      some { (layout.allowKey false).emitMark .value 1 with key := none }
  | none => do
      let layout ← layout.openBlockHere? .blockMappingStart
      some ((layout.allowKey (! layout.isInFlow)).emitMark .value 1)

/-- Adds the token of a property or an alias, which may begin a key, and what follows it. -/
def readProperty? (layout : Layout) (read : Option (Token × List Char)) : Option Layout := do
  let layout ← layout.noteKey?
  let (token, rest) ← read
  some { (layout.allowKey false).emit token with cursor := layout.cursor.moveTo rest }

/-- Reads a tag, after which a gap has to follow, or a comma between brackets. -/
def readTag? (layout : Layout) : Option Layout := do
  let (token, rest) ← Yaml.readTag? layout.cursor.rest
  let comma := layout.isInFlow && rest.head? = some ','
  if isGap rest || comma then layout.readProperty? (some (token, rest)) else none

def readAnchor? (layout : Layout) (token : String → Token) : Option Layout :=
  layout.readProperty?
    ((readName? (layout.cursor.rest.drop 1)).map fun (name, rest) => (token name, rest))

/-- Reads a scalar as a block of lines. -/
def readLiteral? (layout : Layout) (folds : Bool) : Option Layout := do
  let layout ← layout.dropKey?
  let (text, cursor) ← Literal.read? folds layout.indent layout.cursor
  let token := .scalar (.ofList text) false
  some { (layout.allowKey true).emit token with cursor := cursor }

def readQuoted? (layout : Layout) (double : Bool) : Option Layout := do
  let layout ← layout.noteKey?
  let (text, cursor) ← Quoted.read? double layout.cursor
  let token := .scalar (.ofList text) false
  some { (layout.allowKey false).emit token with cursor := cursor }

/-- Reads a scalar without quotes, after the last line of which a key may begin. -/
def readPlain? (layout : Layout) : Option Layout := do
  let layout ← layout.noteKey?
  let least := (layout.indent + 1).toNat
  let (text, broken, cursor) ← Plain.read? layout.isInFlow least layout.cursor
  let token := .scalar (.ofList text) true
  some { (layout.allowKey broken).emit token with cursor := cursor }

/-- Signs that cannot begin a scalar without quotes. -/
def signs : List Char :=
  ['-', '?', ':', ',', '[', ']', '\x7b', '\x7d', '#', '&', '*', '!', '|', '>', '\'', '"', '%',
    '@', '\x60']

/-- Whether a scalar without quotes can begin with a text. A dash can, and outside of brackets
a question mark or a colon, unless there is a gap after it.
-/
def startsPlain (inFlow : Bool) : List Char → Bool
  | [] => false
  | c :: rest =>
      if isBlank c || isBreak c then false
      else if !signs.contains c then true
      else if c = '-' then !rest.head?.any isBlank
      else !inFlow && (c = '?' || c = ':') && !isGap rest

/-- Reads the next token from its first character on. -/
def readToken? (layout : Layout) (c : Char) (rest : List Char) : Option Layout :=
  let inFlow := layout.isInFlow
  let first := layout.cursor.column = 0
  if first && c = '%' then layout.readDirectiveLine?
  else if first && startsDocument (c :: rest) then layout.readDocumentMark? .documentStart
  else if first && endsDocument (c :: rest) then layout.readDocumentMark? .documentEnd
  else if c = '[' then layout.readOpening? .flowSequenceStart
  else if c = '\x7b' then layout.readOpening? .flowMappingStart
  else if c = ']' then layout.readClosing? .flowSequenceEnd
  else if c = '\x7d' then layout.readClosing? .flowMappingEnd
  else if c = ',' then layout.readComma?
  else if c = '-' && isGap rest then layout.readDash?
  else if c = '?' && (inFlow || isGap rest) then layout.readKeyMark?
  else if c = ':' && (inFlow || isGap rest) then layout.readColon?
  else if c = '*' then layout.readAnchor? .alias
  else if c = '&' then layout.readAnchor? .anchor
  else if c = '!' then layout.readTag?
  else if c = '|' && !inFlow then layout.readLiteral? false
  else if c = '>' && !inFlow then layout.readLiteral? true
  else if c = '\'' then layout.readQuoted? false
  else if c = '"' then layout.readQuoted? true
  else if startsPlain inFlow (c :: rest) then layout.readPlain?
  else none

/-- Reads the tokens that are left; `fuel` bounds their number. -/
def readAll? : Nat → Layout → Option (List Token)
  | 0, _ => none
  | fuel + 1, layout => do
      let layout ← (layout.passSpace (layout.cursor.rest.length + 1)).expireKeys?
      let layout := layout.closeBlocks layout.cursor.column
      match layout.cursor.rest with
      | [] =>
          let layout ← (layout.closeBlocks (-1)).dropKey?
          some layout.tokens.reverse
      | c :: rest => do readAll? fuel (← layout.readToken? c rest)

end Layout

/-- The tokens of a text, which may begin with a byte order mark. -/
def Token.ofText? (text : List Char) : Option (List Token) :=
  let text :=
    match text with
    | '\uFEFF' :: rest => rest
    | _ => text
  if text.all isAllowed then (Layout.start text).readAll? (text.length + 2) else none

end TaggedConfig.Yaml
