/-! Places in a YAML text, and the characters that lines and indicators are made of.
A cursor knows its line and column, because indentation decides what belongs to what.
-/

namespace TaggedConfig.Yaml

/-- Whether a character ends a line. -/
def isBreak (c : Char) : Bool :=
  c = '\r' || c = '\n' || c = '\u0085' || c = '\u2028' || c = '\u2029'

def isBlank (c : Char) : Bool := c = ' ' || c = '\t'

/-- Whether a text is at its end or begins with a blank or the end of a line. -/
def isGap : List Char → Bool
  | [] => true
  | c :: _ => isBlank c || isBreak c

/-- Whether a text is at its end or begins with the end of a line. -/
def isLineEnd : List Char → Bool
  | [] => true
  | c :: _ => isBreak c

/-- Brackets and the comma, which part values within brackets. -/
def isFlowMark (c : Char) : Bool := [',', '[', ']', '\x7b', '\x7d'].contains c

def isNameChar (c : Char) : Bool := c.isAlphanum || c = '_' || c = '-'

/-- Whether a text begins with the mark of the start of a document. -/
def startsDocument : List Char → Bool
  | '-' :: '-' :: '-' :: rest => isGap rest
  | _ => false

/-- Whether a text begins with the mark of the end of a document. -/
def endsDocument : List Char → Bool
  | '.' :: '.' :: '.' :: rest => isGap rest
  | _ => false

/-- Whether a character can stand in a text at all. -/
def isAllowed (c : Char) : Bool :=
  let n := c.toNat
  n = 9 || n = 10 || n = 13 || (0x20 ≤ n && n ≤ 0x7E) || n = 0x85
    || (0xA0 ≤ n && n ≤ 0xFFFD && n ≠ 0xFEFF) || 0x10000 ≤ n

/-- A place in a text: what is left of it, and how much came before in all, in lines and on
this line.
-/
structure Cursor where
  rest : List Char
  index : Nat
  line : Nat
  column : Nat

namespace Cursor

def start (text : List Char) : Cursor := ⟨text, 0, 0, 0⟩

/-- Moves on by `n` characters of a line. -/
def skip (cursor : Cursor) (n : Nat) : Cursor :=
  { cursor with
    rest := cursor.rest.drop n, index := cursor.index + n, column := cursor.column + n }

/-- Moves on to a later part of the same line. -/
def moveTo (cursor : Cursor) (rest : List Char) : Cursor :=
  cursor.skip (cursor.rest.length - rest.length)

/-- Moves on while characters are of a kind. -/
def skipWhile (cursor : Cursor) (kind : Char → Bool) : Cursor :=
  cursor.skip (cursor.rest.takeWhile kind).length

/-- Moves past the end of a line, if one comes next. -/
def skipBreak (cursor : Cursor) : Cursor :=
  let next (rest : List Char) (n : Nat) : Cursor := ⟨rest, cursor.index + n, cursor.line + 1, 0⟩
  match cursor.rest with
  | '\r' :: '\n' :: rest => next rest 2
  | c :: rest => if isBreak c then next rest 1 else cursor
  | [] => cursor

/-- What the end of a line counts as, if one comes next. -/
def lineBreak (cursor : Cursor) : List Char :=
  match cursor.rest with
  | c :: _ =>
      if c = '\u2028' || c = '\u2029' then [c] else if isBreak c then ['\n'] else []
  | [] => []

/-- Moves to the end of the line if a comment comes next. -/
def skipComment (cursor : Cursor) : Cursor :=
  match cursor.rest with
  | '#' :: _ => cursor.skipWhile (! isBreak ·)
  | _ => cursor

/-- Whether the mark of the start or end of a document comes next. -/
def isAtDocumentMark (cursor : Cursor) : Bool :=
  cursor.column = 0 && (startsDocument cursor.rest || endsDocument cursor.rest)

end Cursor

end TaggedConfig.Yaml
