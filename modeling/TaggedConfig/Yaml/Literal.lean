import TaggedConfig.Yaml.Cursor

/-! Scalars as blocks of lines, whose line ends are kept or folded.
The first line that is not empty sets the indentation, unless a digit does.
-/

namespace TaggedConfig.Yaml.Literal

/-- What becomes of the line ends at the end of a block. -/
inductive Chomping where
  | clip
  | keep
  | strip
  deriving DecidableEq, Repr

/-- The chomping that a sign states. -/
def chomping? : List Char → Option (Chomping × List Char)
  | '+' :: rest => some (.keep, rest)
  | '-' :: rest => some (.strip, rest)
  | _ => none

/-- The indentation that a digit states, which is not zero. -/
def increment? : List Char → Option (Nat × List Char)
  | c :: rest => if c.isDigit && c ≠ '0' then some (c.toNat - 48, rest) else none
  | [] => none

/-- The chomping and the indentation that are stated, in either order, and what follows. -/
def header (text : List Char) : Chomping × Option Nat × List Char :=
  match chomping? text with
  | some (chomping, rest) =>
      match increment? rest with
      | some (n, rest) => (chomping, some n, rest)
      | none => (chomping, none, rest)
  | none =>
      match increment? text with
      | some (n, rest) =>
          match chomping? rest with
          | some (chomping, rest) => (chomping, some n, rest)
          | none => (.clip, some n, rest)
      | none => (.clip, none, text)

/-- Passes indentation up to a column, if there is a bound, and empty lines. The answer has the
ends of those lines and the greatest column that was reached. A tab is no indentation.
-/
def passEmpty? (indent : Option Nat) : Nat → List Char → Nat → Cursor
    → Option (List Char × Nat × Cursor)
  | 0, breaks, greatest, cursor => some (breaks, greatest, cursor)
  | fuel + 1, breaks, greatest, cursor =>
      let room := (cursor.rest.takeWhile (· = ' ')).length
      let wanted := (indent.map (· - cursor.column)).getD room
      let cursor := cursor.skip (min room wanted)
      let greatest := max greatest cursor.column
      let inside := indent.all (cursor.column < ·)
      match cursor.rest with
      | [] => some (breaks, greatest, cursor)
      | c :: _ =>
          if c = '\t' && inside then none
          else if isBreak c then
            passEmpty? indent fuel (breaks ++ cursor.lineBreak) greatest cursor.skipBreak
          else some (breaks, greatest, cursor)

/-- A block as far as it has been read: its text, the end of its last line, the ends of empty
lines after that, and whether its last line begins with a blank.
-/
structure Block where
  text : List Char
  lastBreak : List Char
  emptyBreaks : List Char
  blankFirst : Bool

/-- The text with the line ends before a further line, which may begin with a blank. -/
def Block.joined (folds : Bool) (block : Block) (blankNext : Bool) : List Char :=
  if folds && block.lastBreak = ['\n'] && !block.blankFirst && !blankNext then
    block.text ++ if block.emptyBreaks.isEmpty then [' '] else block.emptyBreaks
  else block.text ++ block.lastBreak ++ block.emptyBreaks

/-- Reads the lines of a block that are indented by `indent`. -/
def readLines? (folds : Bool) (indent : Nat) : Nat → Block → Cursor → Option (Block × Cursor)
  | 0, block, cursor => some (block, cursor)
  | fuel + 1, block, cursor =>
      if cursor.column ≠ indent || cursor.rest.isEmpty then some (block, cursor)
      else do
        let blank := cursor.rest.head?.any isBlank
        let line := cursor.rest.takeWhile (! isBreak ·)
        let atEnd := cursor.skip line.length
        let (emptyBreaks, _, next) ←
          passEmpty? (some indent) (atEnd.rest.length + 1) [] 0 atEnd.skipBreak
        let text := block.joined folds blank ++ line
        readLines? folds indent fuel ⟨text, atEnd.lineBreak, emptyBreaks, blank⟩ next

/-- Reads a block from its indicator on, within a part that is indented by `outer`, which is
less than nothing at the top.
-/
def read? (folds : Bool) (outer : Int) (cursor : Cursor) : Option (List Char × Cursor) := do
  let (chomping, increment, rest) := header (cursor.rest.drop 1)
  let cursor := ((cursor.moveTo rest).skipWhile isBlank).skipComment
  if !isLineEnd cursor.rest then none
  else do
    let cursor := cursor.skipBreak
    let stated := increment.map fun (n : Nat) => (max outer 0 + (n : Int)).toNat
    let (breaks, greatest, cursor) ←
      passEmpty? stated (cursor.rest.length + 1) [] 0 cursor
    let indent := stated.getD (max greatest (max (outer + 1) 1).toNat)
    let (block, cursor) ←
      readLines? folds indent (cursor.rest.length + 1) ⟨[], [], breaks, false⟩ cursor
    let text := block.text
    let text := if chomping = .strip then text else text ++ block.lastBreak
    some (if chomping = .keep then text ++ block.emptyBreaks else text, cursor)

end TaggedConfig.Yaml.Literal
