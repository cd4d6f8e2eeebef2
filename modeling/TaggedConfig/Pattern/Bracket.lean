import TaggedConfig.Pattern.Escape

/-! Sets in brackets, which may hold others and be combined by operators.
The operators apply from left to right, each to all that stands before it.
-/

namespace TaggedConfig.Pattern

/-- How sets in brackets are read. -/
structure BracketMode where
  dialect : Dialect
  ignoreCase : Bool
  /-- Whether blanks and comments are skipped. -/
  spaced : Bool

def afterLine (text : List Char) : List Char := (text.dropWhile (· ≠ '\n')).drop 1

/-- The text after blanks and comments, where they are skipped; `fuel` bounds their number. -/
def skipSpace (spaced : Bool) : Nat → List Char → List Char
  | 0, text => text
  | _, [] => []
  | fuel + 1, c :: rest =>
      if !spaced then c :: rest
      else if Text.isBlank c then skipSpace spaced fuel rest
      else if c = '#' then skipSpace spaced fuel (afterLine rest)
      else c :: rest

/-- The text after blanks and comments, where they are skipped. -/
def afterSpace (spaced : Bool) (text : List Char) : List Char :=
  skipSpace spaced text.length text

/-- Reads a name between colons and the bracket after it, from the first colon on. -/
def readAsciiName? (text : List Char) : Option (CharSet × List Char) := do
  let rest ← Text.dropStart? [':'] text
  let (negated, rest) :=
    match rest with
    | '^' :: rest => (true, rest)
    | rest => (false, rest)
  let (name, rest) ← Text.splitFirst? ':' rest
  let rest ← Text.dropStart? [']'] rest
  some ((← CharSet.ofAsciiName? (String.ofList name)).complementIf negated, rest)

/-- A part of a set in brackets. -/
inductive BracketPart where
  | letter (c : Char)
  | set (members : CharSet)

def BracketPart.toSet : BracketPart → CharSet
  | letter c => .single c
  | set members => members

/-- Reads one part, which an escape may write. -/
def readBracketPart (mode : BracketMode) : List Char → Except Halt (BracketPart × List Char)
  | '\\' :: rest => do
      match ← readEscape mode.dialect mode.ignoreCase rest with
      | (.letter c, rest) => pure (.letter c, rest)
      | (.set set, rest) => pure (.set set, rest)
      | (.bell, rest) => pure (.letter '\x07', rest)
      | (.assertion, _) => throw .invalid
  | c :: rest => pure (.letter c, rest)
  | [] => throw .invalid

/-- Whether a hyphen that is followed by this text stands between the ends of a range. -/
def makesRange (spaced : Bool) (text : List Char) : Bool :=
  match afterSpace spaced text with
  | ']' :: _ | '-' :: _ => false
  | _ => true

def readRange (mode : BracketMode) (text : List Char) : Except Halt (CharSet × List Char) := do
  let (first, rest) ← readBracketPart mode text
  match afterSpace mode.spaced rest with
  | '-' :: rest =>
      if makesRange mode.spaced rest then do
        match first, ← readBracketPart mode (afterSpace mode.spaced rest) with
        | .letter a, (.letter b, rest) =>
            if a ≤ b then pure (.range a b, rest) else throw .invalid
        | _, _ => throw .invalid
      else pure (first.toSet, '-' :: rest)
  | rest => pure (first.toSet, rest)

/-- What stands right after an opening bracket: a sign of negation, and hyphens or a closing
bracket as members.
-/
def openBracket (spaced : Bool) (text : List Char) : Bool × List CharSet × List Char :=
  let (negated, rest) :=
    match afterSpace spaced text with
    | '^' :: rest => (true, afterSpace spaced rest)
    | rest => (false, rest)
  match rest with
  | ']' :: rest => (negated, [.single ']'], rest)
  | '-' :: rest => (negated, [.single '-'], dropHyphens rest)
  | rest => (negated, [], rest)
where
  /-- The text after further hyphens. -/
  dropHyphens (text : List Char) : List Char :=
    match afterSpace spaced text with
    | '-' :: _ => (text.dropWhile fun c => c = '-' || (spaced && Text.isBlank c))
    | rest => rest

/-- Reads what is left of a set in brackets. So far it has `members`, and `combine` says how
an operator before them takes them up.
-/
def readMembers (mode : BracketMode) : Nat → (CharSet → CharSet) → List CharSet → List Char
    → Except Halt (CharSet × List Char)
  | 0, _, _, _ => throw .invalid
  | fuel + 1, combine, members, text =>
      let current := combine (CharSet.ofList members)
      let operator (apply : CharSet → CharSet → CharSet) (rest : List Char) :=
        let left := current.foldIf mode.ignoreCase
        readMembers mode fuel (fun right => apply left (right.foldIf mode.ignoreCase)) [] rest
      match afterSpace mode.spaced text with
      | [] => throw .invalid
      | ']' :: rest => pure (current, rest)
      | '&' :: '&' :: rest => operator .intersection rest
      | '-' :: '-' :: rest => operator .difference rest
      | '~' :: '~' :: rest => operator .symmetricDifference rest
      | '[' :: rest =>
          match readAsciiName? rest with
          | some (set, rest) => readMembers mode fuel combine (set :: members) rest
          | none => do
              let (negated, opening, rest) := openBracket mode.spaced rest
              let (inner, rest) ← readMembers mode fuel id opening rest
              let set := (inner.foldIf mode.ignoreCase).complementIf negated
              readMembers mode fuel combine (set :: members) rest
      | text => do
          let (set, rest) ← readRange mode text
          readMembers mode fuel combine (set :: members) rest

/-- Reads a set in brackets after its bracket. -/
def readBracketed (mode : BracketMode) (text : List Char) : Except Halt (CharSet × List Char) := do
  let (negated, opening, rest) := openBracket mode.spaced text
  let (inner, rest) ← readMembers mode (text.length + 1) id opening rest
  pure ((inner.foldIf mode.ignoreCase).complementIf negated, rest)

end TaggedConfig.Pattern
