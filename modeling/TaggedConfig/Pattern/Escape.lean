import TaggedConfig.Pattern.Property
import TaggedConfig.Text.Digits

/-! Escapes of patterns, from the character after the backslash.
Class letters mean characters of ASCII or of all scripts, as the dialect of a pattern says.
-/

namespace TaggedConfig.Pattern

/-- What the class letters of a pattern mean. -/
inductive Dialect where
  /-- Digits and letters of ASCII and a few blanks. -/
  | plain
  /-- Digits, letters and blanks of all scripts. -/
  | extended
  deriving DecidableEq, Repr

/-- Why a text is not read on. -/
inductive Halt where
  | invalid
  /-- At something that only the extended grammar knows, with the text after it. -/
  | extended (rest : List Char)
  deriving DecidableEq, Repr

/-- What an escape stands for. -/
inductive Escape where
  | letter (c : Char)
  | set (set : CharSet)
  | bell
  | assertion
  deriving DecidableEq, Repr

/-- The set of a class letter. Case is not asked of the sets of all scripts. -/
def classLetter? (dialect : Dialect) (ignoreCase : Bool) (c : Char) : Option CharSet :=
  let set? :=
    match dialect, c.toLower with
    | .plain, 'd' => some CharSet.digits
    | .plain, 'w' => some (CharSet.wordLetters.foldIf ignoreCase)
    | .plain, 's' => some CharSet.spaces
    | .extended, 'd' => some (CharSet.ofCategory .decimalNumber)
    | .extended, 'w' => some CharSet.wordCharacters
    | .extended, 's' => some CharSet.blank
    | _, _ => none
  set?.map (CharSet.complementIf c.isUpper)

/-- The character of a code point in hexadecimal digits, of which there is one at least. -/
def codePoint? (digits : List Char) : Option Char := do
  let n ← Text.ofDigits? 16 digits
  if Nat.isValidChar n then some (Char.ofNat n) else none

/-- The text up to a closing brace and the text after that. -/
def splitBrace? (text : List Char) : Option (List Char × List Char) :=
  Text.splitFirst? '\x7d' text

/-- How many digits follow an escape letter for code points. -/
def hexLength? (c : Char) : Option Nat :=
  match c with
  | 'x' => some 2
  | 'u' => some 4
  | 'U' => some 8
  | _ => none

/-- Reads a code point of `length` digits, or of any number of them in braces. -/
def readCodePoint? (length : Nat) (text : List Char) : Option (Char × List Char) := do
  match text with
  | '\x7b' :: rest =>
      let (digits, rest) ← splitBrace? rest
      some (← codePoint? digits, rest)
  | text =>
      if text.length < length then none
      else some (← codePoint? (text.take length), text.drop length)

/-- Reads the name of a property after its letter: one letter or a text in braces. -/
def readProperty? (ignoreCase negated : Bool) (text : List Char)
    : Option (CharSet × List Char) := do
  let (set, rest) ←
    match text with
    | '\x7b' :: rest => do
        let (name, rest) ← splitBrace? rest
        some (← CharSet.ofProperty? name, rest)
    | '\\' :: _ => none
    | c :: rest => do some (← CharSet.ofPropertyName? [c], rest)
    | [] => none
  some ((set.foldIf ignoreCase).complementIf negated, rest)

def controlLetter? (c : Char) : Option Char :=
  match c with
  | 'f' => some '\x0c'
  | 'n' => some '\n'
  | 'r' => some '\r'
  | 't' => some '\t'
  | 'v' => some '\x0b'
  | _ => none

/-- Whether a character of ASCII stands for itself after a backslash. -/
def isPlainEscape (c : Char) : Bool :=
  c.toNat < 0x80 && !c.isAlphanum && c ≠ '<' && c ≠ '>'

/-- The names of the ends of words that can stand in braces. -/
def wordEnds : List String := ["start", "end", "start-half", "end-half"]

/-- Reads what stands in braces after the letter for the ends of words; braces that hold no
letter first belong to what follows.
-/
def readWordEnd (rest : List Char) : Except Halt (Escape × List Char) :=
  match rest with
  | '\x7b' :: inner =>
      if inner.head?.any fun c => c.isAlpha || c = '-' then
        match splitBrace? inner with
        | some (name, rest) =>
            if wordEnds.contains (String.ofList name) then pure (.assertion, rest)
            else throw .invalid
        | none => throw .invalid
      else pure (.assertion, rest)
  | rest => pure (.assertion, rest)

/-- Takes what was read, or holds that nothing can be. -/
def orInvalid {α : Type} : Option α → Except Halt α
  | some a => pure a
  | none => throw .invalid

/-- Reads an escape of the plain grammar. A control letter stands after its own letter, and a
digit refers back, which only the extended grammar knows.
-/
def readEscape (dialect : Dialect) (ignoreCase : Bool)
    : List Char → Except Halt (Escape × List Char)
  | [] => throw .invalid
  | c :: rest =>
      match classLetter? dialect ignoreCase c, controlLetter? c, hexLength? c with
      | some set, _, _ => pure (.set set, rest)
      | _, some control, _ => pure (.letter control, rest)
      | _, _, some length => do
          let (c, rest) ← orInvalid (readCodePoint? length rest)
          pure (.letter c, rest)
      | none, none, none =>
          if c.isDigit then throw (.extended rest)
          else if c = 'p' || c = 'P' then do
            let (set, rest) ← orInvalid (readProperty? ignoreCase (c = 'P') rest)
            pure (.set set, rest)
          else if c = 'c' then
            match rest with
            | letter :: rest =>
                if letter.isAlpha then pure (.letter (Char.ofNat (letter.toNat % 32)), rest)
                else throw .invalid
            | [] => throw .invalid
          else if c = 'a' then pure (.bell, rest)
          else if c = 'b' then readWordEnd rest
          else if ['A', 'z', 'B', '<', '>'].contains c then pure (.assertion, rest)
          else if isPlainEscape c then pure (.letter c, rest)
          else throw .invalid

end TaggedConfig.Pattern
