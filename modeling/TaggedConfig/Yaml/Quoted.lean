import TaggedConfig.Text.Digits
import TaggedConfig.Yaml.Gap

/-! Scalars in quotes.
Two single quotes stand for one between single quotes, and a backslash begins an escape
between double quotes.
-/

namespace TaggedConfig.Yaml.Quoted

/-- The character of an escape of one letter. -/
def shortEscape? (c : Char) : Option Char :=
  match c with
  | '0' => some '\x00'
  | 'a' => some '\x07'
  | 'b' => some '\x08'
  | 't' | '\t' => some '\t'
  | 'n' => some '\n'
  | 'v' => some '\x0b'
  | 'f' => some '\x0c'
  | 'r' => some '\r'
  | 'e' => some '\x1b'
  | ' ' | '"' | '/' | '\\' => some c
  | 'N' => some '\u0085'
  | '_' => some '\u00a0'
  | 'L' => some '\u2028'
  | 'P' => some '\u2029'
  | _ => none

/-- The number of digits after the letter of an escape by code point. -/
def hexLength? (c : Char) : Option Nat :=
  match c with
  | 'x' => some 2
  | 'u' => some 4
  | 'U' => some 8
  | _ => none

/-- The character of an escape after its backslash, and how many characters the escape has. -/
def escape? (text : List Char) : Option (Char × Nat) :=
  match text with
  | [] => none
  | c :: rest =>
      match shortEscape? c, hexLength? c with
      | some escaped, _ => some (escaped, 1)
      | none, some length => do
          let digits := rest.take length
          let n ← Text.ofDigits? 16 digits
          if digits.length = length && Nat.isValidChar n then
            some (Char.ofNat n, length + 1)
          else none
      | none, none => none

/-- The word at the start of a text, and how many characters it is written with. A backslash at
the end of a line ends a word too.
-/
def readWord? (double : Bool) : Nat → List Char → Option (List Char × Nat)
  | 0, _ => some ([], 0)
  | fuel + 1, text =>
      let further (c : Char) (length : Nat) (rest : List Char) :=
        (readWord? double fuel rest).map fun (word, n) => (c :: word, length + n)
      match text with
      | [] => some ([], 0)
      | '\'' :: rest =>
          if double then further '\'' 1 rest
          else
            match rest with
            | '\'' :: rest => further '\'' 2 rest
            | _ => some ([], 0)
      | '"' :: rest => if double then some ([], 0) else further '"' 1 rest
      | '\\' :: rest =>
          if !double then further '\\' 1 rest
          else if rest.head?.any isBreak then some ([], 0)
          else do
            let (c, length) ← escape? rest
            further c (length + 1) (rest.drop length)
      | c :: rest => if isBlank c || isBreak c then some ([], 0) else further c 1 rest

/-- Reads what is left of a scalar, up to and with its quote. -/
def readOn? (double : Bool) : Nat → Cursor → Option (List Char × Cursor)
  | 0, _ => none
  | fuel + 1, cursor =>
      if cursor.isAtDocumentMark then none
      else do
        let (word, length) ← readWord? double fuel cursor.rest
        let after := cursor.skip length
        match after.rest with
        | '\\' :: _ => do
            let next := (after.skip 1).skipBreak
            let (gap, next) ← Gap.read? 0 fuel true .none next
            let (more, last) ← readOn? double fuel next
            some (word ++ gap.breaks ++ more, last)
        | c :: _ =>
            if c = '\'' || c = '"' then some (word, after.skip 1)
            else do
              let (gap, next) ← Gap.read? 0 fuel false .none after
              let (more, last) ← readOn? double fuel next
              some (word ++ gap.folded ++ more, last)
        | [] => none

/-- Reads a scalar in quotes, from its first quote on. -/
def read? (double : Bool) (cursor : Cursor) : Option (List Char × Cursor) :=
  readOn? double (cursor.rest.length + 1) (cursor.skip 1)

end TaggedConfig.Yaml.Quoted
