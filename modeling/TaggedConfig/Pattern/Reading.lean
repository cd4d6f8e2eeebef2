import TaggedConfig.Pattern.Basic
import TaggedConfig.Pattern.Dialect

/-! Patterns as they are written, in either dialect.
Each step of reading takes up part of the text, so its length bounds the recursion.
-/

namespace TaggedConfig.Pattern

/-- Settings that a pattern can change on its way. -/
structure Flags where
  ignoreCase : Bool
  /-- Whether lines have a start and a finish of their own. -/
  manyLines : Bool
  /-- Whether a dot is any character. -/
  dotAll : Bool
  /-- Whether repetitions are content with little. -/
  rarely : Bool
  /-- Whether blanks and comments are skipped. -/
  spaced : Bool
  deriving DecidableEq, Repr

/-- What is left of a text and what has been met in it. -/
structure Reading where
  text : List Char
  flags : Flags
  /-- The number of groups, of which the whole pattern is one. -/
  groups : Nat
  names : List (String × Nat)
  /-- The groups that are referred to. -/
  references : List Nat
  /-- Whether a reference gives the number of its group. -/
  numbered : Bool

/-- Steps of reading, which may fail. -/
abbrev Reader := StateT Reading Option

/-- Sets what is left of the text. -/
def goOn (text : List Char) : Reader Unit := modify ({ · with text })

/-- The text after a comment in parentheses, in which a backslash keeps a parenthesis. -/
def afterComment? : List Char → Option (List Char)
  | ')' :: rest => some rest
  | '\\' :: _ :: rest => afterComment? rest
  | _ :: rest => afterComment? rest
  | [] => none

/-- Skips comments, and blanks where they do not count; `fuel` bounds their number. -/
def skipGaps? (spaced : Bool) : Nat → List Char → Option (List Char)
  | 0, text => some text
  | fuel + 1, text =>
      match text with
      | '(' :: '?' :: '#' :: rest => do skipGaps? spaced fuel (← afterComment? rest)
      | c :: rest =>
          if !spaced then some (c :: rest)
          else if c = '#' then skipGaps? spaced fuel (afterLine rest)
          else if [' ', '\r', '\n', '\t'].contains c then skipGaps? spaced fuel rest
          else some (c :: rest)
      | [] => some []

/-- The text after comments and blanks that do not count. -/
def nextText : Reader (List Char) := do
  let reading ← get
  let text ← liftM (skipGaps? reading.flags.spaced reading.text.length reading.text)
  goOn text
  pure text

/-- The digits at the start of a text as a number, and the rest. -/
def readNumber? (text : List Char) : Option (Nat × List Char) :=
  match text.takeWhile Char.isDigit with
  | [] => none
  | digits =>
      some (digits.foldl (fun n c => n * 10 + (c.toNat - 48)) 0, text.dropWhile Char.isDigit)

/-- The bounds of a repetition in braces, after the opening one. -/
def readBounds? (spaced : Bool) (text : List Char) : Option (Nat × Option Nat × List Char) := do
  let gap (text : List Char) := skipGaps? spaced text.length text
  let text ← gap text
  let (least, rest) ← if text.head? = some ',' then some (0, text) else readNumber? text
  match ← gap rest with
  | '\x7d' :: rest => some (least, some least, rest)
  | ',' :: rest =>
      let rest ← gap rest
      let (greatest, rest) :=
        match readNumber? rest with
        | some (greatest, rest) => (some greatest, rest)
        | none => (none, rest)
      match ← gap rest with
      | '\x7d' :: rest => some (least, greatest, rest)
      | _ => none
  | _ => none

/-- A pattern that was read, and whether it can be repeated. -/
structure Atom where
  pattern : Pattern
  repeatable : Bool

/-- An atom that can be repeated. -/
def Atom.of (pattern : Pattern) : Atom := ⟨pattern, true⟩

/-- An atom that matches a place and cannot be repeated. -/
def Atom.ofPlace (place : Place) : Atom := ⟨.place place, false⟩

/-- Makes a pattern atomic if a plus sign follows. -/
def readKeeping (pattern : Pattern) : Reader Atom := do
  match (← get).text with
  | '+' :: rest => do
      goOn rest
      pure (.of (.atomic pattern))
  | _ => pure (.of pattern)

/-- Applies a repetition, whose marks have been read, to an atom. -/
def readMode (atom : Atom) (least : Nat) (greatest : Option Nat) (rest : List Char)
    : Reader Atom := do
  if !atom.repeatable || greatest.any (· < least) then failure
  goOn rest
  let rarely := (← get).flags.rarely
  match ← nextText with
  | '?' :: rest => do
      goOn rest
      readKeeping (.repeated atom.pattern least greatest rarely)
  | _ => readKeeping (.repeated atom.pattern least greatest (!rarely))

/-- Applies the repetition that follows an atom, if one does. -/
def readRepetition (atom : Atom) : Reader Atom := do
  match ← nextText with
  | '?' :: rest => readMode atom 0 (some 1) rest
  | '*' :: rest => readMode atom 0 none rest
  | '+' :: rest => readMode atom 1 none rest
  | '\x7b' :: rest =>
      match readBounds? (← get).flags.spaced rest with
      | some (least, greatest, rest) => readMode atom least greatest rest
      | none => pure atom
  | _ => pure atom

def letterAtom (c : Char) : Reader Atom := do
  pure (.of (.one ((CharSet.single c).foldIf (← get).flags.ignoreCase)))

/-- Reads a code point after its letter. Braces hold at most eight digits. -/
def readHex? (length : Nat) (text : List Char) : Option (Char × List Char) := do
  match text with
  | '\x7b' :: rest =>
      let (digits, rest) ← splitBrace? rest
      if 8 < digits.length then none else some (← codePoint? digits, rest)
  | text => readCodePoint? length text

/-- Reads a name up to the text that closes it. -/
def readName? (close : Char) (text : List Char) : Option (String × List Char) :=
  let isLetter (c : Char) : Bool := c = '_' || isAlphanumeric c
  match text.takeWhile isLetter, text.dropWhile isLetter with
  | [], _ => none
  | name, c :: rest => if c = close then some (String.ofList name, rest) else none
  | _, [] => none

/-- The atom of a reference to a group that has begun. -/
def referenceAtom (index : Nat) : Reader Atom := do
  if (← get).groups ≤ index then failure
  modify fun reading => { reading with references := index :: reading.references }
  pure (.of (.reference index))

/-- Reads a reference by a name, or by a number in its place. -/
def readNamed (close : Char) (text : List Char) : Reader Atom := do
  let (name, rest) ← liftM (readName? close text)
  goOn rest
  match (← get).names.lookup name, name.toNat? with
  | some index, _ => referenceAtom index
  | none, some index => referenceAtom index
  | none, none => failure

/-- Reads a reference by number. A number that is large for the text is refused. -/
def readNumbered (size : Nat) (text : List Char) : Reader Atom := do
  let (index, rest) ← liftM (readNumber? text)
  if size / 2 ≤ index then failure
  goOn rest
  modify ({ · with numbered := true })
  referenceAtom index

/-- The condition that a word edge in braces states. -/
def wordPlace (name : List Char) : Option Place :=
  match String.ofList name with
  | "start" => some .wordStart
  | "end" => some .wordFinish
  | "start-half" => some .noWordBefore
  | "end-half" => some .noWordAfter
  | _ => none

def readWordEdge (text : List Char) : Reader Atom := do
  let named? : Option (Place × List Char) := do
    let inner ← Text.dropStart? ['\x7b'] text
    let (name, rest) ← splitBrace? inner
    some (← wordPlace name, rest)
  match named? with
  | some (condition, rest) => do
      goOn rest
      pure (.ofPlace condition)
  | none => do
      goOn text
      pure (.ofPlace .wordEdge)

/-- The character of an escape letter that only one dialect may use in brackets. -/
def specialLetter? (c : Char) : Option Char :=
  match c with
  | 'a' => some '\x07'
  | 'e' => some '\x1b'
  | c => controlLetter? c

/-- The set of hexadecimal digits or of all others. -/
def hexSet? (c : Char) : Option CharSet :=
  if c = 'h' then some CharSet.hexDigits
  else if c = 'H' then some CharSet.hexDigits.complement
  else none

/-- The lines that may be empty at the end of a text. -/
def lastLines : Pattern :=
  .ahead true
    (.sequence (.repeated (.one (.single '\n')) 0 none true) (.place .finish))

/-- Reads an escape after its backslash, outside of brackets. -/
def readEscapeAtom (dialect : Dialect) (size : Nat) (text : List Char) : Reader Atom := do
  let ignoreCase := (← get).flags.ignoreCase
  match text with
  | [] => failure
  | c :: rest =>
      let done (atom : Atom) : Reader Atom := do
        goOn rest
        pure atom
      if c.isDigit then readNumbered size text
      else
        match classLetter? dialect ignoreCase c <|> hexSet? c, specialLetter? c, hexLength? c with
        | some set, _, _ => done (.of (.one set))
        | _, some control, _ => done (.of (.one (.single control)))
        | _, _, some length => do
            let (letter, rest) ← liftM (readHex? length rest)
            goOn rest
            letterAtom letter
        | none, none, none =>
            match c with
            | 'k' =>
                match rest with
                | '\'' :: rest => readNamed '\'' rest
                | '<' :: rest => readNamed '>' rest
                | _ => failure
            | 'A' => done (.ofPlace .start)
            | 'z' => done (.ofPlace .finish)
            | 'Z' => done ⟨lastLines, false⟩
            | 'b' => readWordEdge rest
            | 'B' => done (.ofPlace .noWordEdge)
            | '<' => done (.ofPlace .wordStart)
            | '>' => done (.ofPlace .wordFinish)
            | 'K' => done (.of .empty)
            | 'G' => done (.of (.place .start))
            | _ =>
                if c = 'p' || c = 'P' then do
                  let (set, rest) ← liftM (readProperty? ignoreCase (c = 'P') rest)
                  goOn rest
                  pure (.of (.one set))
                else if c.isAlpha then failure
                else done (.of (.one (.single c)))

/-- Characters that have a meaning of their own in brackets or outside. -/
def markLetters : List Char := "\\.+*?()|[]\x7b\x7d^$#&-~".toList

/-- A character as it is written so that it stands for itself. -/
def marked (c : Char) : List Char := if markLetters.contains c then ['\\', c] else [c]

/-- The plain form of an escape within brackets, after its backslash. -/
def plainEscape? (dialect : Dialect) (text : List Char) : Option (List Char × List Char) :=
  match text with
  | [] => none
  | c :: rest =>
      if c.isDigit then none
      else if c = 'h' then some ("[0-9A-Fa-f]".toList, rest)
      else if c = 'H' then some ("[^0-9A-Fa-f]".toList, rest)
      else if c = 'b' then some (['\x08'], rest)
      else if (classLetter? dialect false c).isSome then some (['\\', c], rest)
      else
        match specialLetter? c, hexLength? c with
        | some control, _ => some ([control], rest)
        | none, some length =>
            (readHex? length rest).map fun (letter, rest) => (marked letter, rest)
        | none, none =>
            if c = 'p' || c = 'P' then
              (readProperty? false false rest).map fun (_, after) =>
                ('\\' :: c :: rest.take (rest.length - after.length), after)
            else if c.isAlpha then none
            else some (marked c, rest)

/-- The text up to the bracket that closes a set with `depth` brackets open, with its escapes
in plain form, and the text after that.
-/
def plainBrackets? (dialect : Dialect)
    : Nat → Nat → List Char → Option (List Char × List Char)
  | 0, _, _ => none
  | fuel + 1, depth, text =>
      let further (form : List Char) (depth : Nat) (rest : List Char) :=
        (plainBrackets? dialect fuel depth rest).map fun (inner, after) => (form ++ inner, after)
      match text with
      | [] => none
      | '\\' :: rest =>
          match plainEscape? dialect rest with
          | some (form, rest) => further form depth rest
          | none => none
      | '[' :: rest => further ['['] (depth + 1) rest
      | ']' :: rest => if depth = 0 then some ([']'], rest) else further [']'] (depth - 1) rest
      | c :: rest => further [c] depth rest

/-- Reads a set in brackets after the first one. -/
def readSet (dialect : Dialect) (text : List Char) : Reader Atom := do
  let (opening, rest) :=
    match text with
    | '^' :: ']' :: rest => (['^', ']'], rest)
    | '^' :: rest => (['^'], rest)
    | ']' :: rest => ([']'], rest)
    | rest => ([], rest)
  let (inner, rest) ← liftM (plainBrackets? dialect (rest.length + 1) 0 rest)
  goOn rest
  let mode : BracketMode := ⟨dialect, (← get).flags.ignoreCase, false⟩
  match readBracketed mode (opening ++ inner) with
  | .ok (set, []) => pure (.of (.one set))
  | _ => failure

def Flags.change? (flags : Flags) (value : Bool) (letter : Char) : Option Flags :=
  match letter with
  | 'i' => some { flags with ignoreCase := value }
  | 'm' => some { flags with manyLines := value }
  | 's' => some { flags with dotAll := value }
  | 'U' => some { flags with rarely := value }
  | 'x' => some { flags with spaced := value }
  | 'u' => if value then some flags else none
  | _ => none

/-- The flags that letters state, of which those after a hyphen are taken away. -/
def Flags.changeAll? (flags : Flags) (letters : List Char) : Option Flags := do
  let wanted := letters.takeWhile (· ≠ '-')
  let unwanted := (letters.dropWhile (· ≠ '-')).drop 1
  let flags ← wanted.foldlM (·.change? true ·) flags
  unwanted.foldlM (·.change? false ·) flags

/-- How the inside of a group is taken. -/
inductive GroupKind where
  | plain (flags : Flags)
  | numbered (index : Nat)
  | atomic
  | ahead (wanted : Bool)
  | behind (wanted : Bool)

def openGroup (name : Option String) : Reader GroupKind := do
  let reading ← get
  let index := reading.groups
  let names :=
    match name with
    | some name => (name, index) :: reading.names
    | none => reading.names
  set { reading with groups := index + 1, names }
  pure (.numbered index)

/-- The pattern of a look behind. Each choice at its top may have a size of its own. -/
def behind? (wanted : Bool) : Pattern → Option Pattern
  | .choice a b =>
      match (Pattern.choice a b).size? with
      | some size => some (.behind wanted size (.choice a b))
      | none => do
          let a ← behind? wanted a
          let b ← behind? wanted b
          some (if wanted then .choice a b else .sequence a b)
  | pattern => pattern.size?.map fun size => .behind wanted size pattern

def GroupKind.atom? (kind : GroupKind) (inner : Atom) : Option Atom :=
  match kind with
  | plain _ => some inner
  | numbered index => some (.of (.group index inner.pattern))
  | atomic => some (.of (.atomic inner.pattern))
  | ahead wanted => some ⟨.ahead wanted inner.pattern, false⟩
  | behind wanted => (behind? wanted inner.pattern).map fun pattern => ⟨pattern, false⟩

/-- Reads how a group begins, after its parenthesis. What is no group but flags or a reference
comes back as an atom.
-/
def readGroupStart : Reader (GroupKind ⊕ Atom) := do
  match ← nextText with
  | '?' :: '=' :: rest => do
      goOn rest
      pure (.inl (.ahead true))
  | '?' :: '!' :: rest => do
      goOn rest
      pure (.inl (.ahead false))
  | '?' :: '<' :: '=' :: rest => do
      goOn rest
      pure (.inl (.behind true))
  | '?' :: '<' :: '!' :: rest => do
      goOn rest
      pure (.inl (.behind false))
  | '?' :: 'P' :: '<' :: rest | '?' :: '<' :: rest => do
      let (name, rest) ← liftM (readName? '>' rest)
      goOn rest
      pure (.inl (← openGroup (some name)))
  | '?' :: 'P' :: '=' :: rest => do pure (.inr (← readNamed ')' rest))
  | '?' :: '>' :: rest => do
      goOn rest
      pure (.inl .atomic)
  | '?' :: rest => do
      let letters := rest.takeWhile fun c => c ≠ ':' && c ≠ ')'
      let flags := (← get).flags
      let changed ← liftM (flags.changeAll? letters)
      match rest.drop letters.length with
      | ':' :: rest => do
          modify ({ · with text := rest, flags := changed })
          pure (.inl (.plain flags))
      | ')' :: rest => do
          if letters.isEmpty then failure
          modify ({ · with text := rest, flags := changed })
          pure (.inr ⟨.empty, false⟩)
      | _ => failure
  | rest => do
      goOn rest
      pure (.inl (← openGroup none))

/-- What to read next: an alternation or what is left of one, a sequence or a single atom. -/
inductive Part where
  | alternation
  | choices
  | sequence
  | atom

/-- The greatest number of groups that can stand in each other. -/
def depthLimit : Nat := 63

/-- Puts a pattern after another; what is empty leaves no trace. -/
def Atom.append (first second : Atom) : Atom :=
  match first.pattern, second.pattern with
  | .empty, _ => second
  | _, .empty => first
  | a, b => .of (.sequence a b)

/-- Reads a part of a pattern within `depth` groups, of a text of `size` bytes. -/
def readPart (dialect : Dialect) (size : Nat) : Nat → Nat → Part → Reader Atom
  | 0, _, _ => failure
  | fuel + 1, depth, .alternation => do
      let first ← readPart dialect size fuel depth .sequence
      match ← nextText with
      | '|' :: rest => do
          goOn rest
          let others ← readPart dialect size fuel depth .choices
          pure (.of (.choice first.pattern others.pattern))
      | _ => do
          let reading ← get
          if reading.numbered && !reading.names.isEmpty then failure
          pure first
  | fuel + 1, depth, .choices => do
      let first ← readPart dialect size fuel depth .sequence
      match ← nextText with
      | '|' :: rest => do
          goOn rest
          let others ← readPart dialect size fuel depth .choices
          pure (.of (.choice first.pattern others.pattern))
      | _ => pure first
  | fuel + 1, depth, .sequence => do
      match ← nextText with
      | [] | '|' :: _ | ')' :: _ => pure ⟨.empty, false⟩
      | _ => do
          let first ← readRepetition (← readPart dialect size fuel depth .atom)
          first.append <$> readPart dialect size fuel depth .sequence
  | fuel + 1, depth, .atom => do
      let flags := (← get).flags
      match (← get).text with
      | '.' :: rest => do
          goOn rest
          pure (.of (.one (if flags.dotAll then .all else .anyOnLine)))
      | '^' :: rest => do
          goOn rest
          pure (.ofPlace (if flags.manyLines then .lineStart else .start))
      | '$' :: rest => do
          goOn rest
          pure (.ofPlace (if flags.manyLines then .lineFinish else .finish))
      | '[' :: rest => readSet dialect rest
      | '(' :: rest => do
          if depthLimit ≤ depth then failure
          goOn rest
          match ← readGroupStart with
          | .inr atom => pure atom
          | .inl kind => do
              let inner ← readPart dialect size fuel (depth + 1) .alternation
              let rest ← liftM (Text.dropStart? [')'] (← get).text)
              goOn rest
              match kind with
              | .plain flags => modify ({ · with flags })
              | _ => pure ()
              liftM (kind.atom? inner)
      | '\\' :: rest => readEscapeAtom dialect size rest
      | c :: rest =>
          if ['*', '+', '?'].contains c then failure
          else do
            goOn rest
            letterAtom c
      | [] => failure

/-- The pattern that a text writes, if it writes one. -/
def ofString? (source : String) : Option Pattern := do
  let (dialect, text) ← dialect? source.toList
  let size := (String.ofList text).utf8ByteSize
  let start : Reading := ⟨text, ⟨false, false, false, false, false⟩, 1, [], [], false⟩
  let (atom, reading) ←
    (readPart dialect size (4 * text.length + 4) 0 .alternation).run start
  if reading.text.isEmpty then some (atom.pattern.keepGroups reading.references) else none

end TaggedConfig.Pattern
