import TaggedConfig.Pattern.Bracket

/-! The dialect of a pattern.
A text that obeys the plain grammar to its end is plain; one that gets to a look-around or a
reference back before any fault is extended, and its grammar is not checked further.
-/

namespace TaggedConfig.Pattern

/-- Where the check of a text stands. -/
structure Check where
  /-- Whether blanks and comments are skipped. -/
  spaced : Bool
  /-- The same for the groups around this place, innermost first. -/
  outer : List Bool
  /-- The names of groups. -/
  names : List String
  /-- Whether there is something to repeat. -/
  repeatable : Bool

def isAlphabetic (c : Char) : Bool :=
  ((CharSet.ofFlagName? "alphabetic").map (CharSet.contains c)).getD false

/-- Whether a character is alphabetic or a number. -/
def isAlphanumeric (c : Char) : Bool :=
  isAlphabetic c || Text.Category.numbers.contains (Text.Category.ofChar c)

/-- Whether characters can be the name of a group in the plain grammar. -/
def isGroupName (name : List Char) : Bool :=
  match name with
  | [] => false
  | c :: rest =>
      (c = '_' || isAlphabetic c)
        && rest.all fun c => ['_', '.', '[', ']'].contains c || isAlphanumeric c

def Check.enter (check : Check) (spaced : Bool) : Check :=
  { check with spaced, outer := check.spaced :: check.outer, repeatable := false }

/-- Passes over the name of a group, which no earlier one has. -/
def checkName (check : Check) (text : List Char) : Except Halt (Check × List Char) := do
  let (name, rest) ← orInvalid (Text.splitFirst? '>' text)
  let inner := check.enter check.spaced
  if isGroupName name && !check.names.contains (String.ofList name) then
    pure ({ inner with names := String.ofList name :: check.names }, rest)
  else throw .invalid

def flagLetters : List Char := ['i', 'm', 's', 'U', 'u', 'R', 'x']

/-- Whether characters are flags, each there once, of which some may be after a hyphen. -/
def areFlags (flags : List Char) : Bool :=
  flags.all (fun c => c = '-' || flagLetters.contains c)
    && flags.eraseDups.length = flags.length && flags.getLast? ≠ some '-'

/-- Whether flags say that blanks are skipped. -/
def spacedBy (flags : List Char) (before : Bool) : Bool :=
  if (flags.takeWhile (· ≠ '-')).contains 'x' then true
  else if flags.contains 'x' then false
  else before

/-- Passes over flags, which hold for the rest of a group or for a group that they begin. -/
def checkFlags (check : Check) (text : List Char) : Except Halt (Check × List Char) :=
  let flags := text.takeWhile fun c => c ≠ ':' && c ≠ ')'
  let spaced := spacedBy flags check.spaced
  match text.drop flags.length with
  | ':' :: rest =>
      if areFlags flags then pure (check.enter spaced, rest) else throw .invalid
  | ')' :: rest =>
      if areFlags flags && !flags.isEmpty then
        pure ({ check with spaced, repeatable := false }, rest)
      else throw .invalid
  | _ => throw .invalid

/-- Passes over the start of a group, after its parenthesis. -/
def checkGroup (check : Check) (text : List Char) : Except Halt (Check × List Char) :=
  match afterSpace check.spaced text with
  | '?' :: '=' :: rest | '?' :: '!' :: rest | '?' :: '<' :: '=' :: rest
  | '?' :: '<' :: '!' :: rest => throw (.extended rest)
  | '?' :: 'P' :: '<' :: rest | '?' :: '<' :: rest => checkName check rest
  | '?' :: rest => checkFlags check rest
  | rest => pure (check.enter check.spaced, rest)

/-- The greatest number of repetitions that can be written. -/
def countLimit : Nat := UInt32.size - 1

/-- Reads a count of repetitions with blanks around it. -/
def readCount? (text : List Char) : Option (Nat × List Char) := do
  let text := text.dropWhile Text.isBlank
  let digits := text.takeWhile Char.isDigit
  let n := digits.foldl (fun n c => n * 10 + (c.toNat - 48)) 0
  if digits.isEmpty || countLimit < n then none
  else some (n, (text.drop digits.length).dropWhile Text.isBlank)

/-- The text after the bounds of a repetition in braces, from the opening one on. -/
def checkBounds? (text : List Char) : Option (List Char) := do
  let (least, rest) ← readCount? text
  match rest with
  | '\x7d' :: rest => some rest
  | ',' :: rest =>
      match rest.dropWhile Text.isBlank with
      | '\x7d' :: rest => some rest
      | rest => do
          let (greatest, rest) ← readCount? rest
          let rest ← Text.dropStart? ['\x7d'] rest
          if least ≤ greatest then some rest else none
  | _ => none

/-- The text after the mark of a repetition that is content with little. -/
def afterLazy : List Char → List Char
  | '?' :: rest => rest
  | rest => rest

/-- Checks a text by the plain grammar. The answer says whether a bell is written outside of
brackets.
-/
def checkText : Nat → Bool → Check → List Char → Except Halt Bool
  | 0, _, _, _ => throw .invalid
  | fuel + 1, bell, check, text =>
      let after (rest : List Char) := checkText fuel bell { check with repeatable := true } rest
      match afterSpace check.spaced text with
      | [] => if check.outer.isEmpty then pure bell else throw .invalid
      | '(' :: rest => do
          let (check, rest) ← checkGroup check rest
          checkText fuel bell check rest
      | ')' :: rest =>
          match check.outer with
          | [] => throw .invalid
          | spaced :: outer =>
              checkText fuel bell { check with spaced, outer, repeatable := true } rest
      | '|' :: rest => checkText fuel bell { check with repeatable := false } rest
      | '[' :: rest => do
          let (_, rest) ← readBracketed ⟨.plain, false, check.spaced⟩ rest
          after rest
      | '?' :: rest | '*' :: rest | '+' :: rest =>
          if check.repeatable then after (afterLazy rest) else throw .invalid
      | '\x7b' :: rest =>
          if check.repeatable then do
            let rest ← orInvalid (checkBounds? rest)
            after (afterLazy rest)
          else throw .invalid
      | '\\' :: rest => do
          let (escape, rest) ← readEscape .plain false rest
          checkText fuel (bell || escape = .bell) { check with repeatable := true } rest
      | _ :: rest => after rest

/-- The text with each escape of a control character replaced by the character, up to the part
of length `left`.
-/
def replaceControls (left : Nat) : List Char → List Char
  | '\\' :: 'c' :: letter :: rest =>
      if letter.isAlpha && left ≤ rest.length then
        Char.ofNat (letter.toNat % 32) :: replaceControls left rest
      else '\\' :: 'c' :: replaceControls left (letter :: rest)
  | '\\' :: c :: rest => '\\' :: c :: replaceControls left rest
  | c :: rest => c :: replaceControls left rest
  | [] => []
termination_by text => text.length

/-- The dialect of a text with the text without control escapes, if it may be a pattern. -/
def dialect? (text : List Char) : Option (Dialect × List Char) :=
  match checkText (text.length + 1) false ⟨false, [], [], false⟩ text with
  | .ok bell => if bell then none else some (.plain, replaceControls 0 text)
  | .error (.extended rest) => some (.extended, replaceControls rest.length text)
  | .error .invalid => none

end TaggedConfig.Pattern
