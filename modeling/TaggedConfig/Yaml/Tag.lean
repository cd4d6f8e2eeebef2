import TaggedConfig.Text.Digits
import TaggedConfig.Yaml.Cursor
import TaggedConfig.Yaml.Token

/-! Names, tags and directives.
What is read here stands on one line.
-/

namespace TaggedConfig.Yaml

/-- Characters of tags; those of a whole address hold commas and square brackets too. -/
def isUriChar (whole : Bool) (c : Char) : Bool :=
  isNameChar c || [';', '/', '?', ':', '@', '&', '=', '+', '$', '.', '%', '!', '~', '*', '\'',
    '(', ')'].contains c || (whole && [',', '[', ']'].contains c)

/-- The byte that a percent sign and two digits write. -/
def escapedByte? : List Char → Option (Nat × List Char)
  | '%' :: high :: low :: rest => (Text.ofDigits? 16 [high, low]).map (·, rest)
  | _ => none

/-- How many bytes a character has that begins with a byte. -/
def widthOf? (lead : Nat) : Option Nat :=
  if lead < 0x80 then some 1
  else if 0xC0 ≤ lead ∧ lead < 0xE0 then some 2
  else if 0xE0 ≤ lead ∧ lead < 0xF0 then some 3
  else if 0xF0 ≤ lead ∧ lead < 0xF8 then some 4
  else none

/-- The further bytes of a character that are written as escapes. -/
def furtherBytes? : Nat → List Char → Option (List Char × List Char)
  | 0, text => some ([], text)
  | n + 1, text => do
      let (octet, rest) ← escapedByte? text
      if 0x80 ≤ octet ∧ octet < 0xC0 then
        let (others, rest) ← furtherBytes? n rest
        some (Char.ofNat octet :: others, rest)
      else none

/-- The part of a tag at the start of a text. A byte of an escape stands as the character of
its number.
-/
def readUri? (whole : Bool) : Nat → List Char → Option (List Char × List Char)
  | 0, text => some ([], text)
  | fuel + 1, text =>
      match text with
      | [] => some ([], [])
      | c :: rest =>
          if !isUriChar whole c then some ([], text)
          else if c = '%' then do
            let (lead, rest) ← escapedByte? text
            let (others, rest) ← furtherBytes? ((← widthOf? lead) - 1) rest
            let (uri, after) ← readUri? whole fuel rest
            some (Char.ofNat lead :: others ++ uri, after)
          else do
            let (uri, after) ← readUri? whole fuel rest
            some (c :: uri, after)

/-- The text of a part of a tag, which a zero byte ends. -/
def uriText (uri : List Char) : String := .ofList (uri.takeWhile (· ≠ '\x00'))

/-- A part of a tag that is not empty. -/
def nonemptyUri? (whole : Bool) (text : List Char) : Option (String × List Char) := do
  let (uri, after) ← readUri? whole text.length text
  if uri.isEmpty then none else some (uriText uri, after)

/-- An exclamation mark with the name after it, and a further mark if one follows. -/
def readHandle? : List Char → Option (List Char × List Char)
  | '!' :: rest =>
      let name := rest.takeWhile isNameChar
      match rest.drop name.length with
      | '!' :: after => some ('!' :: name ++ ['!'], after)
      | after => some ('!' :: name, after)
  | _ => none

/-- Whether a handle is more than one mark and ends with one. -/
def isNamedHandle (handle : List Char) : Bool :=
  handle.length > 1 && handle.getLast? = some '!'

/-- The handle and the suffix of a tag, and what follows. -/
def readTag? (text : List Char) : Option (Token × List Char) :=
  match text with
  | '!' :: '<' :: rest => do
      match ← nonemptyUri? true rest with
      | (uri, '>' :: after) => some (.tag "" uri, after)
      | _ => none
  | _ => do
      let (handle, rest) ← readHandle? text
      if isNamedHandle handle then
        let (suffix, after) ← nonemptyUri? false rest
        some (.tag (.ofList handle) suffix, after)
      else
        let (uri, after) ← readUri? false rest.length rest
        let suffix := uriText (handle.drop 1 ++ uri)
        some (if suffix = "" then .tag "" "!" else .tag "!" suffix, after)

/-- A number of at most nine digits. -/
def readVersionNumber? (text : List Char) : Option (Nat × List Char) :=
  let digits := text.takeWhile Char.isDigit
  if digits.length > 9 then none
  else (Text.ofDigits? 10 digits).map (·, text.drop digits.length)

/-- The version that a directive states. -/
def readVersion? (text : List Char) : Option (Token × List Char) := do
  match ← readVersionNumber? text with
  | (major, '.' :: rest) => do
      let (minor, after) ← readVersionNumber? rest
      some (.versionDirective major minor, after)
  | _ => none

/-- The handle that a directive declares. -/
def readDeclaration? (text : List Char) : Option (Token × List Char) := do
  let (handle, rest) ← readHandle? text
  if (handle = ['!'] || isNamedHandle handle) && rest.head?.any isBlank then
    let (uri, after) ← nonemptyUri? true (rest.dropWhile isBlank)
    if isGap after then some (.tagDirective (.ofList handle) uri, after) else none
  else none

/-- A directive after its percent sign. -/
def readDirective? (text : List Char) : Option (Token × List Char) :=
  let name := text.takeWhile isNameChar
  let rest := text.drop name.length
  if !isGap rest then none
  else if name = ['Y', 'A', 'M', 'L'] then readVersion? (rest.dropWhile isBlank)
  else if name = ['T', 'A', 'G'] then readDeclaration? (rest.dropWhile isBlank)
  else none

/-- The name of an anchor or alias after its sign. -/
def readName? (text : List Char) : Option (String × List Char) :=
  let name := text.takeWhile isNameChar
  let rest := text.drop name.length
  let closes := ['?', ':', ',', ']', '\x7d', '%', '@', '\x60']
  if !name.isEmpty && (isGap rest || rest.head?.any closes.contains) then
    some (.ofList name, rest)
  else none

end TaggedConfig.Yaml
