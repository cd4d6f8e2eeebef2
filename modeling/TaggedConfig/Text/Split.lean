/-! Texts cut at a character.
A cut drops the character itself and joining with it restores the text.
-/

namespace TaggedConfig.Text

/-- The text before and after the first `c`, if there is one. -/
def splitFirst? (c : Char) : List Char → Option (List Char × List Char)
  | [] => none
  | d :: rest =>
      if d = c then some ([], rest)
      else (splitFirst? c rest).map fun (before, after) => (d :: before, after)

/-- The pieces of a text between the occurrences of `c`; an empty text is one empty piece. -/
def pieces (c : Char) : List Char → List (List Char)
  | [] => [[]]
  | d :: rest =>
      if d = c then [] :: pieces c rest
      else
        match pieces c rest with
        | [] => [[d]]
        | first :: others => (d :: first) :: others

/-- The pieces with `c` between them. -/
def join (c : Char) (parts : List (List Char)) : List Char := [c].intercalate parts

/-- The rest of a text that begins with `start`. -/
def dropStart? (start : List Char) (text : List Char) : Option (List Char) :=
  if start.isPrefixOf text then some (text.drop start.length) else none

/-- A text without the characters `c` at its end. -/
def trimEnd (c : Char) (text : List Char) : List Char :=
  (text.reverse.dropWhile (· = c)).reverse

end TaggedConfig.Text
