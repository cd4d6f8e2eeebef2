import TaggedConfig.Bytes

/-! Comments of a document, blanked in place.
Every byte of a comment becomes a space, so the length and all other bytes stay as they are.
-/

namespace TaggedConfig.Comment

/-- What the bytes at hand belong to. -/
inductive Region where
  | plain
  | quoted
  | line
  | block
  deriving DecidableEq, Repr

/-- The byte that stands for every byte of a comment. -/
def blankByte : UInt8 := byte ' '

/-- Blanks the comments of the bytes that follow a point within `region`. A backslash in a
string shields the byte after it, and an open string or comment lasts to the end.
-/
def blankFrom : Region → Bytes → Bytes
  | _, [] => []
  | .plain, [b] => [b]
  | .plain, b :: c :: rest =>
      if b = byte '"' then b :: blankFrom .quoted (c :: rest)
      else if b = byte '/' ∧ c = byte '/' then blankByte :: blankByte :: blankFrom .line rest
      else if b = byte '/' ∧ c = byte '*' then blankByte :: blankByte :: blankFrom .block rest
      else b :: blankFrom .plain (c :: rest)
  | .quoted, [b] => [b]
  | .quoted, b :: c :: rest =>
      if b = byte '\\' then b :: c :: blankFrom .quoted rest
      else if b = byte '"' then b :: blankFrom .plain (c :: rest)
      else b :: blankFrom .quoted (c :: rest)
  | .line, b :: rest =>
      if b = byte '\n' then b :: blankFrom .plain rest else blankByte :: blankFrom .line rest
  | .block, [_] => [blankByte]
  | .block, b :: c :: rest =>
      if b = byte '*' ∧ c = byte '/' then blankByte :: blankByte :: blankFrom .plain rest
      else blankByte :: blankFrom .block (c :: rest)

/-- Blanks every comment of a document. -/
def blank (document : Bytes) : Bytes := blankFrom .plain document

end TaggedConfig.Comment
