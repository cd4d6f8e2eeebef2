/-! Texts shortened for display.
The cut falls between characters, so a shortened text is at most as long as its limit and
its mark together.
-/

namespace TaggedConfig.Text

/-- The longest prefix that fits into `room` bytes. -/
def fitting : Nat → List Char → List Char
  | _, [] => []
  | room, c :: rest => if c.utf8Size ≤ room then c :: fitting (room - c.utf8Size) rest else []

/-- The text itself if it fits into `limit` bytes, else the longest prefix that does, with
three dots.
-/
def excerpt (limit : Nat) (text : String) : String :=
  if text.utf8ByteSize ≤ limit then text
  else String.ofList (fitting limit text.toList) ++ "..."

end TaggedConfig.Text
