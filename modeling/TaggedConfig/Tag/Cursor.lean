import TaggedConfig.Tag.Basic

/-! A cursor that finds the tags of a buffer and replaces them in place.
A search leaves the buffer as it is, and a replacement is never searched.
-/

namespace TaggedConfig

/-- A buffer and the offset from which it is searched. -/
structure Cursor where
  data : Bytes
  position : Nat
  deriving DecidableEq, Repr

namespace Cursor

/-- The result of a search. -/
inductive Outcome where
  | tag (tag : Tag)
  | exhausted
  | unclosed (offset : Nat)
  deriving DecidableEq, Repr

/-- A cursor at the start of a buffer. -/
def ofBytes (data : Bytes) : Cursor := ⟨data, 0⟩

/-- The number of bytes at or after the cursor. -/
def remaining (cursor : Cursor) : Nat := cursor.data.length - cursor.position

/-- The offset and kind of the first opening at or after `offset`, unless the buffer ends
with it.
-/
def firstOpening? (offset : Nat) : Bytes → Option (Nat × Tag.Kind)
  | [] => none
  | b :: rest =>
      match Tag.opening? (b :: rest) with
      | some kind =>
          if (rest.drop (Tag.openingSize - 1)).isEmpty then none else some (offset, kind)
      | none => firstOpening? (offset + 1) rest

/-- The tag at or after the cursor that opens first, or the offset of that opening when no
brace closes it.
-/
def search (cursor : Cursor) : Outcome :=
  match firstOpening? cursor.position (cursor.data.drop cursor.position) with
  | none => .exhausted
  | some (start, kind) =>
      let contentStart := start + Tag.openingSize
      match Tag.closing? 0 contentStart (cursor.data.drop contentStart) with
      | none => .unclosed start
      | some stop => .tag ⟨kind, start, stop - contentStart⟩

/-- Where a search leaves the cursor: after the tag, at an opening that is not closed, or at
the last bytes, which are too few for a tag.
-/
def advance (cursor : Cursor) : Cursor :=
  match cursor.search with
  | .tag tag => { cursor with position := tag.stop }
  | .unclosed offset => { cursor with position := offset }
  | .exhausted =>
      { cursor with position := max cursor.position (cursor.data.length - Tag.openingSize) }

/-- Replaces the bytes of a tag and puts the cursor after the replacement. -/
def splice (cursor : Cursor) (tag : Tag) (replacement : Bytes) : Cursor where
  data := cursor.data.take tag.start ++ replacement ++ cursor.data.drop tag.stop
  position := tag.start + replacement.length

/-- As `splice`, but refuses a tag that reaches past the end of the buffer. -/
def splice? (cursor : Cursor) (tag : Tag) (replacement : Bytes) : Option Cursor :=
  if tag.stop ≤ cursor.data.length then some (cursor.splice tag replacement) else none

end Cursor

end TaggedConfig
