import TaggedConfig.Bytes

/-! Reference tags: `${SRC:descriptor}` and `${ENV:NAME}`.
A tag ends at the first brace that is not the closing brace of a tag within its content.
-/

namespace TaggedConfig

/-- What a tag refers to. -/
inductive Tag.Kind where
  | source
  | variable
  deriving DecidableEq, Repr

namespace Tag

/-- The three letters that name a kind. -/
def Kind.keyword : Kind → String
  | .source => "SRC"
  | .variable => "ENV"

/-- The number of bytes of an opening: dollar, brace, three letters, colon. -/
def openingSize : Nat := 6

/-- The kind of the opening with which the bytes begin. -/
def opening? : Bytes → Option Kind
  | dollar :: brace :: a :: b :: c :: colon :: _ =>
      if dollar = byte '$' ∧ brace = byte '{' ∧ colon = byte ':' then
        if [a, b, c] = ascii "SRC" then some .source
        else if [a, b, c] = ascii "ENV" then some .variable
        else none
      else none
  | _ => none

/-- The offset of the brace that closes a tag whose content has `open` tags standing open at
`offset`. An opening holds no brace that closes, so its bytes need no skipping.
-/
def closing? (openTags offset : Nat) : Bytes → Option Nat
  | [] => none
  | b :: rest =>
      if b = byte '}' then
        match openTags with
        | 0 => some offset
        | openTags + 1 => closing? openTags (offset + 1) rest
      else if (opening? (b :: rest)).isSome then closing? (openTags + 1) (offset + 1) rest
      else closing? openTags (offset + 1) rest

end Tag

/-- A tag found in a buffer, by the offset of its dollar sign and the size of its content. -/
structure Tag where
  kind : Tag.Kind
  start : Nat
  size : Nat
  deriving DecidableEq, Repr

namespace Tag

/-- The offset of the first content byte. -/
def contentStart (tag : Tag) : Nat := tag.start + openingSize

/-- The offset of the closing brace. -/
def contentStop (tag : Tag) : Nat := tag.contentStart + tag.size

/-- The offset after the closing brace. -/
def stop (tag : Tag) : Nat := tag.contentStop + 1

/-- The bytes between the colon and the closing brace. -/
def content (tag : Tag) (data : Bytes) : Bytes := (data.drop tag.contentStart).take tag.size

end Tag

end TaggedConfig
