import TaggedConfig.Yaml.Gap

/-! Scalars without quotes.
They go on over lines that are indented deeper, and end at a comment, at a colon before a gap
and within brackets at a bracket or a comma.
-/

namespace TaggedConfig.Yaml.Plain

/-- What may not follow a colon in a scalar within brackets. -/
def isColonFault (rest : List Char) : Bool :=
  match rest with
  | c :: _ => isFlowMark c || c = '?'
  | [] => false

/-- The word at the start of a text, unless it has a fault. -/
def readWord? (inFlow : Bool) : List Char → Option (List Char)
  | [] => some []
  | c :: rest =>
      if isBlank c || isBreak c then some []
      else if inFlow && c = ':' && isColonFault rest then none
      else if (c = ':' && isGap rest) || (inFlow && isFlowMark c) then some []
      else (readWord? inFlow rest).map (c :: ·)

/-- Reads what is left of a scalar after a gap, within a part that begins at column `least`. The
answer says whether the scalar ends after the end of a line.
-/
def readOn? (inFlow : Bool) (least : Nat) : Nat → Gap → Cursor
    → Option (List Char × Bool × Cursor)
  | 0, _, _ => none
  | fuel + 1, gap, cursor =>
      if cursor.isAtDocumentMark || cursor.rest.head? = some '#' then
        some ([], gap.isBroken, cursor)
      else do
        let word ← readWord? inFlow cursor.rest
        if word.isEmpty then some ([], gap.isBroken, cursor)
        else
          let text := gap.folded ++ word
          let after := cursor.skip word.length
          let (gap, next) ← Gap.read? least fuel false .none after
          if after.index = next.index then some (text, false, after)
          else if !inFlow && next.column < least then some (text, gap.isBroken, next)
          else do
            let (more, broken, last) ← readOn? inFlow least fuel gap next
            some (text ++ more, broken, last)

/-- Reads a scalar without quotes. -/
def read? (inFlow : Bool) (least : Nat) (cursor : Cursor)
    : Option (List Char × Bool × Cursor) :=
  readOn? inFlow least (cursor.rest.length + 1) .none cursor

end TaggedConfig.Yaml.Plain
