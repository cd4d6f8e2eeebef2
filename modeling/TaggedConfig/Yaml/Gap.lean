import TaggedConfig.Yaml.Cursor

/-! Gaps between the words of a scalar.
A gap on one line is kept; one that holds a single line end counts as a space, and one with
more as the further line ends.
-/

namespace TaggedConfig.Yaml

/-- Blanks, and the line ends after them. -/
structure Gap where
  blanks : List Char
  breaks : List Char

namespace Gap

/-- No gap. -/
def none : Gap := ⟨[], []⟩

/-- Whether a gap goes over the end of a line. -/
def isBroken (gap : Gap) : Bool := !gap.breaks.isEmpty

/-- What a gap counts as. -/
def folded (gap : Gap) : List Char :=
  match gap.breaks with
  | [] => gap.blanks
  | ['\n'] => [' ']
  | '\n' :: others => others
  | breaks => breaks

/-- Reads a gap, given whether a line end has been passed already. Blanks after it are
indentation, and a tab is no indentation up to column `least`; `fuel` bounds the characters.
-/
def read? (least : Nat) : Nat → Bool → Gap → Cursor → Option (Gap × Cursor)
  | 0, _, gap, cursor => some (gap, cursor)
  | fuel + 1, broken, gap, cursor =>
      match cursor.rest with
      | [] => some (gap, cursor)
      | c :: _ =>
          if isBlank c then
            if !broken then
              let further := { gap with blanks := gap.blanks ++ [c] }
              read? least fuel false further (cursor.skip 1)
            else if c = '\t' && cursor.column < least then Option.none
            else read? least fuel true gap (cursor.skip 1)
          else if isBreak c then
            let further := { gap with breaks := gap.breaks ++ cursor.lineBreak }
            read? least fuel true further cursor.skipBreak
          else some (gap, cursor)

end Gap

end TaggedConfig.Yaml
