/-! Sets of code points as spans in order.
A span takes every code point, or every second one, from its first to its last.
-/

namespace TaggedConfig.Text

/-- Spans, each with its first code point, its last and the step between its members. -/
abbrev CodePoints := List (Nat × Nat × Nat)

/-- Whether a code point is in a span. -/
def inSpan (n first last step : Nat) : Bool :=
  first ≤ n && n ≤ last && (n - first) % step = 0

/-- Whether a character is in a set. -/
def CodePoints.contains (points : CodePoints) (c : Char) : Bool :=
  points.any fun (first, last, step) => inSpan c.toNat first last step

end TaggedConfig.Text
