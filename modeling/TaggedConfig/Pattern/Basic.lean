import TaggedConfig.Pattern.CharSet

/-! Patterns over texts and the spots at which they match.
A pattern that starts at a spot may end at several, the preferred one first; an atomic part
keeps to its first one.
-/

namespace TaggedConfig

/-- A condition on a place in a text. -/
inductive Place where
  | start
  | finish
  | lineStart
  | lineFinish
  /-- A word starts or ends here. -/
  | wordEdge
  | noWordEdge
  | wordStart
  | wordFinish
  /-- No word has a character right before this place. -/
  | noWordBefore
  | noWordAfter
  deriving DecidableEq, Repr

/-- A pattern. -/
inductive Pattern where
  | empty
  | one (set : CharSet)
  | place (place : Place)
  | sequence (a b : Pattern)
  | choice (a b : Pattern)
  /-- At least `least` times and at most `greatest` times if there is such a bound, preferably
  often or rarely.
  -/
  | repeated (a : Pattern) (least : Nat) (greatest : Option Nat) (often : Bool)
  /-- The first way in which `a` matches and no other. -/
  | atomic (a : Pattern)
  | group (index : Nat) (a : Pattern)
  /-- The text that a group matched last. -/
  | reference (index : Nat)
  /-- Whether `a` matches here, without moving on. -/
  | ahead (wanted : Bool) (a : Pattern)
  /-- Whether `a`, which takes `size` characters, matches up to here. -/
  | behind (wanted : Bool) (size : Nat) (a : Pattern)
  deriving DecidableEq, Repr

/-- Whether a word has a character at a position. -/
def Place.isWordAt (text : Array Char) (position : Nat) : Bool :=
  match text[position]? with
  | some c => CharSet.wordCharacters.contains c
  | none => false

/-- Whether a condition holds at a position. -/
def Place.holds (text : Array Char) (position : Nat) (place : Place) : Bool :=
  let before := 0 < position && isWordAt text (position - 1)
  let after := isWordAt text position
  match place with
  | start => position = 0
  | finish => position = text.size
  | lineStart => position = 0 || text[position - 1]? = some '\n'
  | lineFinish => position = text.size || text[position]? = some '\n'
  | wordEdge => before != after
  | noWordEdge => before == after
  | wordStart => !before && after
  | wordFinish => before && !after
  | noWordBefore => !before
  | noWordAfter => !after

namespace Pattern

/-- A position in a text and what groups matched on the way there, with their bounds. -/
structure Spot where
  position : Nat
  groups : List (Nat × Nat × Nat)
  deriving DecidableEq, Repr

/-- The spot at another position. -/
def Spot.moveTo (spot : Spot) (position : Nat) : Spot := { spot with position }

/-- The spot after a group that began at `start`. -/
def Spot.close (index start : Nat) (spot : Spot) : Spot :=
  let others := spot.groups.filter fun (other, _) => other ≠ index
  { spot with groups := (index, start, spot.position) :: others }

/-- The spots one step from each of `spots`, each once, in order. -/
def stepAll (step : Spot → List Spot) (spots : List Spot) : List Spot :=
  (spots.flatMap step).eraseDups

/-- The spots after exactly `n` steps. -/
def stepTimes (step : Spot → List Spot) : Nat → List Spot → List Spot
  | 0, spots => spots
  | n + 1, spots => stepTimes step n (stepAll step spots)

/-- Spots that have been visited, each with the number of steps that were left, and those that
are found so far, last first.
-/
structure Walk where
  visited : List (Spot × Nat)
  found : List Spot

/-- Adds the spots that at most so many further steps lead to. A step has to move on, and a
spot is not visited again unless more steps may be left then.
-/
def Walk.extend (step : Spot → List Spot) (often counted : Bool) : Nat → Walk → Spot → Walk
  | 0, walk, spot => { walk with found := spot :: walk.found }
  | left + 1, walk, spot =>
      if walk.visited.any fun (other, n) => other = spot && (!counted || left < n) then walk
      else
        let entered : Walk :=
          ⟨(spot, left + 1) :: walk.visited,
            if often then walk.found else spot :: walk.found⟩
        let walked :=
          ((step spot).filter (spot.position < ·.position)).foldl
            (extend step often counted left) entered
        if often then { walked with found := spot :: walked.found } else walked

/-- The spots that at most so many steps lead to, or any number of them. -/
def stepUpTo (step : Spot → List Spot) (often : Bool) (bound : Option Nat) (size : Nat)
    (spots : List Spot) : List Spot :=
  let walk := spots.foldl (Walk.extend step often bound.isSome (bound.getD (size + 1))) ⟨[], []⟩
  walk.found.reverse.eraseDups

/-- The position after the part of a text between two positions, if it occurs at a third. -/
def afterRepeat? (text : Array Char) (start stop position : Nat) : Option Nat :=
  let size := stop - start
  if text.extract start stop = text.extract position (position + size) then
    some (position + size)
  else none

/-- The spots at which a match that starts at a spot can end. -/
def ends (text : Array Char) : Pattern → Spot → List Spot
  | empty, spot => [spot]
  | one set, spot =>
      match text[spot.position]? with
      | some c => if set.contains c then [spot.moveTo (spot.position + 1)] else []
      | none => []
  | place condition, spot => if condition.holds text spot.position then [spot] else []
  | sequence a b, spot => stepAll (b.ends text) (a.ends text spot)
  | choice a b, spot => (a.ends text spot ++ b.ends text spot).eraseDups
  | repeated a least greatest often, spot =>
      let first := stepTimes (a.ends text) least [spot]
      stepUpTo (a.ends text) often (greatest.map (· - least)) text.size first
  | atomic a, spot => (a.ends text spot).take 1
  | group index a, spot => ((a.ends text spot).map (·.close index spot.position)).eraseDups
  | reference index, spot =>
      match spot.groups.lookup index with
      | some (start, stop) =>
          match afterRepeat? text start stop spot.position with
          | some position => [spot.moveTo position]
          | none => []
      | none => []
  | ahead wanted a, spot =>
      match a.ends text spot with
      | [] => if wanted then [] else [spot]
      | first :: _ => if wanted then [first.moveTo spot.position] else []
  | behind wanted size a, spot =>
      let reached :=
        if spot.position < size then []
        else a.ends text (spot.moveTo (spot.position - size))
      match reached with
      | [] => if wanted then [] else [spot]
      | first :: _ => if wanted then [first.moveTo spot.position] else []

/-- Whether a pattern matches anywhere in a text. -/
def occursIn (pattern : Pattern) (text : String) : Bool :=
  let characters := text.toList.toArray
  (List.range (characters.size + 1)).any fun position =>
    !(pattern.ends characters ⟨position, []⟩).isEmpty

/-- The number of characters that a pattern takes, if it is always the same. -/
def size? : Pattern → Option Nat
  | empty | place _ | ahead _ _ | behind _ _ _ => some 0
  | one _ => some 1
  | sequence a b => do some ((← a.size?) + (← b.size?))
  | choice a b => do
      let m ← a.size?
      let n ← b.size?
      if m = n then some m else none
  | repeated a least greatest _ => do
      let n ← a.size?
      if greatest = some least then some (least * n) else none
  | atomic a | group _ a => a.size?
  | reference _ => none

/-- The pattern without the groups that nothing refers to. -/
def keepGroups (kept : List Nat) : Pattern → Pattern
  | group index a =>
      if kept.contains index then group index (a.keepGroups kept) else a.keepGroups kept
  | sequence a b => sequence (a.keepGroups kept) (b.keepGroups kept)
  | choice a b => choice (a.keepGroups kept) (b.keepGroups kept)
  | repeated a least greatest often => repeated (a.keepGroups kept) least greatest often
  | atomic a => atomic (a.keepGroups kept)
  | ahead wanted a => ahead wanted (a.keepGroups kept)
  | behind wanted size a => behind wanted size (a.keepGroups kept)
  | pattern => pattern

end Pattern

end TaggedConfig
