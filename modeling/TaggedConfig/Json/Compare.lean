import TaggedConfig.Json.Value

/-! Order of numbers and equality of values across spellings.
Numbers compare exactly, and values are the same if they differ at most in how their numbers
are written.
-/

namespace TaggedConfig.Json

/-- The value of a number as a fraction with a sign. -/
def Number.signedRatio : Number → Int × Nat
  | .integer value => (value, 1)
  | .double value => value.signedRatio

/-- Whether a number is less than another, exactly. -/
def Number.less (a b : Number) : Bool :=
  a.signedRatio.1 * b.signedRatio.2 < b.signedRatio.1 * a.signedRatio.2

/-- Whether numbers are equal, however they are written; zeros of both signs are. -/
def Number.same (a b : Number) : Bool := !a.less b && !b.less a

mutual

/-- Whether two values agree, given when their numbers do. -/
def agree (numbers : Number → Number → Bool) : Json → Json → Bool
  | .null, .null => true
  | .bool a, .bool b => a = b
  | .number a, .number b => numbers a b
  | .string a, .string b => a = b
  | .array a, .array b => agreeItems numbers a b
  | .object a, .object b => agreeMembers numbers a b
  | _, _ => false

def agreeItems (numbers : Number → Number → Bool) : List Json → List Json → Bool
  | [], [] => true
  | a :: as, b :: bs => agree numbers a b && agreeItems numbers as bs
  | _, _ => false

/-- Whether the members of two objects agree. -/
def agreeMembers (numbers : Number → Number → Bool)
    : List (String × Json) → List (String × Json) → Bool
  | [], [] => true
  | (m, a) :: as, (n, b) :: bs => m = n && agree numbers a b && agreeMembers numbers as bs
  | _, _ => false

end

/-- Whether two values are the same, however their numbers are written. -/
def same (a b : Json) : Bool := agree Number.same a b

/-- Whether two values are the same and their numbers are of the same kind. -/
def identical (a b : Json) : Bool := agree (fun m n => m = n) a b

/-- Whether two items of a list are the same by a test. -/
def repeats (test : Json → Json → Bool) : List Json → Bool
  | [] => false
  | item :: items => items.any (test item) || repeats test items

/-- The greatest number of items that are compared pair by pair; beyond it items have to be
identical to count as repeated.
-/
def pairwiseLimit : Nat := 15

/-- Whether an item of a list occurs in it again. -/
def hasRepetition (items : List Json) : Bool :=
  repeats (if items.length ≤ pairwiseLimit then same else identical) items

mutual

/-- How many levels of nesting a value has. -/
def depth : Json → Nat
  | .array items => itemsDepth items + 1
  | .object members => membersDepth members + 1
  | _ => 0

/-- The greatest nesting of the items of an array. -/
def itemsDepth : List Json → Nat
  | [] => 0
  | item :: items => max item.depth (itemsDepth items)

/-- The greatest nesting of the members of an object. -/
def membersDepth : List (String × Json) → Nat
  | [] => 0
  | (_, value) :: members => max value.depth (membersDepth members)

end

mutual

/-- How many values a value consists of. -/
def size : Json → Nat
  | .array items => itemsSize items + 1
  | .object members => membersSize members + 1
  | _ => 1

/-- How many values the items of an array consist of. -/
def itemsSize : List Json → Nat
  | [] => 0
  | item :: items => item.size + itemsSize items

/-- How many values the members of an object consist of. -/
def membersSize : List (String × Json) → Nat
  | [] => 0
  | (_, value) :: members => value.size + membersSize members

end

end TaggedConfig.Json
