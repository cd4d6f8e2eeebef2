import TaggedConfig.Json.Fault
import TaggedConfig.Json.Value

/-! Numerals of a JSON text and the numbers they stand for.
A whole numeral of 64 bits is kept exactly; any other is read as a floating-point number by
one rounding of its leading digits and one of a power of ten.
-/

namespace TaggedConfig.Json

/-- The parts of a numeral. -/
structure Numeral where
  negative : Bool
  whole : List Nat
  fraction : Option (List Nat)
  exponent : Option (Bool × List Nat)
  /-- The offset after the last byte. -/
  stop : Nat
  deriving DecidableEq, Repr

/-- Where the scan of a numeral ended without a digit that has to be there: at the end of
the text, or at a byte that was looked at or consumed.
-/
inductive Numeral.Stuck where
  | finish (offset : Nat)
  | bad (offset : Nat)
  deriving DecidableEq, Repr

namespace Numeral

/-- The digits at the start of the bytes, and the rest. -/
def digits (bytes : Bytes) : List Nat × Bytes :=
  ((bytes.takeWhile isDigit).map (·.toNat - 48), bytes.dropWhile isDigit)

def scanExponent (numeral : Numeral) (offset : Nat) : Bytes → Except Stuck Numeral
  | [] => pure { numeral with stop := offset }
  | letter :: rest =>
      if letter = byte 'e' ∨ letter = byte 'E' then
        let (negative, size, rest) :=
          match rest with
          | sign :: after =>
              if sign = byte '+' then (false, 2, after)
              else if sign = byte '-' then (true, 2, after)
              else (false, 1, rest)
          | [] => (false, 1, rest)
        match digits rest with
        | ([], []) => throw (.finish (offset + size))
        | ([], _ :: _) => throw (.bad (offset + size + 1))
        | (ds, _) =>
            pure { numeral with
              exponent := some (negative, ds), stop := offset + size + ds.length }
      else pure { numeral with stop := offset }

/-- Scans a fraction from its point on, and an exponent. -/
def scanFraction (numeral : Numeral) (offset : Nat) : Bytes → Except Stuck Numeral
  | [] => pure { numeral with stop := offset }
  | point :: rest =>
      if point = byte '.' then
        match digits rest with
        | ([], []) => throw (.finish (offset + 1))
        | ([], _ :: _) => throw (.bad (offset + 2))
        | (ds, rest) =>
            scanExponent { numeral with fraction := some ds } (offset + 1 + ds.length) rest
      else scanExponent numeral offset (point :: rest)

/-- Scans a numeral after its sign. A leading zero stands alone. -/
def scanWhole (negative : Bool) (offset : Nat) (bytes : Bytes) : Except Stuck Numeral :=
  match digits bytes with
  | ([], []) => throw (.finish offset)
  | ([], _ :: _) => throw (.bad (offset + 1))
  | (0 :: _ :: _, _) => throw (.bad (offset + 2))
  | (ds, rest) => scanFraction ⟨negative, ds, none, none, offset⟩ (offset + ds.length) rest

/-- Scans the numeral with which the bytes at `offset` begin. -/
def scan (offset : Nat) (bytes : Bytes) : Except Stuck Numeral :=
  match bytes with
  | [] => throw (.finish offset)
  | sign :: rest =>
      if sign = byte '-' then scanWhole true (offset + 1) rest
      else scanWhole false offset bytes

/-- Appends digits to a number as long as it stays within `limit`, and gives the digits left
over.
-/
def absorb (limit : Nat) : Nat → List Nat → Nat × List Nat
  | n, [] => (n, [])
  | n, d :: rest =>
      if n * 10 + d ≤ limit then absorb limit (n * 10 + d) rest else (n, d :: rest)

/-- The greatest significand that is read exactly before rounding. -/
def significandLimit : Nat := UInt64.size - 1

/-- The greatest exponent that is read; a longer one is past every number. -/
def exponentLimit : Nat := 2147483647

/-- The greatest power of ten among floating-point numbers. -/
def greatestPower : Nat := 308

/-- Divides by the greatest power of ten until the exponent that is left is one, `fuel`
times at most: a number is zero after three divisions.
-/
def scaleDown : Nat → Double → Nat → Double
  | 0, x, _ => x
  | fuel + 1, x, power =>
      if x.isZero then x
      else if power ≤ greatestPower then x.div (.powerOfTen power)
      else scaleDown fuel (x.div (.powerOfTen greatestPower)) (power - greatestPower)

/-- A whole number times a power of ten, unless the product is past every number. -/
def scale? (significand : Nat) (exponent : Int) : Option Double :=
  let x := Double.ofInt significand
  if exponent < 0 then some (scaleDown 4 x exponent.natAbs)
  else if x.isZero then some x
  else if exponent.toNat ≤ greatestPower then
    let product := x.mul (.powerOfTen exponent.toNat)
    if product.isFinite then some product else none
  else none

/-- The offset after the exponent digit that goes past the limit. -/
def overflowStop (numeral : Numeral) (excess : List Nat) : Nat :=
  numeral.stop - (excess.length - 1)

/-- The number of a numeral, or the offset at which it is found to be out of range. -/
def value (numeral : Numeral) : Except Nat Number :=
  let signed (x : Double) : Number := .double (if numeral.negative then x.neg else x)
  let (leading, excess) := absorb significandLimit 0 numeral.whole
  match numeral.fraction, numeral.exponent, excess with
  | none, none, [] =>
      let n : Int := if numeral.negative then -(leading : Int) else leading
      if numeral.negative && (leading = 0 || n < leastInteger) then
        pure (signed (.ofInt leading))
      else pure (.integer n)
  | fraction, exponent, excess =>
      let places := fraction.getD []
      let (significand, left) := absorb significandLimit leading places
      let shift : Int := (excess.length : Int) - ((places.length - left.length : Nat) : Int)
      let finish (exponent : Int) : Except Nat Number :=
        match scale? significand exponent with
        | some x => pure (signed x)
        | none => throw numeral.stop
      match exponent with
      | none => finish shift
      | some (negative, ds) =>
          match absorb exponentLimit 0 ds with
          | (n, []) => finish (if negative then shift - n else shift + n)
          | (_, excess) =>
              if significand ≠ 0 ∧ !negative then throw (numeral.overflowStop excess)
              else pure (signed (.zero false))

end Numeral

end TaggedConfig.Json
