/-! Binary floating-point numbers of 64 bits, by their bits and in exact arithmetic.
A finite one is a whole number of units in the last place, and rounding goes to the nearest
one, ties to the even.
-/

namespace TaggedConfig

/-- A floating-point number of 64 bits. -/
structure Double where
  bits : UInt64
  deriving DecidableEq, Repr

namespace Double

/-- The number of stored bits of the significand. -/
def significandBits : Nat := 52

/-- The exponent of the unit of subnormal numbers. -/
def leastExponent : Int := -1074

/-- The bits of infinity; magnitudes are ordered as their bits are. -/
def infinityBits : Nat := 2047 * Nat.pow 2 significandBits

/-- Whether the sign bit is set. -/
def isNegative (x : Double) : Bool := Nat.pow 2 63 ≤ x.bits.toNat

/-- The bits without the sign. -/
def magnitudeBits (x : Double) : Nat := x.bits.toNat % Nat.pow 2 63

/-- Whether the number is neither infinite nor undefined. -/
def isFinite (x : Double) : Bool := x.magnitudeBits < infinityBits

/-- Whether the number is a zero of either sign. -/
def isZero (x : Double) : Bool := x.magnitudeBits = 0

def exponentField (x : Double) : Nat := x.magnitudeBits / Nat.pow 2 significandBits

/-- The significand as a whole number of units. -/
def significand (x : Double) : Nat :=
  let stored := x.magnitudeBits % Nat.pow 2 significandBits
  if x.exponentField = 0 then stored else stored + Nat.pow 2 significandBits

def unitExponent (x : Double) : Int := leastExponent + ((x.exponentField - 1 : Nat) : Int)

/-- The magnitude as a fraction, for a finite number. -/
def ratio (x : Double) : Nat × Nat :=
  (x.significand * Nat.pow 2 x.unitExponent.toNat, Nat.pow 2 (-x.unitExponent).toNat)

/-- The number of a sign and of the bits of a magnitude. -/
def ofMagnitude (negative : Bool) (magnitude : Nat) : Double :=
  ⟨UInt64.ofNat (magnitude + if negative then Nat.pow 2 63 else 0)⟩

def zero (negative : Bool) : Double := ofMagnitude negative 0

/-- A quotient rounded to the nearest whole number, a half to the even one. -/
def roundQuotient (numerator denominator : Nat) : Nat :=
  let quotient := numerator / denominator
  let twice := 2 * (numerator % denominator)
  if twice < denominator then quotient
  else if denominator < twice then quotient + 1
  else quotient + quotient % 2

/-- The exponent of the largest power of two that is at most a positive fraction. -/
def floorLog2 (numerator denominator : Nat) : Int :=
  let guess : Int := (numerator.log2 : Int) - denominator.log2
  if denominator * Nat.pow 2 guess.toNat ≤ numerator * Nat.pow 2 (-guess).toNat then guess
  else guess - 1

/-- The number nearest to a fraction of a sign; too large a magnitude gives infinity. -/
def ofRatio (negative : Bool) (numerator denominator : Nat) : Double :=
  if numerator = 0 then zero negative
  else
    let exponent := max (floorLog2 numerator denominator - significandBits) leastExponent
    let units :=
      roundQuotient (numerator * Nat.pow 2 (-exponent).toNat)
        (denominator * Nat.pow 2 exponent.toNat)
    let magnitude := (exponent - leastExponent).toNat * Nat.pow 2 significandBits + units
    ofMagnitude negative (min magnitude infinityBits)

/-- The number nearest to an integer. -/
def ofInt (n : Int) : Double := ofRatio (n < 0) n.natAbs 1

def powerOfTen (exponent : Nat) : Double := ofRatio false (Nat.pow 10 exponent) 1

/-- The product of finite numbers, rounded. -/
def mul (x y : Double) : Double :=
  ofRatio (x.isNegative != y.isNegative) (x.ratio.1 * y.ratio.1) (x.ratio.2 * y.ratio.2)

/-- The quotient of finite numbers, rounded; the divisor is not zero. -/
def div (x y : Double) : Double :=
  ofRatio (x.isNegative != y.isNegative) (x.ratio.1 * y.ratio.2) (x.ratio.2 * y.ratio.1)

/-- The number with the other sign. -/
def neg (x : Double) : Double := ofMagnitude (!x.isNegative) x.magnitudeBits

/-- The value of a finite number as a fraction with a sign. -/
def signedRatio (x : Double) : Int × Nat :=
  (if x.isNegative then -(x.ratio.1 : Int) else x.ratio.1, x.ratio.2)

/-- Whether a finite number is whole. -/
def isWhole (x : Double) : Bool := x.ratio.1 % x.ratio.2 = 0

end Double

end TaggedConfig
