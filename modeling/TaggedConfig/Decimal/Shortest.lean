import TaggedConfig.Decimal.Double

/-! The shortest decimal that reads back as a given floating-point number.
Grids of one digit more are tried in turn; on the first that reads back, the nearer of the
two neighbours is taken.
-/

namespace TaggedConfig.Decimal

/-- Digits of a decimal fraction `0.d₁d₂…`, scaled by a power of ten. -/
structure Digits where
  digits : List Nat
  point : Int
  deriving DecidableEq, Repr

/-- The exponent of the largest power of ten that is at most a positive fraction; `guess` is
close to it.
-/
def floorLog10 (numerator denominator : Nat) : Int :=
  let estimate : Int := Double.floorLog2 numerator denominator * 30103 / 100000
  let reaches (exponent : Int) : Bool :=
    denominator * Nat.pow 10 exponent.toNat ≤ numerator * Nat.pow 10 (-exponent).toNat
  if reaches (estimate + 1) then estimate + 1
  else if reaches estimate then estimate
  else estimate - 1

/-- The decimal digits of a number, without those zeros that end it. -/
def significantDigits (n : Nat) : List Nat :=
  let digits := (Nat.toDigits 10 n).map (·.toNat - 48)
  (digits.reverse.dropWhile (· = 0)).reverse

/-- The nearer neighbour of a finite non-zero magnitude on the grid of `count` digits, as a
number of grid units, if one reads back as that magnitude. A tie goes to the even one.
-/
def neighbour? (x : Double) (log : Int) (count : Nat) : Option Nat :=
  let (numerator, denominator) := x.ratio
  let scale : Int := (count : Int) - 1 - log
  let scaled := numerator * Nat.pow 10 scale.toNat
  let unit := denominator * Nat.pow 10 (-scale).toNat
  let below := scaled / unit
  let reads (n : Nat) : Bool :=
    Double.ofRatio false (n * Nat.pow 10 (-scale).toNat) (Nat.pow 10 scale.toNat)
      = Double.ofMagnitude false x.magnitudeBits
  match reads below, reads (below + 1) with
  | false, false => none
  | true, false => some below
  | false, true => some (below + 1)
  | true, true =>
      let twice := 2 * (scaled % unit)
      some (if twice < unit then below
        else if unit < twice then below + 1
        else below + below % 2)

/-- The shortest digits that read back as a finite non-zero magnitude. Seventeen digits
always do.
-/
def shortest (x : Double) : Digits :=
  let (numerator, denominator) := x.ratio
  let log := floorLog10 numerator denominator
  let hit := (List.range 17).findSome? fun i =>
    (neighbour? x log (i + 1)).map fun n => (i + 1, n)
  match hit with
  | some (count, n) =>
      let carried := if Nat.pow 10 count ≤ n then 1 else 0
      ⟨significantDigits n, log + 1 + carried⟩
  | none => ⟨[], 0⟩

/-- How digits are laid out as text. -/
structure Layout where
  /-- The least position of the point that is written without an exponent. -/
  least : Int
  /-- The greatest such position. -/
  greatest : Int
  /-- Whether a whole number keeps a point and a zero. -/
  keepsPoint : Bool
  deriving DecidableEq, Repr

def digitText (digits : List Nat) : String :=
  String.ofList (digits.map fun d => Char.ofNat (d + 48))

/-- The text of `n` zeros. -/
def zeros (n : Nat) : String := String.ofList (List.replicate n '0')

/-- Lays out digits, positionally if the point lies within bounds, else as a fraction with
one digit before the point and a signed exponent.
-/
def Layout.write (layout : Layout) (value : Digits) : String :=
  let count : Int := value.digits.length
  if layout.least ≤ value.point ∧ value.point ≤ layout.greatest then
    if count ≤ value.point then
      digitText value.digits ++ zeros (value.point - count).toNat
        ++ (if layout.keepsPoint then ".0" else "")
    else if 0 < value.point then
      digitText (value.digits.take value.point.toNat) ++ "."
        ++ digitText (value.digits.drop value.point.toNat)
    else "0." ++ zeros (-value.point).toNat ++ digitText value.digits
  else
    let fraction := value.digits.drop 1
    digitText (value.digits.take 1)
      ++ (if fraction.isEmpty then "" else "." ++ digitText fraction)
      ++ (if value.point ≤ 0 then "e-" else "e+") ++ toString (value.point - 1).natAbs

/-- The text of a finite number; a zero is laid out as one digit. -/
def Layout.text (layout : Layout) (x : Double) : String :=
  (if x.isNegative then "-" else "")
    ++ layout.write (if x.isZero then ⟨[0], 1⟩ else shortest x)

/-- Documents and messages write numbers from 0.00001 up to ten quadrillion positionally and
mark whole ones by a point and a zero.
-/
def plain : Layout := ⟨-4, 16, true⟩

/-- Divisors of a schema are written positionally, whatever their size. -/
def positional : Layout := ⟨-400, 400, false⟩

end TaggedConfig.Decimal
