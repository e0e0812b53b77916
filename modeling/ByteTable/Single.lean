/-!
# Single precision

The load factor of a table is a quotient of two counts, formed in single precision: both counts
are rounded to 24 significant bits, and so is their quotient, each time to the nearest number and
a tie to the even one.  The arithmetic here is exact on natural numbers, so that the growth test
can be reasoned about.

A `Single` is `significand * 2 ^ exponent`.  The smallest quotient of two 64-bit counts is
`2 ^ -64` and the largest `2 ^ 64`, so the numbers that arise are zero or lie well inside the
range of single precision, and neither its subnormal numbers nor its infinities are needed.
-/

namespace ByteTable

/-- A nonnegative number of single precision, `significand * 2 ^ exponent`.  The significand of a
rounded number is zero or has 24 bits. -/
structure Single where
  /-- The significant bits, as a natural number. -/
  significand : Nat
  /-- The power of two they are scaled by. -/
  exponent : Int
  deriving DecidableEq

/-- The quotient of two naturals rounded to the nearest natural, a tie to the even one. -/
def divNearestEven (num den : Nat) : Nat :=
  let quotient := num / den
  let rest := 2 * (num % den)
  if rest < den then quotient
  else if den < rest then quotient + 1
  else if quotient % 2 = 0 then quotient else quotient + 1

namespace Single

/-- The number of bits of a significand. -/
def precision : Nat := 24

/-- The quotient `num / den`, scaled by a power of two, as a pair of numerator and denominator. -/
def scaled (num den : Nat) (exponent : Int) : Nat × Nat :=
  (num <<< (-exponent).toNat, den <<< exponent.toNat)

/-- The exponent at which the whole part of `num / den` has 24 bits. -/
def scaleOf (num den : Nat) : Int :=
  let guess : Int := (Nat.log2 num : Int) - (Nat.log2 den : Int) - (precision - 1 : Nat)
  let (top, bottom) := scaled num den guess
  if top < bottom <<< (precision - 1) then guess - 1 else guess

/-- The number nearest to the quotient `num / den`, a tie going to the even significand.  The
denominator is positive. -/
def ofRatio (num den : Nat) : Single :=
  if num = 0 then ⟨0, 0⟩
  else
    let exponent := scaleOf num den
    let (top, bottom) := scaled num den exponent
    let significand := divNearestEven top bottom
    if significand = 1 <<< precision then ⟨1 <<< (precision - 1), exponent + 1⟩
    else ⟨significand, exponent⟩

/-- The number nearest to a count. -/
def ofNat (n : Nat) : Single :=
  ofRatio n 1

/-- A number as a quotient of naturals. -/
def ratio (a : Single) : Nat × Nat :=
  (a.significand <<< a.exponent.toNat, 1 <<< (-a.exponent).toNat)

/-- The quotient of two numbers, rounded.  The divisor is not zero. -/
def div (a b : Single) : Single :=
  let (aTop, aBottom) := a.ratio
  let (bTop, bBottom) := b.ratio
  ofRatio (aTop * bBottom) (aBottom * bTop)

/-- Whether one number is smaller than another. -/
def lt (a b : Single) : Bool :=
  let (aTop, aBottom) := a.ratio
  let (bTop, bBottom) := b.ratio
  aTop * bBottom < bTop * aBottom

/-- The 32 bits of a number in the interchange format: no sign, eight bits of exponent biased by
127, and the significand without its leading bit. -/
def bits (a : Single) : Nat :=
  if a.significand = 0 then 0
  else ((a.exponent + (precision - 1 : Nat) + 127).toNat <<< (precision - 1)) +
    (a.significand - 1 <<< (precision - 1))

/-- The number with two decimals, rounded from its exact value, a tie to the even digit. -/
def twoDecimals (a : Single) : String :=
  let (top, bottom) := a.ratio
  let hundredths := divNearestEven (top * 100) bottom
  let cents := Nat.repr (hundredths % 100)
  Nat.repr (hundredths / 100) ++ "." ++ (if cents.length < 2 then "0" ++ cents else cents)

end Single

end ByteTable
