/-!
Non-negative binary floating point numbers with 53 significant bits, in exact integer arithmetic.
A quotient of natural numbers is rounded to the nearest of them, a tie to the even significand.
-/
namespace ReleaseFeed.Decimal

/-- The number `significand · 2 ^ exponent`. -/
structure Binary64 where
  significand : Nat
  exponent : Int
deriving DecidableEq

namespace Binary64

def zero : Binary64 := ⟨0, -1074⟩

def isZero (number : Binary64) : Bool := number.significand == 0

/-- The nearest natural number to a quotient; a tie goes to the even one. -/
def roundQuotient (numerator denominator : Nat) : Nat :=
  let quotient := numerator / denominator
  let twice := 2 * (numerator % denominator)
  if denominator < twice || (twice == denominator && quotient % 2 == 1) then quotient + 1
  else quotient

/-- The quotient divided by `2 ^ exponent`, as a quotient again. -/
def scale (numerator denominator : Nat) (exponent : Int) : Nat × Nat :=
  if 0 ≤ exponent then (numerator, denominator * Nat.pow 2 exponent.toNat)
  else (numerator * Nat.pow 2 (-exponent).toNat, denominator)

/-- The exponent at which the quotient has 53 bits before its point, or the least exponent. -/
def exponentFor (numerator denominator : Nat) : Int :=
  let guess : Int := (Nat.log2 numerator : Int) - (Nat.log2 denominator : Int) - 52
  let (top, bottom) := scale numerator denominator guess
  max (if top / bottom < Nat.pow 2 52 then guess - 1 else guess) (-1074)

/-- The nearest number to a quotient; `none` if it is too large. -/
def ofRatio? (numerator denominator : Nat) : Option Binary64 :=
  if numerator = 0 then some zero
  else
    let exponent := exponentFor numerator denominator
    let (top, bottom) := scale numerator denominator exponent
    let rounded := roundQuotient top bottom
    let number : Binary64 :=
      if rounded = Nat.pow 2 53 then ⟨Nat.pow 2 52, exponent + 1⟩ else ⟨rounded, exponent⟩
    if 971 < number.exponent then none else some number

def ratio (number : Binary64) : Nat × Nat :=
  if 0 ≤ number.exponent then (number.significand * Nat.pow 2 number.exponent.toNat, 1)
  else (number.significand, Nat.pow 2 (-number.exponent).toNat)

/-- The rounded product; `none` if it is too large. -/
def mul? (left right : Binary64) : Option Binary64 :=
  ofRatio? (left.ratio.1 * right.ratio.1) (left.ratio.2 * right.ratio.2)

/-- The rounded quotient; `none` if it is too large or the divisor is zero. -/
def div? (left right : Binary64) : Option Binary64 :=
  if right.isZero then none
  else ofRatio? (left.ratio.1 * right.ratio.2) (left.ratio.2 * right.ratio.1)

end Binary64
end ReleaseFeed.Decimal
