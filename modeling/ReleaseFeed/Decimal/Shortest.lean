import ReleaseFeed.Decimal.Binary64
/-!
The fewest decimal digits that read back as a given binary number, and among those the nearest.
For each count of digits only the two neighbours of the number on that decimal grid can lie in
the interval of reals that round to it.
-/
namespace ReleaseFeed.Decimal

/-- The decimal number `digits · 10 ^ exponent`. -/
structure Scaled where
  digits : Nat
  exponent : Int
deriving DecidableEq

namespace Scaled

def ratio (number : Scaled) : Nat × Nat :=
  if 0 ≤ number.exponent then (number.digits * Nat.pow 10 number.exponent.toNat, 1)
  else (number.digits, Nat.pow 10 (-number.exponent).toNat)

/-- Whether the number reads back as the binary one. -/
def readsAs (number : Scaled) (binary : Binary64) : Bool :=
  Binary64.ofRatio? number.ratio.1 number.ratio.2 == some binary

/-- Twice the distance of the number to the value of the binary one, over a common denominator
that is the same for all numbers of one exponent. -/
def distance (number : Scaled) (binary : Binary64) : Nat :=
  let left := number.ratio.1 * binary.ratio.2
  let right := binary.ratio.1 * number.ratio.2
  (left - right) + (right - left)

/-- The grid point at or below the binary number, in steps of `10 ^ exponent`. -/
def below (binary : Binary64) (exponent : Int) : Scaled :=
  let (top, bottom) := binary.ratio
  let digits :=
    if 0 ≤ exponent then top / (bottom * Nat.pow 10 exponent.toNat)
    else top * Nat.pow 10 (-exponent).toNat / bottom
  ⟨digits, exponent⟩

/-- Of two grid points that read back, the nearer one; a tie goes to the even one. -/
def nearer (binary : Binary64) (lower upper : Scaled) : Scaled :=
  let left := lower.distance binary
  let right := upper.distance binary
  if left < right || (left == right && lower.digits % 2 == 0) then lower else upper

/-- A grid point in steps of `10 ^ exponent` that reads back, if there is one. -/
def onGrid? (binary : Binary64) (exponent : Int) : Option Scaled :=
  let lower := below binary exponent
  let upper : Scaled := ⟨lower.digits + 1, exponent⟩
  match lower.readsAs binary, upper.readsAs binary with
  | true, true => some (nearer binary lower upper)
  | true, false => some lower
  | false, true => some upper
  | false, false => none

/-- The exponent of the leading decimal digit of a quotient that is not zero. -/
def magnitude (top bottom : Nat) : Int :=
  let guess : Int := ((Nat.toDigits 10 top).length : Int) - ((Nat.toDigits 10 bottom).length : Int)
  let reached := if 0 ≤ guess then bottom * Nat.pow 10 guess.toNat ≤ top
    else bottom ≤ top * Nat.pow 10 (-guess).toNat
  if reached then guess else guess - 1

/-- The first grid that holds a point that reads back, trying one digit more each time. -/
def search (binary : Binary64) (leading : Int) : Nat → Nat → Scaled
  | 0, count => below binary (leading - count)
  | fuel + 1, count =>
    (onGrid? binary (leading - count)).getD (search binary leading fuel (count + 1))

/-- The shortest decimal number that reads back; 17 digits are always enough. -/
def shortest (binary : Binary64) : Scaled :=
  if binary.isZero then ⟨0, 0⟩
  else search binary (magnitude binary.ratio.1 binary.ratio.2) 17 0

end Scaled
end ReleaseFeed.Decimal
