import ReleaseFeed.Decimal.Shortest

namespace ReleaseFeed.Decimal

/-- How numbers are written: the exponents of the leading digit that are shown positionally. -/
structure NumberStyle where
  least : Int
  greatest : Int

/-- Leading digits from `0.00001` to the sixteenth integer place are shown positionally. -/
def plainStyle : NumberStyle := ⟨-5, 15⟩

/-- The digits of a decimal number without trailing zeros, and the exponent of the first. -/
def leadingForm (number : Scaled) : List Char × Int :=
  let digits := Nat.toDigits 10 number.digits
  let kept := (digits.reverse.dropWhile (· == '0')).reverse
  (if kept.isEmpty then ['0'] else kept, number.exponent + digits.length - 1)

/-- Positional notation of digits whose first has the given exponent. -/
def positional (digits : List Char) (leading : Int) : List Char :=
  if leading < 0 then
    ['0', '.'] ++ List.replicate (-leading - 1).toNat '0' ++ digits
  else
    let whole := leading.toNat + 1
    let padded := digits ++ List.replicate (whole - digits.length) '0'
    let fraction := padded.drop whole
    padded.take whole ++ '.' :: (if fraction.isEmpty then ['0'] else fraction)

/-- Scientific notation, with a sign before the exponent. -/
def scientific (digits : List Char) (leading : Int) : List Char :=
  let tail := digits.drop 1
  digits.take 1 ++ (if tail.isEmpty then [] else '.' :: tail) ++
    ['e', if leading < 0 then '-' else '+'] ++ Nat.toDigits 10 leading.natAbs

/-- The written form of a number that is not negative. -/
def NumberStyle.write (style : NumberStyle) (number : Binary64) : List Char :=
  let (digits, leading) := leadingForm (Scaled.shortest number)
  if style.least ≤ leading && leading ≤ style.greatest then positional digits leading
  else scientific digits leading

end ReleaseFeed.Decimal
