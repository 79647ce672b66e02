import ReleaseFeed.Json.Byte
import ReleaseFeed.Json.Fault
/-!
Reading numbers. Digits are gathered into a significand of 64 bits; digits that no longer fit are
dropped, and count only as places of an integer part. A number with a fraction, an exponent or
dropped digits is binary: its significand is rounded, then multiplied or divided by a rounded
power of ten.
-/
namespace ReleaseFeed.Json

open Decimal (Binary64)

def maxSignificand : Nat := UInt64.size - 1

/-- Gathers digits while the significand fits; returns it, how many digits it took, and the rest. -/
def gather (limit significand : Nat) : List UInt8 → Nat × Nat × List UInt8
  | [] => (significand, 0, [])
  | byte :: rest =>
    let extended := significand * 10 + digitValue byte
    if isDigit byte && extended ≤ limit then
      let (result, taken, left) := gather limit extended rest
      (result, taken + 1, left)
    else (significand, 0, byte :: rest)

def startsWithDigit (bytes : List UInt8) : Bool := bytes.head?.any isDigit

/-- The greatest exponent of ten that one rounded power covers. -/
def powerLimit : Nat := 308

def powerOfTen (exponent : Nat) : Binary64 := (Binary64.ofRatio? (Nat.pow 10 exponent) 1).getD .zero

/-- Divides by the greatest covered power until the exponent is covered or nothing is left. -/
def scaleDown (value : Binary64) : Nat → Nat → Binary64
  | 0, _ => value
  | steps + 1, exponent =>
    if exponent ≤ powerLimit then (value.div? (powerOfTen exponent)).getD .zero
    else if value.isZero then value
    else scaleDown ((value.div? (powerOfTen powerLimit)).getD .zero) steps (exponent - powerLimit)

/-- The value `significand · 10 ^ exponent`; `none` if it is too large. -/
def compose? (significand : Nat) (exponent : Int) : Option Binary64 :=
  let value := (Binary64.ofRatio? significand 1).getD .zero
  if exponent < 0 then
    some (scaleDown value (exponent.natAbs / powerLimit + 1) exponent.natAbs)
  else if exponent.natAbs ≤ powerLimit then value.mul? (powerOfTen exponent.natAbs)
  else if value.isZero then some value
  else none

/-- A binary number from its parts, at the place behind its digits. -/
def finishReal (isNegative : Bool) (significand : Nat) (exponent : Int) : Reader Number :=
  fun rest =>
    match compose? significand exponent with
    | some value => .ok (.real isNegative value, rest)
    | none => .error (.here .numberOutOfRange rest)

/-- The exponent behind its mark. An exponent beyond 32 bits leaves zero or nothing finite. -/
def readExponent (isNegative : Bool) (significand : Nat) (shift : Int) : Reader Number :=
  fun rest =>
    let (isDown, rest) := match rest with
      | plus :: rest => (false, rest)
      | minus :: rest => (true, rest)
      | rest => (false, rest)
    match rest with
    | [] => .error (.here .endInValue rest)
    | first :: behind =>
      if !isDigit first then .error (.here .invalidNumber behind)
      else
        let (exponent, _, rest) := gather 0x7FFFFFFF 0 rest
        if startsWithDigit rest then
          if significand != 0 && !isDown then .error (.here .numberOutOfRange rest.tail)
          else .ok (.real isNegative .zero, rest.dropWhile isDigit)
        else
          finishReal isNegative significand (if isDown then shift - exponent else shift + exponent)
            rest

/-- What follows the digits of a binary number: an exponent or nothing. -/
def readScale (isNegative : Bool) (significand : Nat) (shift : Int) : Reader Number :=
  fun rest =>
    match rest with
    | byte :: behind =>
      if isExponentMark byte then readExponent isNegative significand shift behind
      else finishReal isNegative significand shift rest
    | [] => finishReal isNegative significand shift rest

def readFraction (isNegative : Bool) (significand : Nat) (shift : Int) : Reader Number :=
  fun rest =>
    let (significand, taken, left) := gather maxSignificand significand rest
    if startsWithDigit left then
      readScale isNegative significand (shift - taken) (left.dropWhile isDigit)
    else if taken = 0 then
      .error (if left.isEmpty then .here .endInValue left else .atNext .invalidNumber left)
    else readScale isNegative significand (shift - taken) left

/-- An integer without fraction and exponent; a negative one beyond 64 bits, and negative zero,
are binary. -/
def integerOf (isNegative : Bool) (significand : Nat) : Number :=
  if !isNegative then .natural significand
  else if significand = 0 || Nat.pow 2 63 < significand then
    .real true ((Binary64.ofRatio? significand 1).getD .zero)
  else .negative significand

def readTail (isNegative : Bool) (significand dropped : Nat) : Reader Number :=
  fun rest =>
    match rest with
    | point :: behind => readFraction isNegative significand dropped behind
    | byte :: behind =>
      if isExponentMark byte then readExponent isNegative significand dropped behind
      else plain rest
    | [] => plain rest
where
  /-- The integer part alone. -/
  plain : Reader Number := fun rest =>
    if dropped = 0 then .ok (integerOf isNegative significand, rest)
    else finishReal isNegative significand dropped rest

def readNumber (isNegative : Bool) : Reader Number := fun rest =>
  match rest with
  | [] => .error (.here .endInValue rest)
  | zeroDigit :: behind =>
    if startsWithDigit behind then .error (.atNext .invalidNumber behind)
    else readTail isNegative 0 0 behind
  | first :: behind =>
    if !isDigit first then .error (.here .invalidNumber behind)
    else
      let (significand, _, left) := gather maxSignificand 0 rest
      readTail isNegative significand (left.takeWhile isDigit).length (left.dropWhile isDigit)

end ReleaseFeed.Json
