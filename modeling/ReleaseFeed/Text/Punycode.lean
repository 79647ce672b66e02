/-!
Names in Punycode, which writes any text in ASCII letters, digits and hyphens: the ASCII characters
first, and behind the last hyphen where the others stand among them.
-/
namespace ReleaseFeed.Text.Punycode

/-- The value of a digit: letters come before the ten digits. -/
def digit? (c : Char) : Option Nat :=
  if 'a' ≤ c ∧ c ≤ 'z' then some (c.toNat - 0x61)
  else if '0' ≤ c ∧ c ≤ '9' then some (c.toNat - 0x30 + 26)
  else none

/-- The least digit that goes on to another one, at a place that counts in steps of 36. -/
def threshold (bias place : Nat) : Nat := min 26 (max 1 (place - bias))

/-- The bias that goes with a distance that was scaled down, after `steps` divisions. -/
def settle (distance steps : Nat) : Nat :=
  if 455 < distance then settle (distance / 35) (steps + 1)
  else 36 * steps + 36 * distance / (distance + 38)
termination_by distance
decreasing_by exact Nat.div_lt_self (by omega) (by omega)

/-- The bias behind a distance that was read for the last of `count` characters. -/
def adapt (distance count : Nat) (isFirst : Bool) : Nat :=
  let scaled := if isFirst then distance / 700 else distance / 2
  settle (scaled + scaled / count) 0

def readDistance? (bias : Nat) : (place weight distance : Nat) → List Char →
    Option (Nat × List Char)
  | _, _, _, [] => none
  | place, weight, distance, c :: rest =>
    match digit? c with
    | none => none
    | some value =>
      let distance := distance + value * weight
      let least := threshold bias place
      if value < least then some (distance, rest)
      else readDistance? bias (place + 36) (weight * (36 - least)) distance rest

/-- Puts one character after the other among those that are there. Every round reads at least one
digit, so the fuel never runs out when it is the number of digits. -/
def insertAll? : Nat → (bias code place : Nat) → (text digits : List Char) → Option (List Char)
  | _, _, _, _, text, [] => some text
  | 0, _, _, _, _, _ => none
  | fuel + 1, bias, code, place, text, digits =>
    match readDistance? bias 36 1 0 digits with
    | none => none
    | some (distance, rest) =>
      let count := text.length + 1
      let code := code + (place + distance) / count
      let place := (place + distance) % count
      if code < 0xD800 ∨ (0xDFFF < code ∧ code < 0x110000) then
        insertAll? fuel (adapt distance count (text.all (·.toNat < 0x80))) code (place + 1)
          (text.insertIdx place (Char.ofNat code)) rest
      else none

/-- The text that a name in Punycode stands for. No hyphen parts it where no ASCII characters stand
ahead. -/
def decode? (name : List Char) : Option (List Char) :=
  let digits := (name.reverse.takeWhile (· != '-')).reverse
  let plain := name.take (name.length - digits.length - 1)
  if plain.isEmpty && digits.length < name.length then none
  else insertAll? digits.length 72 0x80 0 plain digits

end ReleaseFeed.Text.Punycode
