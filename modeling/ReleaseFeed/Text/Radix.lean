namespace ReleaseFeed.Text

/-- The value of a digit or letter, before any radix is considered. -/
def digitRank? (c : Char) : Option Nat :=
  if '0' ≤ c ∧ c ≤ '9' then some (c.toNat - 0x30)
  else if 'a' ≤ c ∧ c ≤ 'z' then some (c.toNat - 0x57)
  else if 'A' ≤ c ∧ c ≤ 'Z' then some (c.toNat - 0x37)
  else none

def digit? (radix : Nat) (c : Char) : Option Nat := (digitRank? c).filter (· < radix)

/-- The number that digits write in a radix; no digits write zero. -/
def number? (radix : Nat) (digits : List Char) : Option Nat :=
  (digits.mapM (digit? radix)).map (fun values =>
    values.foldl (fun number value => number * radix + value) 0)

end ReleaseFeed.Text
