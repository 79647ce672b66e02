import ReleaseFeed.Time.Date

namespace ReleaseFeed.Time

/-- An instant in universal time. The second 60 is a leap second. -/
structure Instant where
  date : Date
  hour : Nat
  minute : Nat
  second : Nat
  nanosecond : Nat
deriving DecidableEq, Inhabited

/-- The fraction of a second: nothing for a whole second, else 3, 6 or 9 digits as needed. -/
def displayFraction (nanosecond : Nat) : List Char :=
  if nanosecond = 0 then []
  else if nanosecond % 1000000 = 0 then '.' :: zeroPadded 3 (nanosecond / 1000000)
  else if nanosecond % 1000 = 0 then '.' :: zeroPadded 6 (nanosecond / 1000)
  else '.' :: zeroPadded 9 nanosecond

/-- The time of day `HH:MM:SS[.fraction]`. -/
def Instant.displayTime (instant : Instant) : List Char :=
  zeroPadded 2 instant.hour ++ ':' :: zeroPadded 2 instant.minute ++
    ':' :: zeroPadded 2 instant.second ++ displayFraction instant.nanosecond

/-- The written form without a mark for universal time. -/
def Instant.displayBare (instant : Instant) : List Char :=
  instant.date.display ++ 'T' :: instant.displayTime

/-- The written form with the letter that marks universal time. -/
def Instant.display (instant : Instant) : List Char := instant.displayBare ++ ['Z']

/-- The written form with a zero offset. -/
def Instant.displayOffset (instant : Instant) : List Char :=
  instant.displayBare ++ ['+', '0', '0', ':', '0', '0']

/-- The instant shown by a local clock that is ahead of universal time by `offset` minutes, of
which the size is below one day. -/
def Instant.ofLocal (shown : Instant) (offset : Int) : Instant :=
  let minutes : Int := shown.hour * 60 + shown.minute - offset
  let date :=
    if minutes < 0 then shown.date.previous
    else if 1440 ≤ minutes then shown.date.next
    else shown.date
  let inDay := (minutes % 1440).toNat
  { shown with date, hour := inDay / 60, minute := inDay % 60 }

end ReleaseFeed.Time
