namespace ReleaseFeed.Time

structure Date where
  year : Int
  month : Nat
  day : Nat
deriving DecidableEq, Inhabited

def isLeapYear (year : Int) : Bool := year % 4 == 0 && (year % 100 != 0 || year % 400 == 0)

def daysInMonth (year : Int) (month : Nat) : Nat :=
  if month = 2 then (if isLeapYear year then 29 else 28)
  else if month = 4 || month = 6 || month = 9 || month = 11 then 30
  else 31

def minYear : Int := -262143

def maxYear : Int := 262142

namespace Date

/-- Whether the date exists and lies in the supported years. -/
def isValid (date : Date) : Bool :=
  decide (minYear ≤ date.year) && decide (date.year ≤ maxYear) &&
    decide (1 ≤ date.month) && decide (date.month ≤ 12) &&
    decide (1 ≤ date.day) && decide (date.day ≤ daysInMonth date.year date.month)

def next (date : Date) : Date :=
  if date.day < daysInMonth date.year date.month then ⟨date.year, date.month, date.day + 1⟩
  else if date.month < 12 then ⟨date.year, date.month + 1, 1⟩
  else ⟨date.year + 1, 1, 1⟩

def previous (date : Date) : Date :=
  if 1 < date.day then ⟨date.year, date.month, date.day - 1⟩
  else if 1 < date.month then
    ⟨date.year, date.month - 1, daysInMonth date.year (date.month - 1)⟩
  else ⟨date.year - 1, 12, 31⟩

end Date

def zeroPadded (width value : Nat) : List Char :=
  let digits := Nat.toDigits 10 value
  List.replicate (width - digits.length) '0' ++ digits

/-- A year: four digits from 0 to 9999, otherwise a sign and at least four digits. -/
def displayYear (year : Int) : List Char :=
  if 0 ≤ year && year ≤ 9999 then zeroPadded 4 year.toNat
  else (if year < 0 then '-' else '+') :: zeroPadded 4 year.natAbs

/-- The written form `YYYY-MM-DD`. -/
def Date.display (date : Date) : List Char :=
  displayYear date.year ++ '-' :: zeroPadded 2 date.month ++ '-' :: zeroPadded 2 date.day

end ReleaseFeed.Time
