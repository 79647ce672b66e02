import ReleaseFeed.Text.Blank
import ReleaseFeed.Time.Instant
/-!
Reading instants. The form is that of RFC 3339, read leniently: numbers may be short, blanks may
stand before numbers and separators, the year may be signed and long, the date and the time may be
separated by a space, and the offset may be spelled `UTC`.
-/
namespace ReleaseFeed.Time

/-- Why a text is no instant. -/
inductive ParseError where
  | tooShort
  | invalid
  | outOfRange
  | tooLong
  | impossible
deriving DecidableEq

def ParseError.message : ParseError → String
  | .tooShort => "premature end of input"
  | .invalid => "input contains invalid characters"
  | .outOfRange => "input is out of range"
  | .tooLong => "trailing input"
  | .impossible => "no possible date and time matching input"

/-- A parser takes a value off the front of a text and leaves the rest. -/
abbrev Parser (α : Type) := List Char → Except ParseError (α × List Char)

/-- The greatest number that is read at all. -/
def maxNumber : Nat := 0x7FFFFFFFFFFFFFFF

/-- A run of digits, at most `limit` of them. -/
def number (limit : Option Nat) : Parser Nat := fun text =>
  let window := match limit with
    | some count => text.take count
    | none => text
  let digits := window.takeWhile Char.isDigit
  let value := Nat.ofDigitChars 10 digits 0
  match text with
  | [] => .error .tooShort
  | _ =>
    if digits.isEmpty then .error .invalid
    else if maxNumber < value then .error .outOfRange
    else .ok (value, text.drop digits.length)

/-- A number between two bounds behind blanks. -/
def bounded (low high : Nat) : Parser Nat := fun text => do
  let (value, rest) ← number (some 2) (Text.trimStart text)
  if low ≤ value && value ≤ high then return (value, rest) else throw .outOfRange

def separator (c : Char) (text : List Char) : Except ParseError (List Char) :=
  match Text.trimStart text with
  | [] => .error .tooShort
  | first :: rest => if first = c then .ok rest else .error .invalid

/-- The year: four digits, or a sign and any number of digits. -/
def year : Parser Int := fun text => do
  let (value, rest) ← match Text.trimStart text with
    | '-' :: rest => do
      let (value, rest) ← number none rest
      pure (-(value : Int), rest)
    | '+' :: rest => do
      let (value, rest) ← number none rest
      pure ((value : Int), rest)
    | rest => do
      let (value, rest) ← number (some 4) rest
      pure ((value : Int), rest)
  if -0x80000000 ≤ value && value < 0x80000000 then return (value, rest) else throw .outOfRange

def date : Parser Date := fun text => do
  let (year, rest) ← year text
  let rest ← separator '-' rest
  let (month, rest) ← bounded 1 12 rest
  let rest ← separator '-' rest
  let (day, rest) ← bounded 1 31 rest
  return (⟨year, month, day⟩, rest)

def timeMark (text : List Char) : Except ParseError (List Char) :=
  match text with
  | [] => .error .tooShort
  | first :: rest =>
    if first = 'T' || first = 't' || first = ' ' then .ok rest else .error .invalid

/-- The fraction of a second; digits beyond nanoseconds are dropped. -/
def fraction : Parser Nat := fun text =>
  match text with
  | '.' :: rest => do
    let (value, left) ← number (some 9) rest
    let taken := rest.length - left.length
    return (value * Nat.pow 10 (9 - taken), left.dropWhile Char.isDigit)
  | _ => .ok (0, text)

/-- Whether a text starts with the letters `UTC`, in capitals or not. -/
def startsWithUtc (text : List Char) : Bool :=
  (text.take 3).map Char.toLower == ['u', 't', 'c']

/-- Two characters of which the first two bytes are examined; a text of one byte is too short. -/
def digitPair (text : List Char) : Except ParseError (Char × Char) :=
  match text with
  | first :: second :: _ => .ok (first, second)
  | [first] => .error (if first.utf8Size = 1 then .tooShort else .invalid)
  | [] => .error .tooShort

def offsetHours : Parser Nat := fun text => do
  let (tens, ones) ← digitPair text
  if tens.isDigit && ones.isDigit then
    return (Nat.ofDigitChars 10 [tens, ones] 0, text.drop 2)
  else throw .invalid

/-- The minutes of an offset, behind any colons and blanks. -/
def offsetMinutes : Parser Nat := fun text => do
  let text := text.dropWhile (fun c => c = ':' || Text.isBlank c)
  let (tens, ones) ← digitPair text
  if !(tens.isDigit && ones.isDigit) then throw .invalid
  let value := Nat.ofDigitChars 10 [tens, ones] 0
  if value < 60 then return (value, text.drop 2) else throw .outOfRange

/-- The offset of local time from universal time, in minutes. -/
def offset : Parser Int := fun text =>
  if startsWithUtc text then .ok (0, text.drop 3)
  else
    match text with
    | [] => .error .tooShort
    | first :: rest =>
      if first = 'Z' || first = 'z' then .ok (0, rest)
      else if first = '+' || first = '-' || first = Char.ofNat 0x2212 then do
        let (hours, rest) ← offsetHours rest
        let (minutes, rest) ← offsetMinutes rest
        let size : Int := hours * 60 + minutes
        return (if first = '+' then size else -size, rest)
      else .error .invalid

/-- A date and a time of day as a local clock shows them. -/
def shown : Parser Instant := fun text => do
  let (date, rest) ← date text
  let rest ← timeMark rest
  let (hour, rest) ← bounded 0 23 rest
  let rest ← separator ':' rest
  let (minute, rest) ← bounded 0 59 rest
  let rest ← separator ':' rest
  let (second, rest) ← bounded 0 60 rest
  let (nanosecond, rest) ← fraction rest
  return (⟨date, hour, minute, second, nanosecond⟩, rest)

def Instant.parse (text : List Char) : Except ParseError Instant := do
  let (shown, rest) ← shown text
  let (offset, rest) ← offset (Text.trimStart rest)
  if !(Text.trimStart rest).isEmpty then throw .tooLong
  if !shown.date.isValid then throw .outOfRange
  if offset ≤ -1440 || 1440 ≤ offset then throw .outOfRange
  let instant := shown.ofLocal offset
  if !instant.date.isValid then throw .impossible
  return instant

end ReleaseFeed.Time
