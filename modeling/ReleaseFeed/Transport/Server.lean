import ReleaseFeed.Text.Radix
import ReleaseFeed.Text.Split
import ReleaseFeed.Text.Utf8
import ReleaseFeed.Transport.HostName

namespace ReleaseFeed.Server

open Text (digit? number? splitOn)

/-- A port, which may be left empty. -/
def isPort (digits : List Char) : Bool := (number? 10 digits).any (· < 65536)

/-! ## Addresses -/

/-- A number of an address: hexadecimal behind `0x`, octal behind a zero, else decimal. -/
def addressNumber? : List Char → Option Nat
  | [] => none
  | '0' :: 'x' :: digits => number? 16 digits
  | '0' :: digit :: digits => number? 8 (digit :: digits)
  | digits => number? 10 digits

/-- The labels of a name; the dot at its end opens none. -/
def labels (name : List Char) : List (List Char) :=
  let pieces := splitOn '.' name
  if 1 < pieces.length && (pieces.getLastD []).isEmpty then pieces.dropLast else pieces

/-- Whether a name has to be an address, since it ends in a number. -/
def endsInNumber (name : List Char) : Bool :=
  let last := (labels name).getLastD []
  (addressNumber? last).isSome || (!last.isEmpty && last.all (fun c => '0' ≤ c && c ≤ '9'))

/-- An address of up to four numbers, the last of which fills the places of those left out. -/
def isDottedAddress (name : List Char) : Bool :=
  match (labels name).mapM addressNumber? with
  | none => false
  | some numbers =>
    numbers.length ≤ 4 && numbers.dropLast.all (· < 256) &&
      numbers.getLastD 0 < Nat.pow 256 (5 - numbers.length)

/-- A number of a dotted quad: decimal, below 256, and without a zero in front. -/
def isQuadNumber (digits : List Char) : Bool :=
  (digits == ['0'] || digits.head? != some '0') && !digits.isEmpty &&
    (number? 10 digits).any (· < 256)

/-- The 16-bit groups that a piece of an address in brackets stands for. -/
def groupsOf? (isLast : Bool) (piece : List Char) : Option Nat :=
  let quad := splitOn '.' piece
  if 1 ≤ piece.length && piece.length ≤ 4 && (number? 16 piece).isSome then some 1
  else if isLast && quad.length == 4 && quad.all isQuadNumber then some 2
  else none

/-- The groups of pieces between colons; the last piece may be a dotted quad if it `closes`. -/
def groups? (closes : Bool) (text : List Char) : Option Nat :=
  if text.isEmpty then some 0
  else
    let pieces := splitOn ':' text
    let counts := (pieces.dropLast.mapM (groupsOf? false))
    match counts, groupsOf? closes (pieces.getLastD []) with
    | some counts, some last => some (counts.foldl (· + ·) last)
    | _, _ => none

def aroundGap? : List Char → Option (List Char × List Char)
  | [] => none
  | ':' :: ':' :: rest => some ([], rest)
  | c :: rest => (aroundGap? rest).map (fun (left, right) => (c :: left, right))

/-- An address of eight groups; a double colon stands for one group of zeros or more. -/
def isBracketAddress (text : List Char) : Bool :=
  match aroundGap? text with
  | none => groups? true text == some 8
  | some (left, right) =>
    match groups? false left, groups? true right with
    | some before, some behind => before + behind < 8
    | _, _ => false

/-! ## Names -/

/-- The bytes of a text in which a percent sign and two digits stand for a byte. -/
def unescape : List Char → List UInt8
  | [] => []
  | '%' :: a :: b :: rest =>
    match digit? 16 a, digit? 16 b with
    | some high, some low => UInt8.ofNat (high * 16 + low) :: unescape rest
    | _, _ => 0x25 :: unescape (a :: b :: rest)
  | c :: rest => String.utf8EncodeChar c ++ unescape rest

/-- The name that a host is written for, in the form in which it counts. -/
def name? (host : List Char) : Option (List Char) :=
  (Text.Utf8.decode? (unescape host)).bind HostName.countedName?

/-- A host that is no address in brackets. -/
def isNamedHost (host : List Char) : Bool :=
  match name? host with
  | none => false
  | some name =>
    !name.isEmpty && HostName.isWellFormed name && (!endsInNumber name || isDottedAddress name)

/-! ## The whole part -/

/-- What stands behind the last `@`. -/
def withoutCredentials (part : List Char) : List Char :=
  (part.reverse.takeWhile (· != '@')).reverse

/-- Whether the server part of a URL is well formed. -/
def isWellFormed (part : List Char) : Bool :=
  match withoutCredentials part with
  | '[' :: rest =>
    isBracketAddress (rest.takeWhile (· != ']')) &&
      (match rest.dropWhile (· != ']') with
      | [']'] => true
      | ']' :: ':' :: port => isPort port
      | _ => false)
  | host =>
    isNamedHost (host.takeWhile (· != ':')) && isPort ((host.dropWhile (· != ':')).drop 1)

end ReleaseFeed.Server
