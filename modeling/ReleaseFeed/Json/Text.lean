import ReleaseFeed.Json.Byte
import ReleaseFeed.Json.Fault
import ReleaseFeed.Text.Utf8

namespace ReleaseFeed.Json

/-- A byte that ends a plain piece of a string. -/
def endsPiece (byte : UInt8) : Bool := byte == quote || byte == backslash || isControl byte

def hexQuad? (digits : List UInt8) : Option Nat :=
  (digits.mapM hexValue?).map (fun values => values.foldl (fun value digit => value * 16 + digit) 0)

def readHexQuad : Reader Nat := fun bytes =>
  match bytes with
  | a :: b :: c :: d :: rest =>
    match hexQuad? [a, b, c, d] with
    | some value => .ok (value, rest)
    | none => .error (.here .invalidEscape rest)
  | _ => .error (.here .endInString [])

/-- A code unit that opens a surrogate pair. -/
def isLeadingUnit (unit : Nat) : Bool := 0xD800 ≤ unit && unit ≤ 0xDBFF

/-- A code unit that closes a surrogate pair. -/
def isTrailingUnit (unit : Nat) : Bool := 0xDC00 ≤ unit && unit ≤ 0xDFFF

def pairChar (leading trailing : Nat) : Char :=
  Char.ofNat ((leading - 0xD800) * 1024 + (trailing - 0xDC00) + 0x10000)

/-- One particular byte of the escape that closes a surrogate pair. -/
def expectPairByte (expected : UInt8) (bytes : List UInt8) : Except Fault (List UInt8) :=
  match bytes with
  | [] => .error (.here .endInString [])
  | byte :: rest => if byte == expected then .ok rest else .error (.here .endOfHexEscape rest)

/-- The escape that has to follow a leading unit. -/
def readTrailing (leading : Nat) : Reader Char := fun bytes => do
  let rest ← expectPairByte backslash bytes
  let rest ← expectPairByte letterU rest
  let (unit, rest) ← readHexQuad rest
  if isTrailingUnit unit then .ok (pairChar leading unit, rest)
  else .error (.here .loneSurrogate rest)

/-- An escape by code unit, behind its letter. -/
def readUnicodeEscape : Reader Char := fun bytes => do
  let (unit, rest) ← readHexQuad bytes
  if isTrailingUnit unit then .error (.here .loneSurrogate rest)
  else if isLeadingUnit unit then readTrailing unit rest
  else .ok (Char.ofNat unit, rest)

/-- The character of an escape by one letter. -/
def shortEscape? (letter : UInt8) : Option Char :=
  match letter with
  | 0x22 => some '"'
  | 0x5C => some '\\'
  | 0x2F => some '/'
  | 0x62 => some '\x08'
  | 0x66 => some '\x0C'
  | 0x6E => some '\n'
  | 0x72 => some '\r'
  | 0x74 => some '\t'
  | _ => none

def readEscape : Reader Char := fun bytes =>
  match bytes with
  | [] => .error (.here .endInString [])
  | letter :: rest =>
    if letter == letterU then readUnicodeEscape rest
    else
      match shortEscape? letter with
      | some c => .ok (c, rest)
      | none => .error (.here .invalidEscape rest)

/-- The bytes of the pieces and escapes of a string up to its closing quote. Every round but the
last takes an escape, so the fuel never runs out when it is the number of bytes. -/
def readPieces : Nat → Reader (List UInt8)
  | 0, bytes => .error (.here .endInString bytes)
  | fuel + 1, bytes =>
    let piece := bytes.takeWhile (fun byte => !endsPiece byte)
    match bytes.dropWhile (fun byte => !endsPiece byte) with
    | [] => .error (.here .endInString [])
    | stop :: rest =>
      if isControl stop then .error (.here .controlCharacter rest)
      else if stop == quote then .ok (piece, rest)
      else do
        let (c, rest) ← readEscape rest
        let (more, rest) ← readPieces fuel rest
        return (piece ++ String.utf8EncodeChar c ++ more, rest)

/-- The text of a string's bytes, in front of `rest`. A fault stands as many bytes ahead of `rest`
as the bytes have from their first malformed one on, an escape counting with the bytes it stands
for. -/
def decodeContent (content rest : List UInt8) : Except Fault (List Char) :=
  match Text.Utf8.decode? content with
  | some text => .ok text
  | none =>
    .error ⟨.invalidCodePoint, rest.length + (content.length - Text.Utf8.validLength content)⟩

/-- A string behind its opening quote. It is read to its end before its bytes are taken for text,
so a malformed escape is found ahead of a malformed byte. -/
def readString : Reader (List Char) := fun bytes => do
  let (content, rest) ← readPieces (bytes.length + 1) bytes
  let text ← decodeContent content rest
  return (text, rest)

def skipEscape (bytes : List UInt8) : Except Fault (List UInt8) :=
  match bytes with
  | [] => .error (.here .endInString [])
  | letter :: rest =>
    if letter == letterU then (readHexQuad rest).map (·.2)
    else if (shortEscape? letter).isSome then .ok rest
    else .error (.here .invalidEscape rest)

def skipPieces : Nat → List UInt8 → Except Fault (List UInt8)
  | 0, bytes => .error (.here .endInString bytes)
  | fuel + 1, bytes =>
    match bytes.dropWhile (fun byte => !endsPiece byte) with
    | [] => .error (.here .endInString [])
    | stop :: rest =>
      if isControl stop then .error (.here .controlCharacter (stop :: rest))
      else if stop == quote then .ok rest
      else do
        let rest ← skipEscape rest
        skipPieces fuel rest

def skipString (bytes : List UInt8) : Except Fault (List UInt8) :=
  skipPieces (bytes.length + 1) bytes

end ReleaseFeed.Json
