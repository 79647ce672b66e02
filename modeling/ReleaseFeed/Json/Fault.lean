import ReleaseFeed.Decimal.Text
import ReleaseFeed.Text.Quoted
/-!
Why a document is refused, and where. A place is kept as the number of bytes that were still left,
from which line and column follow once the whole document is known.
-/
namespace ReleaseFeed.Json

/-- A number as it stands in a document: an integer of 64 bits, or else a binary fraction. -/
inductive Number where
  | natural (value : Nat)
  | negative (value : Nat)
  | real (isNegative : Bool) (value : Decimal.Binary64)
deriving DecidableEq

/-- A value of a kind that the reader did not expect. -/
inductive Found where
  | null
  | boolean (value : Bool)
  | number (value : Number)
  | string (text : List Char)
  | array
  | object
deriving DecidableEq

inductive Cause where
  | endInArray
  | endInObject
  | endInString
  | endInValue
  | expectedColon
  | expectedArrayCommaOrEnd
  | expectedObjectCommaOrEnd
  | expectedWord
  | expectedValue
  | invalidEscape
  | invalidNumber
  | numberOutOfRange
  | invalidCodePoint
  | controlCharacter
  | keyMustBeString
  | loneSurrogate
  | trailingComma
  | trailingCharacters
  | endOfHexEscape
  /-- A value of another kind than the expected one. -/
  | wrongKind (found : Found) (expected : String)
  /-- An integer outside the expected type. -/
  | wrongInteger (value : Int) (expected : String)
  /-- An array with too few elements for the record that it stands for. -/
  | tooFewElements (count : Nat) (expected : String)
  | missingMember (name : String)
  | repeatedMember (name : String)
  /-- A refusal by the type of a member, in its own words. -/
  | rejected (reason : String)
deriving DecidableEq

/-- The digits of a number, as they are shown in a refusal. -/
def Number.display : Number → List Char
  | .natural value => Nat.toDigits 10 value
  | .negative value => '-' :: Nat.toDigits 10 value
  | .real isNegative value =>
    (if isNegative then ['-'] else []) ++ Decimal.plainStyle.write value

def Found.describe : Found → String
  | .null => "null"
  | .boolean value => "boolean `" ++ (if value then "true" else "false") ++ "`"
  | .number (.real isNegative value) =>
    "floating point `" ++ String.ofList (Number.real isNegative value).display ++ "`"
  | .number value => "integer `" ++ String.ofList value.display ++ "`"
  | .string text => "string " ++ String.ofList (Text.quoted text)
  | .array => "sequence"
  | .object => "map"

/-- The wording of a cause, without its place. -/
def Cause.message : Cause → String
  | endInArray => "EOF while parsing a list"
  | endInObject => "EOF while parsing an object"
  | endInString => "EOF while parsing a string"
  | endInValue => "EOF while parsing a value"
  | expectedColon => "expected `:`"
  | expectedArrayCommaOrEnd => "expected `,` or `]`"
  | expectedObjectCommaOrEnd => "expected `,` or `\x7d`"
  | expectedWord => "expected ident"
  | expectedValue => "expected value"
  | invalidEscape => "invalid escape"
  | invalidNumber => "invalid number"
  | numberOutOfRange => "number out of range"
  | invalidCodePoint => "invalid unicode code point"
  | controlCharacter => "control character (\\u0000-\\u001F) found while parsing a string"
  | keyMustBeString => "key must be a string"
  | loneSurrogate => "lone leading surrogate in hex escape"
  | trailingComma => "trailing comma"
  | trailingCharacters => "trailing characters"
  | endOfHexEscape => "unexpected end of hex escape"
  | wrongKind found expected => "invalid type: " ++ found.describe ++ ", expected " ++ expected
  | wrongInteger value expected =>
    "invalid value: integer `" ++ toString value ++ "`, expected " ++ expected
  | tooFewElements count expected =>
    "invalid length " ++ toString count ++ ", expected " ++ expected
  | missingMember name => "missing field `" ++ name ++ "`"
  | repeatedMember name => "duplicate field `" ++ name ++ "`"
  | rejected reason => reason

/-- A cause and the number of bytes behind the place that it is reported at. -/
structure Fault where
  cause : Cause
  remaining : Nat
deriving DecidableEq

def Fault.here (cause : Cause) (rest : List UInt8) : Fault := ⟨cause, rest.length⟩

/-- A fault at the next byte, which counts as read. -/
def Fault.atNext (cause : Cause) (rest : List UInt8) : Fault := ⟨cause, rest.length - 1⟩

/-- A place in a document: the line from one, and the bytes of that line up to the place. -/
structure Place where
  line : Nat
  column : Nat
deriving DecidableEq

def Place.behind (bytes : List UInt8) : Place :=
  ⟨bytes.count 0x0A + 1, (bytes.reverse.takeWhile (· != 0x0A)).length⟩

def Fault.place (fault : Fault) (document : List UInt8) : Place :=
  .behind (document.take (document.length - fault.remaining))

/-- A cause together with its place. -/
def Cause.messageAt (cause : Cause) (place : Place) : String :=
  cause.message ++ " at line " ++ toString place.line ++ " column " ++ toString place.column

/-- A reader takes a value off the front of the bytes and leaves the rest. -/
abbrev Reader (α : Type) := List UInt8 → Except Fault (α × List UInt8)

end ReleaseFeed.Json
