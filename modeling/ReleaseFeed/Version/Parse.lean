import ReleaseFeed.Text.Blank
import ReleaseFeed.Version.Basic
/-!
Reading release numbers. The full form has exactly three components without leading zeros. Any
other text is tried as a short form: one to three components, which are completed with zeros,
written out again and read as a full form.
-/
namespace ReleaseFeed
namespace VersionNumber

inductive ParseError where
  | empty
  | invalidFormat (input : String)
deriving DecidableEq

def ParseError.message : ParseError → String
  | .empty => "Version string is empty"
  | .invalidFormat input => "Expected MAJOR[.MINOR[.PATCH]][-PRE][+BUILD], got: " ++ input

/-- Digits whose value fits 64 bits; leading zeros count for nothing. -/
def readComponent (text : List Char) : Option UInt64 :=
  let value := Nat.ofDigitChars 10 text 0
  if !text.isEmpty && text.all Char.isDigit && value < UInt64.size then some (.ofNat value)
  else none

/-- A run of digits that starts with zero although it has more digits. -/
def hasLeadingZero (text : List Char) : Bool := text.head? == some '0' && text.length != 1

/-- A component of the full form, which has no leading zero. -/
def readStrictComponent (text : List Char) : Option UInt64 :=
  if hasLeadingZero text then none else readComponent text

/-- A character of an identifier: an ASCII letter, an ASCII digit or a hyphen. -/
def isIdentifierChar (c : Char) : Bool := c.isAlphanum || c == '-'

/-- An identifier has at least one character and only characters of its own alphabet. -/
def isIdentifier (text : List Char) : Bool := !text.isEmpty && text.all isIdentifierChar

/-- A pre-release identifier, which has no leading zero when it is a number. -/
def isPreIdentifier (text : List Char) : Bool :=
  isIdentifier text && !(text.all Char.isDigit && hasLeadingZero text)

/-- Dot-separated identifiers, all of which satisfy `accepts`. -/
def readIdentifiers (accepts : List Char → Bool) (text : List Char) : Option (List Identifier) :=
  let identifiers := Text.splitOn '.' text
  if identifiers.all accepts then some identifiers else none

/-- The build metadata that may end a release number. -/
def readBuild : List Char → Option (List Identifier)
  | [] => some []
  | '+' :: rest => readIdentifiers isIdentifier rest
  | _ => none

/-- What follows the components: a pre-release, build metadata, both in this order, or nothing. -/
def readSuffix : List Char → Option (List Identifier × List Identifier)
  | '-' :: rest => do
    let pre ← readIdentifiers isPreIdentifier (rest.takeWhile (· != '+'))
    let build ← readBuild (rest.dropWhile (· != '+'))
    return (pre, build)
  | suffix => do
    let build ← readBuild suffix
    return ([], build)

/-- Whether a character starts the suffix of a release number. -/
def startsSuffix (c : Char) : Bool := c == '-' || c == '+'

/-- The part of a release number before its first hyphen or plus sign. -/
def coreOf (text : List Char) : List Char := text.takeWhile (fun c => !startsSuffix c)

/-- The part of a release number from its first hyphen or plus sign on. -/
def suffixOf (text : List Char) : List Char := text.dropWhile (fun c => !startsSuffix c)

def parseFull (text : List Char) : Option VersionNumber :=
  match Text.splitOn '.' (coreOf text) with
  | [major, minor, patch] => do
    let major ← readStrictComponent major
    let minor ← readStrictComponent minor
    let patch ← readStrictComponent patch
    let (pre, build) ← readSuffix (suffixOf text)
    return { major, minor, patch, pre, build }
  | _ => none

/-- The full form of a text with one to three components; missing ones become zero. -/
def completeShort (text : List Char) : Option (List Char) := do
  let components ← (Text.splitOn '.' (coreOf text)).mapM readComponent
  match components with
  | [major] => return written major 0 0
  | [major, minor] => return written major minor 0
  | [major, minor, patch] => return written major minor patch
  | _ => none
where
  /-- The components in full form, followed by the suffix as it stands. -/
  written (major minor patch : UInt64) : List Char :=
    (ofComponents major minor patch).display ++ suffixOf text

/-- Reads the short form through the full form that it stands for. -/
def parseShort (text : List Char) : Option VersionNumber :=
  (completeShort text).bind parseFull

/-- Reads either form, the full one first. -/
def parseEither (text : List Char) : Option VersionNumber :=
  (parseFull text).or (parseShort text)

/-- A text without the single letter `v` that may stand before a release number. -/
def dropMark : List Char → List Char
  | 'v' :: rest => rest
  | text => text

/-- Reads a release number; blanks around it and one leading `v` are ignored. -/
def parse (input : String) : Except ParseError VersionNumber :=
  let text := dropMark (Text.trim input.toList)
  if text.isEmpty then .error .empty
  else
    match parseEither text with
    | some number => .ok number
    | none => .error (.invalidFormat input)

end VersionNumber
end ReleaseFeed
