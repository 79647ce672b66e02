import ReleaseFeed.Text.Split
import ReleaseFeed.Transport.Endpoint
import ReleaseFeed.Transport.Server
/-!
What a request asks a server for: the path and the query of a URL. Segments that stand for the
directory itself or the one above are resolved, and characters that may not stand in a request are
written as their bytes in hexadecimal. A URL whose server is malformed asks for nothing.
-/
namespace ReleaseFeed

namespace RequestTarget

/-- Characters that are written as their bytes wherever they stand. -/
def isAlwaysEscaped (c : Char) : Bool :=
  c.toNat ≤ 0x20 || 0x7F ≤ c.toNat || c == '"' || c == '#' || c == '<' || c == '>'

/-- Characters that are written as their bytes in a path. -/
def isEscapedInPath (c : Char) : Bool :=
  isAlwaysEscaped c || c == '?' || c == '\x60' || c == '\x7b' || c == '\x7d'

/-- Characters that are written as their bytes in a query. -/
def isEscapedInQuery (c : Char) : Bool := isAlwaysEscaped c || c == '\x27'

/-- Characters that are written as their bytes in a fragment. -/
def isEscapedInFragment (c : Char) : Bool := (isAlwaysEscaped c && c != '#') || c == '\x60'

def hexDigit (value : Nat) : Char := (Nat.digitChar value).toUpper

def escapeByte (byte : UInt8) : List Char :=
  ['%', hexDigit (byte.toNat / 16), hexDigit (byte.toNat % 16)]

/-- A text in which certain characters are written as their bytes. -/
def escape (isEscaped : Char → Bool) (text : List Char) : List Char :=
  text.flatMap fun c =>
    if isEscaped c then (String.utf8EncodeChar c).flatMap escapeByte else [c]

/-- The number of dots that a segment consists of, if it consists of nothing else. A dot may be
written as its byte. -/
def dots? : List Char → Option Nat
  | [] => some 0
  | '.' :: rest => (dots? rest).map (· + 1)
  | '%' :: '2' :: 'e' :: rest => (dots? rest).map (· + 1)
  | '%' :: '2' :: 'E' :: rest => (dots? rest).map (· + 1)
  | _ => none

/-- A segment that names a drive: a letter and a colon or a bar. -/
def isDrive : List Char → Bool
  | [letter, mark] => letter.isAlpha && (mark == ':' || mark == '|')
  | _ => false

/-- The directory above the last of the segments, which are in reverse order; above a drive there
is none. -/
def climb : List (List Char) → List (List Char)
  | [] => []
  | last :: above => if isDrive last then last :: above else above

/-- Segments behind those of `above`, which are in reverse order, with dots resolved. -/
def resolveDots (above : List (List Char)) : List (List Char) → List (List Char)
  | [] => above.reverse
  | segment :: rest =>
    let left := match dots? segment with
      | some 1 => if rest.isEmpty then [] :: above else above
      | some 2 => if rest.isEmpty then [] :: climb above else climb above
      | _ => segment :: above
    resolveDots left rest

def isSlash (c : Char) : Bool := c == '/' || c == '\\'

def endsServer (c : Char) : Bool := isSlash c || c == '?' || c == '#'

/-- Whether a character counts for nothing at the ends of a URL. -/
def isPadding (c : Char) : Bool := c.toNat ≤ 0x20

/-- Whether a character counts for nothing anywhere in a URL. -/
def isIgnored (c : Char) : Bool := c == '\t' || c == '\n' || c == '\r'

/-- The segments of a path; an empty path has one that is empty. -/
def segments (path : List Char) : List (List Char) :=
  match Text.splitBy isSlash path with
  | _ :: first :: rest => first :: rest
  | _ => [[]]

/-- The bytes that a URL can have at most, its fragment included. -/
def maxUrl : Nat := 65534

/-- The target of a request for a URL, given as its scheme and what is behind the two slashes. Any
further slashes ahead of the server count for nothing. -/
def ofLocation? (scheme location : List Char) : Option (List Char) :=
  let trimmed := (location.reverse.dropWhile isPadding).reverse
  let cleaned := (trimmed.filter fun c => !isIgnored c).dropWhile isSlash
  let server := cleaned.takeWhile fun c => !endsServer c
  let place := cleaned.dropWhile fun c => !endsServer c
  let asked := place.takeWhile (· != '#')
  let path := resolveDots [] (segments (asked.takeWhile (· != '?')))
  let target := path.flatMap (fun segment => '/' :: escape isEscapedInPath segment) ++
    (match asked.dropWhile (· != '?') with
    | mark :: query => mark :: escape isEscapedInQuery query
    | [] => [])
  let fragment := escape isEscapedInFragment (place.dropWhile (· != '#'))
  let length := scheme.length + Endpoint.schemeMark.length +
    (Server.withoutCredentials server).length + target.length + fragment.length
  if Server.isWellFormed server && length ≤ maxUrl then some target else none

end RequestTarget

def Endpoint.requestLine? (endpoint : Endpoint) : Option (List Char) := do
  let scheme ← endpoint.scheme?
  let location := endpoint.text.toList.drop (scheme.length + schemeMark.length)
  let target ← RequestTarget.ofLocation? scheme location
  return "GET ".toList ++ target ++ " HTTP/1.1".toList

end ReleaseFeed
