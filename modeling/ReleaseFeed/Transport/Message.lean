import ReleaseFeed.Text.Radix
import ReleaseFeed.Text.Split
/-!
Answers of a server as they are sent. The head of an answer is a status line and lines of fields up
to an empty line; behind it comes the body, and the head says where the body ends.
-/
namespace ReleaseFeed.Http

/-- A field of a head: its name in small letters and its value. -/
structure Field where
  name : List Char
  value : List Char
deriving DecidableEq

/-- What stands in front of a body, in version 1.0 or 1.1 of the protocol. -/
structure Head where
  minorVersion : Nat
  status : Nat
  fields : List Field
deriving DecidableEq

/-- An answer; there is no body if only a part of it arrived. -/
structure Answer where
  status : Nat
  body : Option (List UInt8)
deriving DecidableEq

/-- Whether an answer with a status is followed by another one to the same request. -/
def isInterim (status : Nat) : Bool := 100 ≤ status && status < 200 && status ≠ 101

/-- Whether an answer with a status has no body. -/
def isBodiless (status : Nat) : Bool := status = 101 || status = 204 || status = 304

/-- Whether an answer with a status may say that the request has to be made elsewhere. -/
def isRedirect (status : Nat) : Bool :=
  status = 301 || status = 302 || status = 303 || status = 307 || status = 308

/-! ## Heads -/

def maxFields : Nat := 100

/-- A character of a value or of a reason; a character stands for one byte. -/
def isFieldText (c : Char) : Bool := c == '\t' || (0x20 ≤ c.toNat && c.toNat ≠ 0x7F)

/-- A character of the name of a field. -/
def isToken (c : Char) : Bool := c.isAlphanum || "!#$%&'*+-.^_\x60|~".toList.contains c

/-- A space or a tab, which does not count at the ends of a value. -/
def isPadding (c : Char) : Bool := c == ' ' || c == '\t'

def strip (value : List Char) : List Char :=
  ((value.dropWhile isPadding).reverse.dropWhile isPadding).reverse

/-- The characters of a line, without the carriage return that may stand ahead of its feed. -/
def lineText (line : List UInt8) : List Char :=
  let text := line.map (fun byte => Char.ofNat byte.toNat)
  if text.getLast? = some '\r' then text.dropLast else text

/-- The minor version and the status of a status line. -/
def statusLine? : List Char → Option (Nat × Nat)
  | 'H' :: 'T' :: 'T' :: 'P' :: '/' :: '1' :: '.' :: minor :: ' ' :: a :: b :: c :: reason =>
    let isReason := (reason.isEmpty || reason.head? = some ' ') && reason.all isFieldText
    match Text.number? 2 [minor], Text.number? 10 [a, b, c] with
    | some version, some status =>
      if 100 ≤ status && isReason then some (version, status) else none
    | _, _ => none
  | _ => none

def field? (line : List Char) : Option Field :=
  let name := line.takeWhile (· != ':')
  match line.dropWhile (· != ':') with
  | _ :: value =>
    if !name.isEmpty && name.all isToken && value.all isFieldText then
      some ⟨name.map (·.toLower), strip value⟩
    else none
  | [] => none

/-- The fields up to an empty line, and the lines behind it. What is not behind a line feed at its
end is no line. -/
def fields? : List (List UInt8) → Option (List Field × List (List UInt8))
  | [] | [_] => none
  | line :: rest =>
    if (lineText line).isEmpty then some ([], rest)
    else
      match field? (lineText line), fields? rest with
      | some field, some (fields, behind) => some (field :: fields, behind)
      | _, _ => none

/-- A head, ahead of which lines may be empty, and the lines behind it. -/
def head? (lines : List (List UInt8)) : Option (Head × List (List UInt8)) :=
  match lines.dropWhile (fun line => (lineText line).isEmpty) with
  | [] => none
  | line :: rest =>
    match statusLine? (lineText line), fields? rest with
    | some (minorVersion, status), some (fields, behind) =>
      if fields.length ≤ maxFields then some (⟨minorVersion, status, fields⟩, behind) else none
    | _, _ => none

def Head.values (head : Head) (name : String) : List (List Char) :=
  (head.fields.filter (·.name == name.toList)).map (·.value)

/-! ## Bodies -/

/-- The lengths that can be announced lie below this one. -/
def lengthLimit : Nat := UInt64.size - 2

/-- The length that values announce: one number, however often it is told. -/
def announced? (values : List (List Char)) : Option Nat :=
  match (values.flatMap (Text.splitOn ',')).map strip with
  | [] => none
  | first :: others =>
    if !first.isEmpty && (first :: others).all (fun text => !text.isEmpty &&
        Text.number? 10 text == Text.number? 10 first) then
      (Text.number? 10 first).filter (· < lengthLimit)
    else none

/-- An answer of which the body has a length. -/
def sized? (status length : Nat) (bytes : List UInt8) : Option Answer :=
  if isBodiless status then some ⟨status, some []⟩
  else if lengthLimit ≤ length then none
  else some ⟨status, if length ≤ bytes.length then some (bytes.take length) else none⟩

/-- The size of the chunk at the front, and what is behind the line that tells it. -/
def chunkSize? (bytes : List UInt8) : Option (Nat × List UInt8) :=
  let text := bytes.map (fun byte => Char.ofNat byte.toNat)
  let digits := text.takeWhile (fun c => (Text.digit? 16 c).isSome)
  let note := (text.drop digits.length).dropWhile isPadding
  let skipped := if note.head? = some ';' then note.dropWhile (fun c => c != '\r' && c != '\n')
    else note
  match skipped, (Text.number? 16 digits).filter (· < UInt64.size) with
  | '\r' :: '\n' :: behind, some size =>
    if digits.isEmpty then none else some (size, bytes.drop (bytes.length - behind.length))
  | _, _ => none

/-- The bytes of all chunks up to an empty one, behind which more fields may come. Every chunk takes
a byte at least, so the fuel never runs out when it is the number of bytes. -/
def joinChunks? : Nat → List UInt8 → Option (List UInt8)
  | 0, _ => none
  | fuel + 1, bytes =>
    match chunkSize? bytes with
    | none => none
    | some (0, rest) => (fields? (Text.splitOn 0x0A rest)).map (fun _ => [])
    | some (size, rest) =>
      match rest.drop size with
      | 0x0D :: 0x0A :: behind => (joinChunks? fuel behind).map (rest.take size ++ ·)
      | _ => none

/-- The answer of a head with the bytes up to the end of the connection. A request that is sent
elsewhere is told the same there, so it remains without an answer; version 1.0 has no codings. -/
def Head.answer? (head : Head) (bytes : List UInt8) : Option Answer :=
  let codings := head.values "transfer-encoding"
  let lengths := head.values "content-length"
  let isChunked := ((Text.splitOn ',' (codings.getLastD [])).getLast?.map strip).any
    (fun coding => String.ofList (coding.map (·.toLower)) == "chunked")
  if isBodiless head.status then some ⟨head.status, some []⟩
  else if isRedirect head.status && !(head.values "location").isEmpty then none
  else if !codings.isEmpty then
    if head.minorVersion = 0 then none
    else some ⟨head.status, if isChunked then joinChunks? bytes.length bytes else some bytes⟩
  else if lengths.isEmpty then some ⟨head.status, some bytes⟩
  else (announced? lengths).bind (fun length => sized? head.status length bytes)

/-! ## Answers in a row -/

/-- The first answer that no other follows. Every head takes a line at least, so the fuel never runs
out when it is the number of lines. -/
def lastAnswer? : Nat → List (List UInt8) → Option Answer
  | 0, _ => none
  | fuel + 1, lines =>
    match head? lines with
    | none => none
    | some (head, behind) =>
      if isInterim head.status then lastAnswer? fuel behind
      else head.answer? ([0x0A].intercalate behind)

/-- The answer that the bytes of a connection hold. -/
def Answer.ofBytes? (bytes : List UInt8) : Option Answer :=
  let lines := Text.splitOn 0x0A bytes
  lastAnswer? lines.length lines

end ReleaseFeed.Http
