/-!
Reading bytes as UTF-8, one byte at a time. Bytes that fit no character are cut into the longest
pieces that could have started one, and each such piece stands for one malformed place.
-/
namespace ReleaseFeed.Text.Utf8

/-- A character whose first bytes were read: its bits so far, how many bytes it still needs, and
the range of the next one. -/
structure Pending where
  bits : Nat
  needed : Nat
  low : Nat
  high : Nat

/-- What a byte begins that is not ASCII; `none` if no character begins with it. -/
def begin (byte : Nat) : Option Pending :=
  if byte < 0xC2 then none
  else if byte < 0xE0 then some ⟨byte - 0xC0, 1, 0x80, 0xBF⟩
  else if byte < 0xF0 then
    some ⟨byte - 0xE0, 2, if byte = 0xE0 then 0xA0 else 0x80, if byte = 0xED then 0x9F else 0xBF⟩
  else if byte < 0xF5 then
    some ⟨byte - 0xF0, 3, if byte = 0xF0 then 0x90 else 0x80, if byte = 0xF4 then 0x8F else 0xBF⟩
  else none

/-- Characters and malformed places (`none`) that a byte completes, and what it leaves open. -/
abbrev Step := List (Option Char) × Option Pending

/-- A byte between two characters. -/
def start (byte : Nat) : Step :=
  if byte < 0x80 then ([some (Char.ofNat byte)], none)
  else
    match begin byte with
    | some pending => ([], some pending)
    | none => ([none], none)

/-- A byte after the first bytes of a character; one that does not continue it starts afresh. -/
def proceed (pending : Pending) (byte : Nat) : Step :=
  if pending.low ≤ byte && byte ≤ pending.high then
    let bits := pending.bits * 64 + byte % 64
    if pending.needed ≤ 1 then ([some (Char.ofNat bits)], none)
    else ([], some ⟨bits, pending.needed - 1, 0x80, 0xBF⟩)
  else
    let (pieces, left) := start byte
    (none :: pieces, left)

/-- One byte in either state. -/
def feed (state : Option Pending) (byte : UInt8) : Step :=
  match state with
  | none => start byte.toNat
  | some pending => proceed pending byte.toNat

/-- The characters and malformed places of a byte sequence. -/
def scanFrom : Option Pending → List UInt8 → List (Option Char)
  | none, [] => []
  | some _, [] => [none]
  | state, byte :: rest => (feed state byte).1 ++ scanFrom (feed state byte).2 rest

/-- The characters and malformed places of a whole byte sequence. -/
def scan (bytes : List UInt8) : List (Option Char) := scanFrom none bytes

/-- The text that a byte sequence encodes, if no place is malformed. -/
def decode? (bytes : List UInt8) : Option (List Char) := (scan bytes).mapM id

/-- The text of a byte sequence with U+FFFD at each malformed place. -/
def decodeLossy (bytes : List UInt8) : List Char :=
  (scan bytes).map (fun piece => piece.getD (Char.ofNat 0xFFFD))

def validLength (bytes : List UInt8) : Nat :=
  ((scan bytes).takeWhile Option.isSome).foldl
    (fun length piece => length + (piece.getD 'a').utf8Size) 0

def encode (text : List Char) : List UInt8 := text.flatMap String.utf8EncodeChar

theorem scan_cons_ascii {byte : UInt8} (ascii : byte.toNat < 0x80) (rest : List UInt8) :
    scan (byte :: rest) = some (Char.ofNat byte.toNat) :: scan rest := by
  simp [scan, scanFrom, feed, start, ascii]

end ReleaseFeed.Text.Utf8
