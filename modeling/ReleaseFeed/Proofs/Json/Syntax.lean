import ReleaseFeed.Json.Text
/-!
The syntax of JSON, apart from any reader: values as trees that keep the spelling of strings and
numbers, and the byte sequences that write a tree, which differ in their blanks alone.
-/
namespace ReleaseFeed.Json

/-- A hexadecimal digit; a letter may be small or capital. -/
structure HexDigit where
  value : Fin 16
  isCapital : Bool

def HexDigit.byte (digit : HexDigit) : UInt8 :=
  .ofNat (digit.value + if digit.value < 10 then 0x30 else if digit.isCapital then 0x37 else 0x57)

/-- The four digits of an escape by code unit. -/
structure CodeUnit where
  first : HexDigit
  second : HexDigit
  third : HexDigit
  fourth : HexDigit

namespace CodeUnit

def bytes (unit : CodeUnit) : List UInt8 :=
  [unit.first.byte, unit.second.byte, unit.third.byte, unit.fourth.byte]

def value (unit : CodeUnit) : Nat :=
  ((unit.first.value * 16 + unit.second.value) * 16 + unit.third.value) * 16 + unit.fourth.value

end CodeUnit

inductive Escape where
  | quote
  | backslash
  | slash
  | backspace
  | formFeed
  | lineFeed
  | carriageReturn
  | tab

namespace Escape

def letter : Escape → UInt8
  | quote => 0x22
  | backslash => 0x5C
  | slash => 0x2F
  | backspace => 0x62
  | formFeed => 0x66
  | lineFeed => 0x6E
  | carriageReturn => 0x72
  | tab => 0x74

def char : Escape → Char
  | quote => '"'
  | backslash => '\\'
  | slash => '/'
  | backspace => '\x08'
  | formFeed => '\x0C'
  | lineFeed => '\n'
  | carriageReturn => '\r'
  | tab => '\t'

end Escape

/-- A character that may stand in a string as it is. -/
def isPlain (c : Char) : Bool := 0x20 ≤ c.toNat && c != '"' && c != '\\'

inductive Part where
  | plain (c : Char) (visible : isPlain c = true)
  | escape (letter : Escape)
  | unit (code : CodeUnit)

def Part.bytes : Part → List UInt8
  | plain c _ => String.utf8EncodeChar c
  | escape letter => [backslash, letter.letter]
  | unit code => backslash :: letterU :: code.bytes

/-- A string as it is spelled. -/
abbrev Literal := List Part

namespace Literal

def bytes (literal : Literal) : List UInt8 := literal.flatMap Part.bytes

theorem bytes_cons (part : Part) (literal : Literal) :
    bytes (part :: literal) = part.bytes ++ bytes literal :=
  List.flatMap_cons

/-- The text that a literal stands for; a surrogate that has no partner stands for none. -/
def text? : Literal → Option (List Char)
  | [] => some []
  | .plain c _ :: rest => (text? rest).map (c :: ·)
  | .escape letter :: rest => (text? rest).map (letter.char :: ·)
  | .unit code :: rest =>
    if isTrailingUnit code.value then none
    else if isLeadingUnit code.value then
      match rest with
      | .unit next :: rest =>
        if isTrailingUnit next.value then (text? rest).map (pairChar code.value next.value :: ·)
        else none
      | _ => none
    else (text? rest).map (Char.ofNat code.value :: ·)

end Literal

/-- At least one decimal digit. -/
structure Digits where
  first : Fin 10
  rest : List (Fin 10)

def digitByte (digit : Fin 10) : UInt8 := .ofNat (digit + 0x30)

def Digits.bytes (digits : Digits) : List UInt8 :=
  digitByte digits.first :: digits.rest.map digitByte

/-- The exponent of a number: its letter may be capital, its sign may be left out. -/
structure Exponent where
  isCapital : Bool
  isNegative : Option Bool
  digits : Digits

namespace Exponent

def mark (exponent : Exponent) : UInt8 := if exponent.isCapital then 0x45 else 0x65

def sign (exponent : Exponent) : List UInt8 :=
  match exponent.isNegative with
  | none => []
  | some false => [plus]
  | some true => [minus]

def bytes (exponent : Exponent) : List UInt8 :=
  exponent.mark :: (exponent.sign ++ exponent.digits.bytes)

end Exponent

/-- A number as it is spelled; its integer part has no leading zero. -/
structure NumberLiteral where
  isNegative : Bool
  whole : Digits
  fraction : Option Digits
  exponent : Option Exponent
  noLeadingZero : whole.first = 0 → whole.rest = []

namespace NumberLiteral

/-- What follows the integer part. -/
def tail (literal : NumberLiteral) : List UInt8 :=
  (literal.fraction.elim [] fun digits => point :: digits.bytes) ++
    literal.exponent.elim [] Exponent.bytes

def bytes (literal : NumberLiteral) : List UInt8 :=
  (if literal.isNegative then [minus] else []) ++ (literal.whole.bytes ++ literal.tail)

end NumberLiteral

inductive Value where
  | null
  | boolean (value : Bool)
  | number (literal : NumberLiteral)
  | string (literal : Literal)
  | array (elements : List Value)
  | object (members : List (Literal × Value))

abbrev Members := List (Literal × Value)

/-- Induction over a value: on an array by its elements, on an object by the values of its
members. -/
@[elab_as_elim, induction_eliminator]
theorem Value.inductionOn {holds : Value → Prop} (null : holds .null)
    (boolean : ∀ value, holds (.boolean value)) (number : ∀ literal, holds (.number literal))
    (string : ∀ literal, holds (.string literal))
    (array : ∀ elements, (∀ element ∈ elements, holds element) → holds (.array elements))
    (object : ∀ members, (∀ member ∈ members, holds member.2) → holds (.object members))
    (value : Value) : holds value :=
  Value.rec (motive_1 := holds) (motive_2 := fun elements => ∀ element ∈ elements, holds element)
    (motive_3 := fun members => ∀ member ∈ members, holds member.2)
    (motive_4 := fun member => holds member.2)
    null boolean number string (fun elements ih => array elements ih)
    (fun members ih => object members ih) (by simp)
    (fun _ _ head tail => List.forall_mem_cons.mpr ⟨head, tail⟩) (by simp)
    (fun _ _ head tail => List.forall_mem_cons.mpr ⟨head, tail⟩) (fun _ _ value => value) value

/-- Bytes that may stand between tokens. -/
def Blank (bytes : List UInt8) : Prop := ∀ byte ∈ bytes, isBlank byte = true

/-- Written members with a comma between any two and blanks around each, from the first or behind
it. -/
inductive Listed {α : Type} (writes : α → List UInt8 → Prop) :
    Bool → List α → List UInt8 → Prop where
  | nil {isFirst : Bool} {blanks : List UInt8} (blank : Blank blanks) :
      Listed writes isFirst [] blanks
  | first {member : α} {members : List α} {blanks bytes rest : List UInt8} (blank : Blank blanks)
      (written : writes member bytes) (others : Listed writes false members rest) :
      Listed writes true (member :: members) (blanks ++ (bytes ++ rest))
  | next {member : α} {members : List α} {behind ahead bytes rest : List UInt8}
      (blankBehind : Blank behind) (blankAhead : Blank ahead) (written : writes member bytes)
      (others : Listed writes false members rest) :
      Listed writes false (member :: members) (behind ++ comma :: (ahead ++ (bytes ++ rest)))

mutual

/-- Bytes that write a value, without blanks around it. -/
inductive Writes : Value → List UInt8 → Prop where
  | null : Writes .null (ascii "null")
  | boolean (value : Bool) : Writes (.boolean value) (ascii (if value then "true" else "false"))
  | number (literal : NumberLiteral) : Writes (.number literal) literal.bytes
  | string (literal : Literal) : Writes (.string literal) (quote :: (literal.bytes ++ [quote]))
  | array {elements : List Value} {bytes : List UInt8}
      (inside : Listed Writes true elements bytes) :
      Writes (.array elements) (openArray :: (bytes ++ [closeArray]))
  | object {members : List (Literal × Value)} {bytes : List UInt8}
      (inside : Listed WritesMember true members bytes) :
      Writes (.object members) (openObject :: (bytes ++ [closeObject]))

inductive WritesMember : Literal × Value → List UInt8 → Prop where
  | of (key : Literal) {value : Value} {behind ahead bytes : List UInt8}
      (blankBehind : Blank behind) (blankAhead : Blank ahead) (written : Writes value bytes) :
      WritesMember (key, value)
        (quote :: (key.bytes ++ quote :: (behind ++ colon :: (ahead ++ bytes))))

end

/-- Bytes that write a value with blanks around it. -/
inductive Document : Value → List UInt8 → Prop where
  | of {value : Value} {ahead bytes behind : List UInt8} (blankAhead : Blank ahead)
      (written : Writes value bytes) (blankBehind : Blank behind) :
      Document value (ahead ++ (bytes ++ behind))

end ReleaseFeed.Json
