import ReleaseFeed.Json.Number
import ReleaseFeed.Json.Skip

namespace ReleaseFeed.Json

/-- A value of an unexpected kind, read far enough to say what it is. -/
def readFound : Reader Found := fun bytes =>
  match bytes with
  | letterN :: rest => do return (.null, ← expectWord restOfNull rest)
  | letterT :: rest => do return (.boolean true, ← expectWord restOfTrue rest)
  | letterF :: rest => do return (.boolean false, ← expectWord restOfFalse rest)
  | minus :: rest => do
    let (number, rest) ← readNumber true rest
    return (.number number, rest)
  | quote :: rest => do
    let (text, rest) ← readString rest
    return (.string text, rest)
  | openArray :: _ => .ok (.array, bytes)
  | openObject :: _ => .ok (.object, bytes)
  | _ =>
    if startsWithDigit bytes then do
      let (number, rest) ← readNumber false bytes
      return (.number number, rest)
    else .error (.atNext .expectedValue bytes)

/-- The refusal of a value that is not of the expected kind. -/
def refuse (expected : String) (bytes : List UInt8) : Fault :=
  match readFound bytes with
  | .ok (found, rest) => .here (.wrongKind found expected) rest
  | .error fault => fault

/-- Runs a reader on what follows the blanks; the end of the document is refused. -/
def onValue {α : Type} (read : Reader α) : Reader α := fun bytes =>
  match skipBlank bytes with
  | [] => .error (.here .endInValue [])
  | rest => read rest

def readText (expected : String) : Reader (List Char) := onValue fun bytes =>
  match bytes with
  | quote :: rest => readString rest
  | _ => .error (refuse expected bytes)

def string : Reader String := fun bytes => do
  let (text, rest) ← readText "a string" bytes
  return (String.ofList text, rest)

def boolean : Reader Bool := onValue fun bytes =>
  match bytes with
  | letterT :: rest => do return (true, ← expectWord restOfTrue rest)
  | letterF :: rest => do return (false, ← expectWord restOfFalse rest)
  | _ => .error (refuse "a boolean" bytes)

def naturalOf (expected : String) (number : Number) (rest : List UInt8) :
    Except Fault (Nat × List UInt8) :=
  match number with
  | .natural value => .ok (value, rest)
  | .negative value => .error (.here (.wrongInteger (-value) expected) rest)
  | .real isNegative value =>
    .error (.here (.wrongKind (.number (.real isNegative value)) expected) rest)

def natural (expected : String) : Reader Nat := onValue fun bytes =>
  match bytes with
  | minus :: rest => do
    let (number, rest) ← readNumber true rest
    naturalOf expected number rest
  | _ =>
    if startsWithDigit bytes then do
      let (number, rest) ← readNumber false bytes
      naturalOf expected number rest
    else .error (refuse expected bytes)

def optional {α : Type} (read : Reader α) : Reader (Option α) := fun bytes =>
  match skipBlank bytes with
  | letterN :: rest => do return (none, ← expectWord restOfNull rest)
  | rest => do
    let (value, rest) ← read rest
    return (some value, rest)

/-- Whether an array goes on, and where: before its next element or before its closing bracket. -/
def nextElement (isFirst : Bool) : Reader Bool := fun bytes =>
  match skipBlank bytes with
  | [] => .error (.here .endInArray [])
  | closeArray :: rest => .ok (false, closeArray :: rest)
  | byte :: rest =>
    if isFirst then .ok (true, byte :: rest)
    else if byte == comma then
      match skipBlank rest with
      | [] => .error (.here .endInValue [])
      | closeArray :: rest => .error (.atNext .trailingComma (closeArray :: rest))
      | rest => .ok (true, rest)
    else .error (.atNext .expectedArrayCommaOrEnd (byte :: rest))

/-- The elements of an array up to its closing bracket. -/
def readElements {α : Type} (item : Reader α) : Nat → Bool → Reader (List α)
  | 0, _, bytes => .error (.here .endInArray bytes)
  | fuel + 1, isFirst, bytes => do
    let (goesOn, rest) ← nextElement isFirst bytes
    if goesOn then
      let (value, rest) ← item rest
      let (values, rest) ← readElements item fuel false rest
      return (value :: values, rest)
    else return ([], rest)

def closeElements (bytes : List UInt8) : Except Fault (List UInt8) :=
  match skipBlank bytes with
  | [] => .error (.here .endInArray [])
  | closeArray :: rest => .ok rest
  | comma :: rest =>
    match skipBlank rest with
    | closeArray :: rest => .error (.atNext .trailingComma (closeArray :: rest))
    | rest => .error (.atNext .trailingCharacters rest)
  | rest => .error (.atNext .trailingCharacters rest)

def list {α : Type} (item : Reader α) : Reader (List α) := onValue fun bytes =>
  match bytes with
  | openArray :: rest => do
    let (values, rest) ← readElements item (rest.length + 1) true rest
    return (values, ← closeElements rest)
  | _ => .error (refuse "a sequence" bytes)

/-- A whole document: one value with nothing but blanks behind it. -/
def document {α : Type} (read : Reader α) (bytes : List UInt8) : Except Fault α := do
  let (value, rest) ← read bytes
  match skipBlank rest with
  | [] => return value
  | rest => .error (.atNext .trailingCharacters rest)

end ReleaseFeed.Json
