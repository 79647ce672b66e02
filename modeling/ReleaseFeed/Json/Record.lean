import ReleaseFeed.Json.Reader
/-!
Reading records. A record is an object whose members may stand in any order, where unknown members
are skipped and absent optional ones keep their default; or an array of its members in their
declared order, of which trailing optional ones may be left out.
-/
namespace ReleaseFeed.Json

/-- One member of a record: its key, whether it has to be there, and how its value changes the
record. -/
structure Member (σ : Type) where
  key : String
  isRequired : Bool
  read : Reader (σ → σ)

/-- A kind of record: what a refusal calls it, its members in order, and the record that has only
defaults. -/
structure Schema (σ : Type) where
  title : String
  members : List (Member σ)
  blank : σ

/-- A member whose value is stored by `store`. -/
def Member.of {σ α : Type} (key : String) (isRequired : Bool) (read : Reader α)
    (store : σ → α → σ) : Member σ :=
  ⟨key, isRequired, fun bytes => do
    let (value, rest) ← read bytes
    return (fun record => store record value, rest)⟩

/-- The first step out of an object that is refused as a whole: blanks and a closing brace. -/
def leaveObject (bytes : List UInt8) : List UInt8 :=
  match skipBlank bytes with
  | closeObject :: rest => rest
  | rest => rest

/-- The first step out of an array that is refused as a whole: blanks and a closing bracket, or a
comma with the blanks behind it. -/
def leaveArray (bytes : List UInt8) : List UInt8 :=
  match skipBlank bytes with
  | closeArray :: rest => rest
  | comma :: rest => skipBlank rest
  | rest => rest

/-- Whether an object goes on, and where: behind the quote of its next key or before its closing
brace. -/
def nextKey (isFirst : Bool) : Reader Bool := fun bytes =>
  match skipBlank bytes with
  | [] => .error (.here .endInObject [])
  | closeObject :: rest => .ok (false, closeObject :: rest)
  | byte :: rest =>
    if isFirst then
      if byte == quote then .ok (true, rest)
      else .error (.atNext .keyMustBeString (byte :: rest))
    else if byte == comma then
      match skipBlank rest with
      | [] => .error (.here .endInValue [])
      | quote :: rest => .ok (true, rest)
      | closeObject :: rest => .error (.atNext .trailingComma (closeObject :: rest))
      | rest => .error (.atNext .keyMustBeString rest)
    else .error (.atNext .expectedObjectCommaOrEnd (byte :: rest))

namespace Schema

variable {σ : Type}

def find? (schema : Schema σ) (key : List Char) : Option (Member σ) :=
  schema.members.find? (fun member => member.key.toList == key)

/-- The members of an object up to its closing brace, with the keys that were seen. -/
def readMembers (schema : Schema σ) :
    Nat → Bool → List String → σ → Reader (List String × σ)
  | 0, _, _, _, bytes => .error (.here .endInObject bytes)
  | fuel + 1, isFirst, seen, record, bytes => do
    let (goesOn, rest) ← nextKey isFirst bytes
    if !goesOn then return ((seen, record), rest)
    let (key, rest) ← readString rest
    match schema.find? key with
    | none =>
      let rest ← expectColon rest
      let rest ← skipValue rest
      readMembers schema fuel false seen record rest
    | some member =>
      if seen.contains member.key then
        .error (.here (.repeatedMember member.key) (leaveObject rest))
      else
        let rest ← expectColon rest
        let (change, rest) ← member.read rest
        readMembers schema fuel false (member.key :: seen) (change record) rest

def missing? (schema : Schema σ) (seen : List String) : Option (Member σ) :=
  schema.members.find? (fun member => member.isRequired && !seen.contains member.key)

/-- A record written as an object, behind its opening brace. -/
def readObject (schema : Schema σ) : Reader σ := fun bytes => do
  let ((seen, record), rest) ←
    schema.readMembers (bytes.length + 1) true [] schema.blank bytes
  match schema.missing? seen with
  | some member => .error (.here (.missingMember member.key) (leaveObject rest))
  | none => return (record, leaveObject rest)

/-- What an array of all members of the record is called. -/
def wholeArray (schema : Schema σ) : String :=
  schema.title ++ " with " ++ toString schema.members.length ++
    (if schema.members.length = 1 then " element" else " elements")

/-- The members of a record written as an array, from the one at `index` on. -/
def readInOrder (schema : Schema σ) : List (Member σ) → Nat → σ → Reader σ
  | [], _, record, bytes => .ok (record, bytes)
  | member :: members, index, record, bytes => do
    let (goesOn, rest) ← nextElement (index == 0) bytes
    if goesOn then
      let (change, rest) ← member.read rest
      readInOrder schema members (index + 1) (change record) rest
    else if member.isRequired then
      .error (.here (.tooFewElements index schema.wholeArray) (leaveArray rest))
    else readInOrder schema members (index + 1) record rest

/-- A record in either form. -/
def read (schema : Schema σ) : Reader σ := onValue fun bytes =>
  match bytes with
  | openObject :: rest => schema.readObject rest
  | openArray :: rest => do
    let (record, rest) ← schema.readInOrder schema.members 0 schema.blank rest
    return (record, ← closeElements rest)
  | _ => .error (refuse schema.title bytes)

end Schema
end ReleaseFeed.Json
