import ReleaseFeed.Proofs.Json.Form
import ReleaseFeed.Proofs.Json.Skip

namespace ReleaseFeed.Json

/-- A schema together with the meaning of its members. -/
structure Form (σ : Type) where
  schema : Schema σ
  fields : List (Field σ)
  members_eq : schema.members = fields.map Field.member
  apart : fields.Pairwise Field.Apart

namespace Form

variable {σ : Type} (form : Form σ)

def find? (key : List Char) : Option (Field σ) :=
  form.fields.find? fun field => field.member.key.toList == key

/-- The record that results from members behind those that were `seen`. -/
def resume? (seen : List String) (members : Members) (record : σ) : Option σ :=
  if members.all fun member => member.1.text?.isSome then
    completed? form.fields seen members record
  else none

/-- The record that elements make in the order of the fields. -/
def inOrder? : List (Field σ) → List Value → σ → Option σ
  | [], [], record => some record
  | [], _ :: _, _ => none
  | field :: fields, [], record =>
    if field.member.isRequired then none else inOrder? fields [] record
  | field :: fields, value :: values, record =>
    (field.change? value).bind fun change => inOrder? fields values (change record)

def ofValue? : Value → Option σ
  | .object members => form.resume? [] members form.schema.blank
  | .array elements => inOrder? form.fields elements form.schema.blank
  | _ => none

end Form

section Objects

variable {σ : Type} {form : Form σ} {seen : List String} {record : σ}

theorem Form.schema_find? (key : List Char) :
    form.schema.find? key = (form.find? key).map Field.member := by
  rw [Schema.find?, form.members_eq, List.find?_map]
  rfl

theorem Form.mem_of_find? {key : List Char} {field : Field σ}
    (found : form.find? key = some field) :
    field ∈ form.fields ∧ field.member.key.toList = key :=
  ⟨List.mem_of_find?_eq_some found, by simpa using List.find?_some found⟩

theorem Form.resume?_nil :
    form.resume? seen [] record =
      if (form.schema.missing? seen).isSome then none else some record := by
  have here (fields : List (Field σ)) : completed? fields seen [] record =
      if ((fields.map Field.member).find? fun member =>
        member.isRequired && !seen.contains member.key).isSome then none else some record := by
    induction fields with
    | nil => rfl
    | cons field fields ih =>
      rw [completed?, List.map_cons, List.find?_cons]
      change (if field.member.isRequired && !seen.contains field.member.key then none
        else some id).bind _ = _
      cases (field.member.isRequired && !seen.contains field.member.key) with
      | true => rfl
      | false => exact ih
  rw [Schema.missing?, form.members_eq]
  exact here form.fields

theorem Form.resume?_cons (spelled : Literal) (value : Value) (members : Members) :
    form.resume? seen ((spelled, value) :: members) record =
      spelled.text?.bind fun key =>
        match form.find? key with
        | none => form.resume? seen members record
        | some field =>
          if seen.contains field.member.key then none
          else (field.change? value).bind fun change =>
            form.resume? (field.member.key :: seen) members (change record) := by
  rcases Option.eq_none_or_eq_some spelled.text? with text | ⟨key, text⟩
  · simp [resume?, text]
  · simp only [resume?, List.all_cons, text, Option.isSome_some, Bool.true_and, Option.bind_some]
    cases found : form.find? key with
    | none =>
      have unknown : ∀ field ∈ form.fields, ¬ spelled.Spells field.member.key := by
        intro field inside same
        obtain rfl : key = field.member.key.toList := Option.some.inj (text.symm.trans same)
        simpa using List.find?_eq_none.mp found field inside
      rw [completed?_unknown unknown]
    | some field =>
      obtain ⟨inside, rfl⟩ := Form.mem_of_find? found
      by_cases wasSeen : field.member.key ∈ seen
      · rw [completed?_eq_none inside (Field.content?_of_seen text wasSeen)]
        simp [wasSeen]
      · have unseen : ¬ seen.contains field.member.key = true := by simpa using wasSeen
        rw [completed?_known form.apart inside text wasSeen]
        dsimp only
        rw [if_neg unseen]
        cases field.change? value with
        | none => simp
        | some change => rfl

variable {blanks rest : List UInt8}

theorem nextKey_close {isFirst : Bool} (blank : Blank blanks) :
    nextKey isFirst (blanks ++ closeObject :: rest) = .ok (false, closeObject :: rest) := by
  rw [nextKey, skipBlank_append_cons blank rfl]
  rfl

theorem nextKey_first (blank : Blank blanks) :
    nextKey true (blanks ++ quote :: rest) = .ok (true, rest) := by
  rw [nextKey, skipBlank_append_cons blank rfl]
  rfl

theorem nextKey_next {ahead : List UInt8} (blank : Blank blanks) (blankAhead : Blank ahead) :
    nextKey false (blanks ++ comma :: (ahead ++ quote :: rest)) = .ok (true, rest) := by
  rw [nextKey, skipBlank_append_cons blank rfl]
  split
  · contradiction
  · rename_i shape
    exact absurd (List.cons.inj shape).1 (by decide)
  · rename_i shape
    obtain ⟨rfl, rfl⟩ := List.cons.inj shape
    rw [if_neg Bool.false_ne_true, if_pos BEq.rfl, skipBlank_append_cons blankAhead rfl]
    rfl

theorem leaveObject_append (blank : Blank blanks) :
    leaveObject (blanks ++ closeObject :: rest) = rest := by
  rw [leaveObject, skipBlank_append_cons blank rfl]
  rfl

/-- What becomes of the members that were read behind an opening brace. -/
def Schema.close? (schema : Schema σ) (read : (List String × σ) × List UInt8) :
    Option (σ × List UInt8) :=
  if (schema.missing? read.1.1).isSome then none else some (read.1.2, leaveObject read.2)

theorem Schema.readObject_toOption (schema : Schema σ) (bytes : List UInt8) :
    (schema.readObject bytes).toOption =
      (schema.readMembers (bytes.length + 1) true [] schema.blank bytes).toOption.bind
        schema.close? := by
  rw [readObject, toOption_bind]
  congr
  funext read
  obtain ⟨⟨seen, record⟩, rest⟩ := read
  dsimp only
  rw [close?]
  dsimp only
  cases schema.missing? seen <;> rfl

/-- The next member is read by the field of its key, or skipped if there is none. -/
theorem readMembers_more {fuel : Nat} {isFirst : Bool} {bytes behind ahead written : List UInt8}
    {spelled : Literal} {value : Value} (blankBehind : Blank behind) (blankAhead : Blank ahead)
    (writes : Writes value written) (ends : Ends rest)
    (goesOn : nextKey isFirst bytes =
      .ok (true, spelled.bytes ++ quote :: (behind ++ colon :: (ahead ++ (written ++ rest))))) :
    (form.schema.readMembers (fuel + 1) isFirst seen record bytes).toOption =
      spelled.text?.bind fun key =>
        match form.find? key with
        | none => (form.schema.readMembers fuel false seen record rest).toOption
        | some field =>
          if seen.contains field.member.key then none
          else (field.change? value).bind fun change =>
            (form.schema.readMembers fuel false (field.member.key :: seen) (change record)
              rest).toOption := by
  rw [Schema.readMembers, goesOn, ok_bind]
  change (readString _ >>= _).toOption = _
  rw [toOption_bind, readString_bytes]
  cases spelled.text? with
  | none => rfl
  | some key =>
    rw [Option.map_some, Option.bind_some, Option.bind_some]
    dsimp only
    rw [expectColon_append blankBehind, Form.schema_find?]
    cases form.find? key with
    | none =>
      rw [Option.map_none, ok_bind, skipValue_append writes blankAhead ends]
      rfl
    | some field =>
      rw [Option.map_some]
      dsimp only
      split
      · rfl
      · rw [ok_bind, toOption_bind, field.conforms writes blankAhead ends]
        cases field.change? value <;> rfl

theorem readMembers_step {fuel : Nat} {isFirst : Bool}
    {bytes behind ahead written further : List UInt8} {spelled : Literal} {value : Value}
    {members : Members} (blankBehind : Blank behind) (blankAhead : Blank ahead)
    (writes : Writes value written) (ends : Ends further)
    (goesOn : nextKey isFirst bytes =
      .ok (true, spelled.bytes ++ quote :: (behind ++ colon :: (ahead ++ (written ++ further)))))
    (later : ∀ seen record,
      (form.schema.readMembers fuel false seen record further).toOption.bind form.schema.close? =
        (form.resume? seen members record).map fun record => (record, rest)) :
    (form.schema.readMembers (fuel + 1) isFirst seen record bytes).toOption.bind
        form.schema.close? =
      (form.resume? seen ((spelled, value) :: members) record).map
        fun record => (record, rest) := by
  rw [readMembers_more blankBehind blankAhead writes ends goesOn, Form.resume?_cons]
  cases spelled.text? with
  | none => rfl
  | some key =>
    rw [Option.bind_some, Option.bind_some]
    cases form.find? key with
    | none => exact later seen record
    | some field =>
      dsimp only
      split
      · rfl
      · cases field.change? value with
        | none => rfl
        | some change => exact later _ _

theorem readMembers_listed {fuel : Nat} {isFirst : Bool} {members : Members}
    {bytes : List UInt8} (listed : Listed WritesMember isFirst members bytes)
    (enough : members.length < fuel) :
    (form.schema.readMembers fuel isFirst seen record
        (bytes ++ closeObject :: rest)).toOption.bind form.schema.close? =
      (form.resume? seen members record).map fun record => (record, rest) := by
  obtain ⟨fuel, rfl⟩ := Nat.exists_eq_add_one_of_ne_zero (Nat.ne_zero_of_lt enough)
  induction listed generalizing fuel seen record with
  | nil blank =>
    rw [Form.resume?_nil, Schema.readMembers, nextKey_close blank]
    change form.schema.close? ((seen, record), closeObject :: rest) = _
    rw [Schema.close?]
    split
    · rfl
    · rw [← List.nil_append (closeObject :: rest), leaveObject_append blank_nil]
      rfl
  | first blank written others ih =>
    rw [List.length_cons] at enough
    obtain ⟨fuel, rfl⟩ := Nat.exists_eq_add_of_le' (by omega : 1 ≤ fuel)
    have ends := others.ends (ends_closeObject rest)
    cases written with
    | of key blankBehind blankAhead written =>
      simp only [List.append_assoc, List.cons_append]
      exact readMembers_step blankBehind blankAhead written ends (nextKey_first blank)
        fun seen record => ih fuel (by omega)
  | next blank blankFront written others ih =>
    rw [List.length_cons] at enough
    obtain ⟨fuel, rfl⟩ := Nat.exists_eq_add_of_le' (by omega : 1 ≤ fuel)
    have ends := others.ends (ends_closeObject rest)
    cases written with
    | of key blankBehind blankAhead written =>
      simp only [List.append_assoc, List.cons_append]
      exact readMembers_step blankBehind blankAhead written ends (nextKey_next blank blankFront)
        fun seen record => ih fuel (by omega)

theorem readObject_append {members : Members} {bytes : List UInt8}
    (listed : Listed WritesMember true members bytes) :
    (form.schema.readObject (bytes ++ closeObject :: rest)).toOption =
      (form.resume? [] members form.schema.blank).map fun record => (record, rest) := by
  have enough := listed.length_le WritesMember.length_pos
  rw [Schema.readObject_toOption]
  apply readMembers_listed listed
  rw [List.length_append]
  omega

end Objects

section Arrays

variable {σ : Type}

/-- A record whose elements were read, behind the bracket that has to follow them. -/
def closeArray? (read : σ × List UInt8) : Option (σ × List UInt8) :=
  (closeElements read.2).toOption.map fun rest => (read.1, rest)

theorem closeElements_refuses {byte : UInt8} {blanks tail : List UInt8} (blank : Blank blanks)
    (visible : isBlank byte = false) (different : byte ≠ closeArray) :
    (closeElements (blanks ++ byte :: tail)).toOption = none := by
  rw [closeElements, skipBlank_append_cons blank visible]
  split
  · rfl
  · rename_i shape
    exact absurd (List.cons.inj shape).1 different
  · split <;> rfl
  · rfl

theorem readInOrder_step (schema : Schema σ) {field : Field σ} {fields : List (Field σ)}
    {index : Nat} {element : Value} {elements : List Value}
    {bytes written further rest : List UInt8} (writes : Writes element written)
    (ends : Ends further)
    (goesOn : nextElement (index == 0) bytes = .ok (true, written ++ further))
    (later : ∀ record, (schema.readInOrder (fields.map Field.member) (index + 1) record
        further).toOption.bind closeArray? =
      (Form.inOrder? fields elements record).map fun record => (record, rest)) (record : σ) :
    (schema.readInOrder ((field :: fields).map Field.member) index record bytes).toOption.bind
        closeArray? =
      (Form.inOrder? (field :: fields) (element :: elements) record).map
        fun record => (record, rest) := by
  have here := field.conforms writes blank_nil ends
  rw [List.nil_append] at here
  rw [List.map_cons, Schema.readInOrder, goesOn, ok_bind, Form.inOrder?]
  change (field.member.read (written ++ further) >>= _).toOption.bind _ = _
  rw [toOption_bind, here]
  cases field.change? element with
  | none => rfl
  | some change => exact later (change record)

theorem readInOrder_listed (schema : Schema σ) {fields : List (Field σ)} {index : Nat}
    {isFirst : Bool} (first : (index == 0) = isFirst) {elements : List Value}
    {bytes rest : List UInt8} (listed : Listed Writes isFirst elements bytes) (record : σ) :
    (schema.readInOrder (fields.map Field.member) index record
        (bytes ++ closeArray :: rest)).toOption.bind closeArray? =
      (Form.inOrder? fields elements record).map fun record => (record, rest) := by
  induction fields generalizing index isFirst elements bytes record with
  | nil =>
    change closeArray? (record, bytes ++ closeArray :: rest) = _
    rw [closeArray?]
    cases listed with
    | nil blank =>
      rw [closeElements_append blank]
      rfl
    | first blank written others =>
      obtain ⟨byte, tail, rfl, opens⟩ := written.opens
      rw [List.append_assoc, List.append_assoc, List.cons_append,
        closeElements_refuses blank opens.apart.1 opens.apart.2.1]
      rfl
    | next blank blankAhead written others =>
      rw [List.append_assoc, List.cons_append, closeElements_refuses blank rfl (by decide)]
      rfl
  | cons field fields ih =>
    cases listed with
    | nil blank =>
      rw [List.map_cons, Schema.readInOrder, nextElement_close blank, Form.inOrder?]
      change (if field.member.isRequired then _ else _ : Except Fault _).toOption.bind _ = _
      split
      · rfl
      · exact ih (rfl : (index + 1 == 0) = false) (.nil blank_nil) record
    | first blank written others =>
      rw [List.append_assoc, List.append_assoc]
      exact readInOrder_step schema written (others.ends (ends_closeArray rest))
        (first ▸ nextElement_first blank written) (ih rfl others) record
    | next blank blankAhead written others =>
      rw [List.append_assoc, List.cons_append, List.append_assoc, List.append_assoc]
      exact readInOrder_step schema written (others.ends (ends_closeArray rest))
        (first ▸ nextElement_next blank blankAhead written) (ih rfl others) record

end Arrays

/-- A record is read as its form takes it. -/
theorem Form.conforms {σ : Type} (form : Form σ) : Conforms form.schema.read form.ofValue? := by
  intro value bytes blanks rest written blank ends
  rw [Schema.read, onValue_append _ blank written]
  cases value with
  | object members =>
    cases written with
    | object inside =>
      rw [List.cons_append, List.append_assoc]
      exact readObject_append inside
  | array elements =>
    cases written with
    | array inside =>
      rw [List.cons_append, List.append_assoc, Form.ofValue?,
        ← readInOrder_listed form.schema (rfl : (0 == 0) = true) inside, ← form.members_eq]
      change (form.schema.readInOrder form.schema.members 0 form.schema.blank _ >>= _).toOption = _
      rw [toOption_bind]
      congr
      funext read
      change (closeElements read.2 >>= fun rest => pure (read.1, rest)).toOption = closeArray? read
      rw [closeArray?]
      cases closeElements read.2 <;> rfl
  | _ =>
    obtain ⟨first, tail, rfl, opens⟩ := written.opens
    rw [List.cons_append]
    split
    · rename_i shape
      obtain ⟨_, other⟩ := opens.kind.2.2.2 (List.cons.inj shape).1
      cases other
    · rename_i shape
      obtain ⟨_, other⟩ := opens.kind.2.2.1 (List.cons.inj shape).1
      cases other
    · rfl

end ReleaseFeed.Json
