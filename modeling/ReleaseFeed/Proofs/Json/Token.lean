import ReleaseFeed.Json.Skip
import ReleaseFeed.Proofs.Json.Literal
import ReleaseFeed.Proofs.Text.Trim

namespace ReleaseFeed.Json

theorem isDigit_iff {byte : UInt8} : isDigit byte = true ↔ 48 ≤ byte.toNat ∧ byte.toNat ≤ 57 := by
  simp only [isDigit, Bool.and_eq_true, decide_eq_true_eq, UInt8.le_iff_toNat_le]
  rfl

theorem isBlank_iff {byte : UInt8} :
    isBlank byte = true ↔ byte = 0x20 ∨ byte = 0x0A ∨ byte = 0x09 ∨ byte = 0x0D := by
  simp only [isBlank, Bool.or_eq_true, beq_iff_eq, or_assoc]

theorem isBlank_of_isDigit {byte : UInt8} (digit : isDigit byte = true) : isBlank byte = false := by
  rw [← Bool.not_eq_true, isBlank_iff]
  rintro (rfl | rfl | rfl | rfl) <;> contradiction

theorem isDigit_digitByte (digit : Fin 10) : isDigit (digitByte digit) = true := by
  revert digit
  decide

section Blanks

variable {blanks rest : List UInt8}

theorem blank_nil : Blank [] := by
  intro byte inside
  cases inside

theorem skipBlank_append (blank : Blank blanks)
    (stops : ∀ byte ∈ rest.head?, isBlank byte = false) : skipBlank (blanks ++ rest) = rest :=
  Text.dropWhile_append_of_stops blank stops

theorem skipBlank_append_cons {byte : UInt8} (blank : Blank blanks) (stops : isBlank byte = false) :
    skipBlank (blanks ++ byte :: rest) = byte :: rest :=
  skipBlank_append blank (by simpa using stops)

end Blanks

/-- What may follow a value: blanks, a comma, a closing bracket or brace, or nothing. -/
def Ends (rest : List UInt8) : Prop :=
  ∀ byte ∈ rest.head?,
    isBlank byte = true ∨ byte = comma ∨ byte = closeArray ∨ byte = closeObject

section Ends

variable {rest : List UInt8}

theorem ends_nil : Ends [] := by
  intro byte found
  cases found

theorem Ends.not_isDigit (ends : Ends rest) : ∀ byte ∈ rest.head?, isDigit byte = false := by
  intro byte found
  rcases ends byte found with blank | rfl | rfl | rfl
  · rw [← Bool.not_eq_true]
    intro digit
    rw [isBlank_of_isDigit digit] at blank
    contradiction
  all_goals rfl

theorem Ends.not_isExponentMark (ends : Ends rest) :
    ∀ byte ∈ rest.head?, isExponentMark byte = false := by
  intro byte found
  rcases ends byte found with blank | rfl | rfl | rfl
  · rcases isBlank_iff.mp blank with rfl | rfl | rfl | rfl <;> rfl
  all_goals rfl

theorem Ends.ne_point (ends : Ends rest) : ∀ byte ∈ rest.head?, byte ≠ point := by
  intro byte found
  rcases ends byte found with blank | rfl | rfl | rfl
  · rcases isBlank_iff.mp blank with rfl | rfl | rfl | rfl <;> decide
  all_goals decide

theorem ends_append_of_blank {blanks : List UInt8} (blank : Blank blanks) (ends : Ends rest) :
    Ends (blanks ++ rest) := by
  cases blanks with
  | nil => exact ends
  | cons first others =>
    intro byte found
    obtain rfl : first = byte := by simpa using found
    exact .inl (blank first List.mem_cons_self)

theorem Listed.ends {α : Type} {writes : α → List UInt8 → Prop} {members : List α}
    {bytes : List UInt8} (listed : Listed writes false members bytes) (ends : Ends rest) :
    Ends (bytes ++ rest) := by
  cases listed with
  | nil blank => exact ends_append_of_blank blank ends
  | @next _ _ behind ahead bytes others blankBehind _ _ _ =>
    rw [List.append_assoc]
    refine ends_append_of_blank blankBehind ?_
    intro byte found
    obtain rfl : comma = byte := by simpa using found
    exact .inr (.inl rfl)

theorem Listed.length_le {α : Type} {writes : α → List UInt8 → Prop} {isFirst : Bool}
    {members : List α} {bytes : List UInt8} (listed : Listed writes isFirst members bytes)
    (positive : ∀ {member bytes}, writes member bytes → 0 < bytes.length) :
    members.length ≤ bytes.length := by
  induction listed with
  | nil blank => exact Nat.zero_le _
  | first blank written others ih =>
    have := positive written
    simp only [List.length_cons, List.length_append]
    omega
  | next blankBehind blankAhead written others ih =>
    simp only [List.length_cons, List.length_append]
    omega

theorem ends_closeArray (rest : List UInt8) : Ends (closeArray :: rest) := by
  intro byte found
  obtain rfl : closeArray = byte := by simpa using found
  exact .inr (.inr (.inl rfl))

theorem ends_closeObject (rest : List UInt8) : Ends (closeObject :: rest) := by
  intro byte found
  obtain rfl : closeObject = byte := by simpa using found
  exact .inr (.inr (.inr rfl))

end Ends

/-- The bytes that a value may start with. -/
def Value.Opens : Value → UInt8 → Prop
  | null, byte => byte = letterN
  | boolean true, byte => byte = letterT
  | boolean false, byte => byte = letterF
  | number literal, byte =>
    byte = if literal.isNegative then minus else digitByte literal.whole.first
  | string _, byte => byte = quote
  | array _, byte => byte = openArray
  | object _, byte => byte = openObject

section Opens

variable {value : Value} {byte : UInt8} {bytes : List UInt8}

theorem Value.Opens.apart (opens : value.Opens byte) :
    isBlank byte = false ∧ byte ≠ closeArray ∧ byte ≠ closeObject := by
  have digits : ∀ digit, isBlank (digitByte digit) = false ∧ digitByte digit ≠ closeArray ∧
      digitByte digit ≠ closeObject := by decide
  cases value with
  | boolean value => cases value <;> subst opens <;> decide
  | number literal =>
    change byte = if literal.isNegative then minus else digitByte literal.whole.first at opens
    rw [opens]
    split
    · decide
    · exact digits _
  | _ =>
    subst opens
    decide

theorem Value.Opens.number_ne {literal : NumberLiteral} (opens : (number literal).Opens byte) :
    byte ≠ letterN ∧ byte ≠ quote ∧ byte ≠ openArray ∧ byte ≠ openObject := by
  have digits : ∀ digit, digitByte digit ≠ letterN ∧ digitByte digit ≠ quote ∧
      digitByte digit ≠ openArray ∧ digitByte digit ≠ openObject := by decide
  change byte = if literal.isNegative then minus else digitByte literal.whole.first at opens
  rw [opens]
  split
  · decide
  · exact digits _

theorem Writes.opens (written : Writes value bytes) :
    ∃ first tail, bytes = first :: tail ∧ value.Opens first := by
  cases written with
  | null => exact ⟨_, _, rfl, rfl⟩
  | boolean value => cases value <;> exact ⟨_, _, rfl, rfl⟩
  | number literal =>
    refine ⟨if literal.isNegative then minus else digitByte literal.whole.first, ?_, ?_, rfl⟩
    · exact if literal.isNegative then literal.whole.bytes ++ literal.tail
        else literal.whole.rest.map digitByte ++ literal.tail
    · rw [NumberLiteral.bytes]
      cases literal.isNegative <;> rfl
  | string literal => exact ⟨_, _, rfl, rfl⟩
  | array inside => exact ⟨_, _, rfl, rfl⟩
  | object inside => exact ⟨_, _, rfl, rfl⟩

theorem Document.opens (written : Document value bytes) :
    ∃ first tail, skipBlank bytes = first :: tail ∧ value.Opens first := by
  obtain ⟨blank, writes, -⟩ := written
  obtain ⟨first, tail, rfl, opens⟩ := writes.opens
  exact ⟨first, _, skipBlank_append_cons blank opens.apart.1, opens⟩

theorem Writes.length_pos (written : Writes value bytes) : 0 < bytes.length := by
  obtain ⟨first, tail, rfl, -⟩ := written.opens
  exact Nat.succ_pos _

theorem WritesMember.length_pos {member : Literal × Value} (written : WritesMember member bytes) :
    0 < bytes.length := by
  cases written
  exact Nat.succ_pos _

theorem skipBlank_append_written {blanks rest : List UInt8} (blank : Blank blanks)
    (written : Writes value bytes) : skipBlank (blanks ++ (bytes ++ rest)) = bytes ++ rest := by
  obtain ⟨first, tail, rfl, opens⟩ := written.opens
  exact skipBlank_append_cons blank opens.apart.1

end Opens

theorem expectColon_append {blanks rest : List UInt8} (blank : Blank blanks) :
    expectColon (blanks ++ colon :: rest) = .ok rest := by
  rw [expectColon, skipBlank_append_cons blank rfl]
  rfl

theorem expectWord_append (word rest : List UInt8) : expectWord word (word ++ rest) = .ok rest := by
  induction word with
  | nil =>
    cases rest <;> rfl
  | cons letter word ih => simpa [expectWord] using ih

end ReleaseFeed.Json
