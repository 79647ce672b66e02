import ReleaseFeed.Proofs.Json.Token

namespace ReleaseFeed.Json

section Numbers

variable {rest : List UInt8}

theorem dropWhile_digits (digits : List (Fin 10))
    (stops : ∀ byte ∈ rest.head?, isDigit byte = false) :
    (digits.map digitByte ++ rest).dropWhile isDigit = rest := by
  refine Text.dropWhile_append_of_stops ?_ stops
  intro byte inside
  obtain ⟨digit, _, rfl⟩ := List.mem_map.mp inside
  exact isDigit_digitByte digit

theorem isExponentMark_mark (exponent : Exponent) : isExponentMark exponent.mark = true := by
  unfold Exponent.mark
  cases exponent.isCapital <;> rfl

theorem skipExponent_append (exponent : Exponent) (ends : Ends rest) :
    skipExponent (exponent.sign ++ (exponent.digits.bytes ++ rest)) = .ok rest := by
  obtain ⟨isCapital, isNegative, first, others⟩ := exponent
  have read : (if isDigit (digitByte first) then
      (.ok ((others.map digitByte ++ rest).dropWhile isDigit) : Except Fault (List UInt8))
      else .error (.here .invalidNumber (others.map digitByte ++ rest))) = .ok rest := by
    rw [isDigit_digitByte, if_pos rfl, dropWhile_digits others ends.not_isDigit]
  match isNegative with
  | some false => exact read
  | some true => exact read
  | none =>
    have apart : ∀ digit, digitByte digit ≠ plus ∧ digitByte digit ≠ minus := by decide
    change skipExponent (digitByte first :: (others.map digitByte ++ rest)) = _
    unfold skipExponent
    split
    · rename_i shape
      exact absurd (List.cons.inj shape).1 (apart first).1
    · rename_i shape
      exact absurd (List.cons.inj shape).1 (apart first).2
    · exact read

theorem skipScale_append (exponent : Option Exponent) (ends : Ends rest) :
    skipScale (exponent.elim [] Exponent.bytes ++ rest) = .ok rest := by
  cases exponent with
  | none =>
    cases rest with
    | nil => rfl
    | cons byte others =>
      have notMark := ends.not_isExponentMark byte rfl
      simp [skipScale, notMark]
  | some exponent =>
    rw [Option.elim_some, Exponent.bytes, List.cons_append, List.append_assoc, skipScale,
      if_pos (isExponentMark_mark exponent), skipExponent_append exponent ends]

/-- What follows the digits of a number starts with no digit. -/
theorem not_isDigit_scale (exponent : Option Exponent) (ends : Ends rest) :
    ∀ byte ∈ (exponent.elim [] Exponent.bytes ++ rest).head?, isDigit byte = false := by
  cases exponent with
  | none => exact ends.not_isDigit
  | some exponent =>
    intro byte found
    obtain rfl : exponent.mark = byte := by simpa [Exponent.bytes] using found
    unfold Exponent.mark
    cases exponent.isCapital <;> rfl

theorem not_isDigit_tail (literal : NumberLiteral) (ends : Ends rest) :
    ∀ byte ∈ (literal.tail ++ rest).head?, isDigit byte = false := by
  rw [NumberLiteral.tail, List.append_assoc]
  cases literal.fraction with
  | none => exact not_isDigit_scale literal.exponent ends
  | some digits =>
    intro byte found
    obtain rfl : point = byte := by simpa using found
    rfl

theorem skipNumberTail_append (literal : NumberLiteral) (ends : Ends rest) :
    skipNumberTail (literal.tail ++ rest) = .ok rest := by
  rw [NumberLiteral.tail, List.append_assoc]
  cases literal.fraction with
  | none =>
    have scale := skipScale_append literal.exponent ends
    unfold skipNumberTail
    split
    · -- neither an exponent nor what ends a value starts with a point
      rename_i others shape
      cases exponent : literal.exponent with
      | none =>
        rw [exponent] at shape
        exact absurd rfl (ends.ne_point point (by simpa using congrArg List.head? shape))
      | some scale =>
        rw [exponent] at shape
        have mark := isExponentMark_mark scale
        rw [show scale.mark = point from (List.cons.inj shape).1] at mark
        contradiction
    · exact scale
  | some digits =>
    change skipFraction (digits.bytes ++ _) = _
    change (if isDigit (digitByte digits.first) then
      skipScale ((digits.rest.map digitByte ++ _).dropWhile isDigit) else _) = _
    rw [isDigit_digitByte, if_pos rfl, dropWhile_digits _ (not_isDigit_scale literal.exponent ends),
      skipScale_append literal.exponent ends]

theorem skipNumber_append (literal : NumberLiteral) (ends : Ends rest) :
    skipNumber (literal.whole.bytes ++ (literal.tail ++ rest)) = .ok rest := by
  have tail := skipNumberTail_append literal ends
  have stops := not_isDigit_tail literal ends
  have zero : digitByte literal.whole.first = zeroDigit → literal.whole.rest = [] := by
    have only : ∀ digit, digitByte digit = zeroDigit → digit = 0 := by decide
    exact fun same => literal.noLeadingZero (only _ same)
  rw [Digits.bytes, List.cons_append]
  unfold skipNumber
  split
  · rename_i shape
    cases shape
  · rename_i others shape
    obtain ⟨first, rfl⟩ := List.cons.inj shape
    rw [zero first, List.map_nil, List.nil_append]
    have notDigit : (literal.tail ++ rest).head?.any isDigit = false := by
      cases head : (literal.tail ++ rest).head? with
      | none => rfl
      | some byte => exact stops byte head
    rw [notDigit]
    exact tail
  · rename_i first others _ shape
    obtain ⟨rfl, rfl⟩ := List.cons.inj shape
    rw [isDigit_digitByte, if_pos rfl, dropWhile_digits _ stops]
    exact tail

end Numbers

section Scalars

variable {rest : List UInt8}

theorem skipScalar_digit {first : UInt8} {tail : List UInt8} (digit : isDigit first = true) :
    skipScalar first tail = skipNumber (first :: tail) := by
  unfold skipScalar
  split
  · contradiction
  · contradiction
  · contradiction
  · contradiction
  · contradiction
  · exact if_pos digit

theorem skipScalar_number (literal : NumberLiteral) (ends : Ends rest) {first : UInt8}
    {tail : List UInt8} (shape : literal.bytes = first :: tail) :
    skipScalar first (tail ++ rest) = .ok rest := by
  have number := skipNumber_append literal ends
  rw [NumberLiteral.bytes] at shape
  rw [← List.append_assoc] at number
  by_cases sign : literal.isNegative = true
  · rw [if_pos sign] at shape
    obtain ⟨rfl, rfl⟩ := List.cons.inj shape
    exact number
  · rw [if_neg sign, List.nil_append] at shape
    rw [shape] at number
    obtain ⟨rfl, -⟩ := List.cons.inj shape
    rw [skipScalar_digit (isDigit_digitByte _)]
    exact number

theorem skipValueWith_scalar {fuel : Nat} {blanks tail : List UInt8} {first : UInt8}
    (blank : Blank blanks) (visible : isBlank first = false) (notArray : first ≠ openArray)
    (notObject : first ≠ openObject) (skipped : skipScalar first tail = .ok rest) :
    skipValueWith (fuel + 1) (blanks ++ first :: tail) = .ok rest := by
  rw [skipValueWith, skipBlank_append_cons blank visible]
  split
  · contradiction
  · rename_i shape
    exact absurd (List.cons.inj shape).1 notArray
  · rename_i shape
    exact absurd (List.cons.inj shape).1 notObject
  · rename_i shape
    obtain ⟨rfl, rfl⟩ := List.cons.inj shape
    exact skipped

end Scalars

/-- A value that is skipped wherever it is written, if the fuel is twice its bytes. -/
def Skipped (value : Value) : Prop :=
  ∀ (fuel : Nat) ⦃bytes blanks rest : List UInt8⦄, Writes value bytes → Blank blanks → Ends rest →
    2 * bytes.length ≤ fuel → skipValueWith fuel (blanks ++ (bytes ++ rest)) = .ok rest

section Steps

variable {fuel : Nat} {blanks tail : List UInt8}

theorem skipElements_first {byte : UInt8} (blank : Blank blanks) (visible : isBlank byte = false)
    (goesOn : byte ≠ closeArray) :
    skipElements (fuel + 1) true (blanks ++ byte :: tail) =
      skipValueWith fuel (byte :: tail) >>= skipElements fuel false := by
  rw [skipElements, skipBlank_append_cons blank visible]
  split
  · contradiction
  · rename_i shape
    exact absurd (List.cons.inj shape).1 goesOn
  · rename_i shape
    obtain ⟨rfl, rfl⟩ := List.cons.inj shape
    rfl

theorem skipElements_next (blank : Blank blanks) :
    skipElements (fuel + 1) false (blanks ++ comma :: tail) =
      skipValueWith fuel tail >>= skipElements fuel false := by
  rw [skipElements, skipBlank_append_cons blank rfl]
  rfl

theorem skipMembers_first (blank : Blank blanks) :
    skipMembers (fuel + 1) true (blanks ++ quote :: tail) =
      skipKey (quote :: tail) >>= fun rest =>
        skipValueWith fuel rest >>= skipMembers fuel false := by
  rw [skipMembers, skipBlank_append_cons blank rfl]
  rfl

theorem skipMembers_next (blank : Blank blanks) :
    skipMembers (fuel + 1) false (blanks ++ comma :: tail) =
      skipKey tail >>= fun rest => skipValueWith fuel rest >>= skipMembers fuel false := by
  rw [skipMembers, skipBlank_append_cons blank rfl]
  rfl

theorem skipKey_append {behind : List UInt8} (key : Literal) (blank : Blank blanks)
    (blankBehind : Blank behind) :
    skipKey (blanks ++ quote :: (key.bytes ++ quote :: (behind ++ colon :: tail))) = .ok tail := by
  rw [skipKey, skipBlank_append_cons blank rfl]
  change skipString (key.bytes ++ quote :: (behind ++ colon :: tail)) >>= expectColon = _
  rw [skipString_bytes, ok_bind, expectColon_append blankBehind]

end Steps

section Containers

variable {isFirst : Bool} {bytes rest : List UInt8} {fuel : Nat}

theorem skipElements_listed {elements : List Value} (each : ∀ element ∈ elements, Skipped element)
    (listed : Listed Writes isFirst elements bytes) (enough : 2 * bytes.length + 2 ≤ fuel) :
    skipElements fuel isFirst (bytes ++ closeArray :: rest) = .ok rest := by
  obtain ⟨fuel, rfl⟩ := Nat.exists_eq_add_of_le' (Nat.le_trans (Nat.le_add_left 1 _) enough)
  induction listed generalizing fuel with
  | nil blank =>
    rw [skipElements, skipBlank_append_cons blank rfl]
    rfl
  | @first element elements blanks bytes tail blank written others ih =>
    obtain ⟨here, later⟩ := List.forall_mem_cons.mp each
    obtain ⟨byte, more, rfl, opens⟩ := written.opens
    simp only [List.length_append, List.length_cons] at enough
    have skipped := here fuel written blank_nil (others.ends (ends_closeArray rest))
      (by simp only [List.length_cons]; omega)
    rw [List.append_assoc, List.append_assoc, List.cons_append,
      skipElements_first blank opens.apart.1 opens.apart.2.1]
    rw [List.nil_append, List.cons_append] at skipped
    rw [skipped, ok_bind]
    obtain ⟨fuel, rfl⟩ := Nat.exists_eq_add_of_le' (by omega : 1 ≤ fuel)
    exact ih later fuel (by omega)
  | @next element elements behind ahead bytes tail blankBehind blankAhead written others ih =>
    obtain ⟨here, later⟩ := List.forall_mem_cons.mp each
    simp only [List.length_append, List.length_cons] at enough
    have skipped := here fuel written blankAhead (others.ends (ends_closeArray rest))
      (by omega)
    rw [List.append_assoc, List.cons_append, List.append_assoc, List.append_assoc,
      skipElements_next blankBehind, skipped, ok_bind]
    obtain ⟨fuel, rfl⟩ := Nat.exists_eq_add_of_le' (by omega : 1 ≤ fuel)
    exact ih later fuel (by omega)

theorem skipMembers_listed {members : List (Literal × Value)}
    (each : ∀ member ∈ members, Skipped member.2)
    (listed : Listed WritesMember isFirst members bytes) (enough : 2 * bytes.length + 2 ≤ fuel) :
    skipMembers fuel isFirst (bytes ++ closeObject :: rest) = .ok rest := by
  obtain ⟨fuel, rfl⟩ := Nat.exists_eq_add_of_le' (Nat.le_trans (Nat.le_add_left 1 _) enough)
  induction listed generalizing fuel with
  | nil blank =>
    rw [skipMembers, skipBlank_append_cons blank rfl]
    rfl
  | @first member members blanks bytes tail blank written others ih =>
    obtain ⟨here, later⟩ := List.forall_mem_cons.mp each
    cases written with
    | @of key value behind ahead bytes blankBehind blankAhead written =>
      simp only [List.length_append, List.length_cons] at enough
      have skipped := here fuel written blankAhead (others.ends (ends_closeObject rest))
        (by omega)
      have keyed := @skipKey_append _ (ahead ++ (bytes ++ (tail ++ closeObject :: rest))) _ key
        blank_nil blankBehind
      rw [List.nil_append] at keyed
      simp only [List.append_assoc, List.cons_append]
      rw [skipMembers_first blank, keyed, ok_bind, skipped, ok_bind]
      obtain ⟨fuel, rfl⟩ := Nat.exists_eq_add_of_le' (by omega : 1 ≤ fuel)
      exact ih later fuel (by omega)
  | @next member members front middle bytes tail blankFront blankMiddle written others ih =>
    obtain ⟨here, later⟩ := List.forall_mem_cons.mp each
    cases written with
    | @of key value behind ahead bytes blankBehind blankAhead written =>
      simp only [List.length_append, List.length_cons] at enough
      have skipped := here fuel written blankAhead (others.ends (ends_closeObject rest))
        (by omega)
      simp only [List.append_assoc, List.cons_append]
      rw [skipMembers_next blankFront, skipKey_append key blankMiddle blankBehind, ok_bind, skipped,
        ok_bind]
      obtain ⟨fuel, rfl⟩ := Nat.exists_eq_add_of_le' (by omega : 1 ≤ fuel)
      exact ih later fuel (by omega)

end Containers

/-- Every written value is skipped to its end. -/
theorem skipped (value : Value) : Skipped value := by
  induction value with
  | null =>
    intro fuel bytes blanks rest written blank ends enough
    cases written
    obtain ⟨fuel, rfl⟩ := Nat.exists_eq_add_of_le' (Nat.le_trans (by decide : 1 ≤ 8) enough)
    exact skipValueWith_scalar blank rfl (by decide) (by decide) (expectWord_append restOfNull rest)
  | boolean value =>
    intro fuel bytes blanks rest written blank ends enough
    cases written
    cases value with
    | true =>
      obtain ⟨fuel, rfl⟩ := Nat.exists_eq_add_of_le' (Nat.le_trans (by decide : 1 ≤ 8) enough)
      exact skipValueWith_scalar blank rfl (by decide) (by decide)
        (expectWord_append restOfTrue rest)
    | false =>
      obtain ⟨fuel, rfl⟩ := Nat.exists_eq_add_of_le' (Nat.le_trans (by decide : 1 ≤ 10) enough)
      exact skipValueWith_scalar blank rfl (by decide) (by decide)
        (expectWord_append restOfFalse rest)
  | number literal =>
    intro fuel bytes blanks rest written blank ends enough
    obtain ⟨first, tail, rfl, opens⟩ := written.opens
    have skipped : skipScalar first (tail ++ rest) = .ok rest := by
      generalize shape : first :: tail = bytes at written
      cases written
      exact skipScalar_number literal ends shape.symm
    simp only [List.length_cons] at enough
    obtain ⟨fuel, rfl⟩ := Nat.exists_eq_add_of_le' (by omega : 1 ≤ fuel)
    obtain ⟨-, -, notArray, notObject⟩ := opens.number_ne
    exact skipValueWith_scalar blank opens.apart.1 notArray notObject skipped
  | string literal =>
    intro fuel bytes blanks rest written blank ends enough
    cases written
    simp only [List.length_append, List.length_cons] at enough
    obtain ⟨fuel, rfl⟩ := Nat.exists_eq_add_of_le' (by omega : 1 ≤ fuel)
    rw [List.cons_append, List.append_assoc]
    exact skipValueWith_scalar blank rfl (by decide) (by decide) (skipString_bytes literal rest)
  | array elements ih =>
    intro fuel bytes blanks rest written blank ends enough
    cases written with
    | array inside =>
      simp only [List.length_append, List.length_cons] at enough
      obtain ⟨fuel, rfl⟩ := Nat.exists_eq_add_of_le' (by omega : 1 ≤ fuel)
      rw [List.cons_append, List.append_assoc, skipValueWith, skipBlank_append_cons blank rfl]
      exact skipElements_listed ih inside (by omega)
  | object members ih =>
    intro fuel bytes blanks rest written blank ends enough
    cases written with
    | object inside =>
      simp only [List.length_append, List.length_cons] at enough
      obtain ⟨fuel, rfl⟩ := Nat.exists_eq_add_of_le' (by omega : 1 ≤ fuel)
      rw [List.cons_append, List.append_assoc, skipValueWith, skipBlank_append_cons blank rfl]
      exact skipMembers_listed ih inside (by omega)

theorem skipValue_append {value : Value} {bytes blanks rest : List UInt8}
    (written : Writes value bytes) (blank : Blank blanks) (ends : Ends rest) :
    skipValue (blanks ++ (bytes ++ rest)) = .ok rest := by
  apply skipped value _ written blank ends
  simp only [List.length_append]
  omega

end ReleaseFeed.Json
