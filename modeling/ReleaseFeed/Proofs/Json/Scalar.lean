import ReleaseFeed.Proofs.Json.Invariant
import ReleaseFeed.Proofs.Json.Sound

namespace ReleaseFeed.Json

section Meaning

/-- The number that digits stand for, behind a number that was read before. -/
def valueFrom (start : Nat) (digits : List (Fin 10)) : Nat :=
  digits.foldl (fun value digit => value * 10 + digit) start

def Digits.value (digits : Digits) : Nat := valueFrom 0 (digits.first :: digits.rest)

def NumberLiteral.natural? (literal : NumberLiteral) : Option Nat :=
  if literal.isNegative || literal.fraction.isSome || literal.exponent.isSome then none
  else if literal.whole.value ≤ maxSignificand then some literal.whole.value
  else none

namespace Value

def boolean? : Value → Option Bool
  | boolean value => some value
  | _ => none

def natural? : Value → Option Nat
  | number literal => literal.natural?
  | _ => none

end Value

theorem NumberLiteral.natural?_eq_some_iff {literal : NumberLiteral} {value : Nat} :
    literal.natural? = some value ↔ literal.isNegative = false ∧ literal.fraction = none ∧
      literal.exponent = none ∧ literal.whole.value ≤ maxSignificand ∧
        literal.whole.value = value := by
  unfold natural?
  split
  · rename_i other
    simp only [Bool.or_eq_true, Option.isSome_iff_ne_none] at other
    refine iff_of_false nofun ?_
    rintro ⟨sign, fraction, exponent, -⟩
    simp [sign, fraction, exponent] at other
  · rename_i plain
    simp only [Bool.or_eq_true, not_or, Bool.not_eq_true, Option.isSome_eq_false_iff,
      Option.isNone_iff_eq_none] at plain
    simp [plain]

end Meaning

section Booleans

variable {value : Value} {byte : UInt8}

theorem Value.Opens.word (opens : value.Opens byte) :
    (byte = letterT → value = .boolean true) ∧ (byte = letterF → value = .boolean false) := by
  have digits : ∀ digit, digitByte digit ≠ letterT ∧ digitByte digit ≠ letterF := by decide
  cases value with
  | boolean value => cases value <;> subst opens <;> simp +decide
  | number literal =>
    change byte = if literal.isNegative then minus else digitByte literal.whole.first at opens
    rw [opens]
    split
    · simp +decide
    · simp [digits]
  | _ =>
    subst opens
    simp +decide

theorem Value.Opens.not_number (opens : value.Opens byte)
    (other : ∀ literal, value ≠ .number literal) : byte ≠ minus ∧ isDigit byte = false := by
  cases value with
  | boolean value => cases value <;> subst opens <;> decide
  | number literal => exact absurd rfl (other literal)
  | _ =>
    subst opens
    decide

theorem conforms_boolean : Conforms boolean Value.boolean? := by
  intro value bytes blanks rest written blank ends
  rw [boolean, onValue_append _ blank written]
  cases value with
  | boolean value =>
    cases written
    cases value with
    | true =>
      change (expectWord restOfTrue (restOfTrue ++ rest) >>= _).toOption = _
      rw [expectWord_append]
      rfl
    | false =>
      change (expectWord restOfFalse (restOfFalse ++ rest) >>= _).toOption = _
      rw [expectWord_append]
      rfl
  | _ =>
    obtain ⟨first, tail, rfl, opens⟩ := written.opens
    rw [List.cons_append]
    split
    · rename_i shape
      cases opens.word.1 (List.cons.inj shape).1
    · rename_i shape
      cases opens.word.2 (List.cons.inj shape).1
    · rfl

theorem sound_boolean : Sound boolean Value.boolean? := by
  apply sound_onValue
  intro bytes rest value found
  dsimp only at found
  split at found
  · rw [bind_eq_ok_iff] at found
    obtain ⟨left, word, found⟩ := found
    obtain ⟨rfl, rfl⟩ := Prod.mk.inj (Except.ok.inj found)
    rw [eq_of_expectWord word]
    exact ⟨.boolean true, stands_word (Writes.boolean true) (by decide), rfl⟩
  · rw [bind_eq_ok_iff] at found
    obtain ⟨left, word, found⟩ := found
    obtain ⟨rfl, rfl⟩ := Prod.mk.inj (Except.ok.inj found)
    rw [eq_of_expectWord word]
    exact ⟨.boolean false, stands_word (Writes.boolean false) (by decide), rfl⟩
  · cases found

end Booleans

def Number.IsReal (number : Number) : Prop := ∃ isNegative value, number = .real isNegative value

section Reals

variable {isNegative : Bool} {significand : Nat}

theorem Gives.ne_natural {read : Reader Number} (gives : Gives read Number.IsReal)
    (bytes : List UInt8) {value : Nat} {rest : List UInt8} :
    read bytes ≠ .ok (.natural value, rest) := by
  intro found
  obtain ⟨_, _, same⟩ := gives found
  cases same

theorem gives_finishReal (exponent : Int) :
    Gives (finishReal isNegative significand exponent) Number.IsReal := by
  intro bytes number rest found
  rw [finishReal] at found
  split at found
  · obtain ⟨rfl, -⟩ := Prod.mk.inj (Except.ok.inj found)
    exact ⟨_, _, rfl⟩
  · cases found

theorem gives_readExponent (shift : Int) :
    Gives (readExponent isNegative significand shift) Number.IsReal := by
  intro bytes number rest found
  unfold readExponent at found
  split at found
  dsimp only at found
  split at found
  · cases found
  split at found
  · cases found
  split at found
  · split at found
    · cases found
    · obtain ⟨rfl, -⟩ := Prod.mk.inj (Except.ok.inj found)
      exact ⟨_, _, rfl⟩
  · exact gives_finishReal _ found

theorem gives_readScale (shift : Int) :
    Gives (readScale isNegative significand shift) Number.IsReal := by
  intro bytes number rest found
  unfold readScale at found
  split at found
  · split at found
    · exact gives_readExponent _ found
    · exact gives_finishReal _ found
  · exact gives_finishReal _ found

theorem gives_readFraction (shift : Int) :
    Gives (readFraction isNegative significand shift) Number.IsReal := by
  intro bytes number rest found
  unfold readFraction at found
  split at found
  split at found
  · exact gives_readScale _ found
  split at found
  · cases found
  · exact gives_readScale _ found

end Reals

section Naturals

variable {isNegative : Bool} {start limit significand dropped value : Nat} {digits : List (Fin 10)}
  {bytes rest left : List UInt8}

theorem digitValue_digitByte (digit : Fin 10) : digitValue (digitByte digit) = digit := by
  revert digit
  decide

theorem digitByte_ne_zeroDigit {digit : Fin 10} (notZero : digit ≠ 0) :
    digitByte digit ≠ zeroDigit := by
  revert digit
  decide

theorem digitByte_ne_minus (digit : Fin 10) : digitByte digit ≠ minus := by
  revert digit
  decide

theorem le_valueFrom (start : Nat) (digits : List (Fin 10)) : start ≤ valueFrom start digits := by
  induction digits generalizing start with
  | nil => exact Nat.le_refl start
  | cons digit digits ih =>
    have grows : start ≤ start * 10 + digit := by omega
    exact Nat.le_trans grows (ih _)

theorem startsWithDigit_eq_false_iff :
    startsWithDigit rest = false ↔ ∀ byte ∈ rest.head?, isDigit byte = false := by
  cases rest <;> simp [startsWithDigit]

theorem gather_of_stops (stops : ∀ byte ∈ rest.head?, isDigit byte = false) :
    gather limit start rest = (start, 0, rest) := by
  cases rest with
  | nil => rfl
  | cons byte rest => simp [gather, stops byte rfl]

/-- Digits are gathered up to the first one with which the number that they stand for does not fit
any more. -/
theorem gather_digits (stops : ∀ byte ∈ rest.head?, isDigit byte = false) (fits : start ≤ limit) :
    ∃ result taken dropped, gather limit start (digits.map digitByte ++ rest) =
        (result, taken, dropped.map digitByte ++ rest) ∧
      (dropped = [] ↔ valueFrom start digits ≤ limit) ∧
        (dropped = [] → result = valueFrom start digits) := by
  induction digits generalizing start with
  | nil => exact ⟨start, 0, [], gather_of_stops stops, iff_of_true rfl fits, fun _ => rfl⟩
  | cons digit digits ih =>
    have more := List.cons_ne_nil digit digits
    by_cases next : start * 10 + digit ≤ limit
    · obtain ⟨result, taken, dropped, gathered, whole⟩ := ih next
      refine ⟨result, taken + 1, dropped, ?_, whole⟩
      simp [gather, isDigit_digitByte, digitValue_digitByte, next, gathered]
    · refine ⟨start, 0, digit :: digits, ?_, iff_of_false more fun fits => next ?_,
        fun none => absurd none more⟩
      · simp [gather, isDigit_digitByte, digitValue_digitByte, next]
      · exact Nat.le_trans (le_valueFrom (start * 10 + digit) digits) fits

theorem readNumber_of_notZero {first : Fin 10} (notZero : first ≠ 0) (behind : List UInt8) :
    readNumber isNegative (digitByte first :: behind) =
      let (significand, _, left) := gather maxSignificand 0 (digitByte first :: behind)
      readTail isNegative significand (left.takeWhile isDigit).length
        (left.dropWhile isDigit) := by
  unfold readNumber
  split
  · cases ‹_ = []›
  · rename_i shape
    exact absurd (List.cons.inj shape).1 (digitByte_ne_zeroDigit notZero)
  · rename_i shape
    obtain ⟨rfl, rfl⟩ := List.cons.inj shape
    rw [isDigit_digitByte, Bool.not_true, if_neg Bool.false_ne_true]

/-- What stands behind digits is read as it is for the number that they stand for, unless that
does not fit. -/
theorem readNumber_digits {digits : Digits} (noLeadingZero : digits.first = 0 → digits.rest = [])
    (stops : ∀ byte ∈ rest.head?, isDigit byte = false) : ∃ significand dropped,
      readNumber isNegative (digits.bytes ++ rest) =
        readTail isNegative significand dropped rest ∧
      (dropped = 0 ↔ digits.value ≤ maxSignificand) ∧
        (dropped = 0 → significand = digits.value) := by
  obtain ⟨first, others⟩ := digits
  by_cases zero : first = 0
  · subst zero
    obtain rfl : others = [] := noLeadingZero rfl
    refine ⟨0, 0, ?_, iff_of_true rfl (Nat.zero_le _), fun _ => rfl⟩
    change (if startsWithDigit rest then _ else readTail isNegative 0 0 rest) = _
    rw [startsWithDigit_eq_false_iff.mpr stops, if_neg Bool.false_ne_true]
  · obtain ⟨significand, taken, dropped, gathered, whole, value⟩ :=
      @gather_digits 0 maxSignificand (first :: others) rest stops (Nat.zero_le _)
    have digit : ∀ byte ∈ dropped.map digitByte, isDigit byte = true := by
      simp [isDigit_digitByte]
    refine ⟨significand, dropped.length, ?_, ?_, ?_⟩
    · change readNumber isNegative (digitByte first :: (others.map digitByte ++ rest)) = _
      rw [readNumber_of_notZero zero, ← List.cons_append, ← List.map_cons, gathered]
      dsimp only
      rw [Text.takeWhile_append_of_stops digit stops, Text.dropWhile_append_of_stops digit stops,
        List.length_map]
    · rw [List.length_eq_zero_iff]
      exact whole
    · rw [List.length_eq_zero_iff]
      exact value

theorem exists_digits_of_readNumber {read : Number × List UInt8}
    (found : readNumber isNegative bytes = .ok read) :
    ∃ digits : Digits, (digits.first = 0 → digits.rest = []) ∧ ∃ behind,
      bytes = digits.bytes ++ behind ∧ ∀ byte ∈ behind.head?, isDigit byte = false := by
  unfold readNumber at found
  split at found
  · cases found
  · split at found
    · cases found
    · rename_i behind stops
      refine ⟨⟨0, []⟩, fun _ => rfl, behind, rfl, ?_⟩
      exact startsWithDigit_eq_false_iff.mp (Bool.eq_false_iff.mpr stops)
  · rename_i first behind notZero
    split at found
    · cases found
    · rename_i digit
      obtain ⟨digits, shape⟩ := exists_digits_of_isDigit (by simpa using digit) behind
      refine ⟨digits, fun zero => ?_, _, shape, ?_⟩
      · have same : first = digitByte digits.first := (List.cons.inj shape).1
        rw [zero] at same
        exact absurd same notZero
      · exact Text.head?_dropWhile_stops isDigit behind

theorem plain_eq_natural_iff : readTail.plain isNegative significand dropped rest =
      .ok (.natural value, left) ↔
    isNegative = false ∧ dropped = 0 ∧ significand = value ∧ rest = left := by
  unfold readTail.plain
  by_cases whole : dropped = 0
  · rw [if_pos whole]
    cases isNegative with
    | false => simp [integerOf, whole]
    | true =>
      refine iff_of_false (fun same => ?_) (by simp)
      have natural : integerOf true significand = .natural value :=
        (Prod.mk.inj (Except.ok.inj same)).1
      unfold integerOf at natural
      split at natural
      · contradiction
      · split at natural <;> cases natural
  · rw [if_neg whole]
    exact iff_of_false ((gives_finishReal _).ne_natural _) (by simp [whole])

/-- Behind its digits a natural number has neither a fraction nor an exponent. -/
theorem readTail_eq_natural_iff : readTail isNegative significand dropped rest =
      .ok (.natural value, left) ↔
    (∀ byte ∈ rest.head?, byte ≠ point ∧ isExponentMark byte = false) ∧
      isNegative = false ∧ dropped = 0 ∧ significand = value ∧ rest = left := by
  unfold readTail
  split
  · exact iff_of_false ((gives_readFraction _).ne_natural _) (by simp)
  · rename_i byte behind notPoint
    by_cases mark : isExponentMark byte = true
    · rw [if_pos mark]
      exact iff_of_false ((gives_readExponent _).ne_natural _) (by simp [mark])
    · rw [if_neg mark, plain_eq_natural_iff]
      have apart : byte ≠ point := notPoint
      simp [apart, mark]
  · rw [plain_eq_natural_iff]
    simp

/-- A natural number that was read is one as it is written. -/
theorem exists_natural_of_readNumber
    (found : readNumber isNegative bytes = .ok (.natural value, rest)) :
    isNegative = false ∧ ∃ literal : NumberLiteral,
      literal.natural? = some value ∧ bytes = literal.bytes ++ rest := by
  obtain ⟨digits, noLeadingZero, behind, rfl, stops⟩ := exists_digits_of_readNumber found
  obtain ⟨significand, dropped, same, whole, meant⟩ := readNumber_digits noLeadingZero stops
  rw [same, readTail_eq_natural_iff] at found
  obtain ⟨-, positive, taken, rfl, rfl⟩ := found
  refine ⟨positive, ⟨false, digits, none, none, noLeadingZero⟩, ?_, ?_⟩
  · exact NumberLiteral.natural?_eq_some_iff.mpr
      ⟨rfl, rfl, rfl, whole.mp taken, (meant taken).symm⟩
  · simp [NumberLiteral.bytes, NumberLiteral.tail]

/-- What follows a number tells whether it is an integer. -/
theorem NumberLiteral.head?_tail {literal : NumberLiteral} (ends : Ends rest) :
    (∀ byte ∈ (literal.tail ++ rest).head?, isDigit byte = false) ∧
      ((∀ byte ∈ (literal.tail ++ rest).head?, byte ≠ point ∧ isExponentMark byte = false) ↔
        literal.fraction = none ∧ literal.exponent = none) := by
  unfold tail
  cases literal.fraction with
  | some digits =>
    exact ⟨fun byte found => by cases found; rfl, iff_of_false (by simp) (by simp)⟩
  | none =>
    cases literal.exponent with
    | some exponent =>
      have mark : isExponentMark exponent.mark = true ∧ isDigit exponent.mark = false := by
        unfold Exponent.mark
        split <;> decide
      exact ⟨fun byte found => by cases found; exact mark.2,
        iff_of_false (by simp [Exponent.bytes, mark.1]) (by simp)⟩
    | none =>
      refine ⟨ends.not_isDigit, iff_of_true (fun byte found => ?_) ⟨rfl, rfl⟩⟩
      exact ⟨ends.ne_point byte found, ends.not_isExponentMark byte found⟩

/-- A number as it is written is read as the natural number that it stands for, if any. -/
theorem readNumber_literal {literal : NumberLiteral} (positive : literal.isNegative = false)
    (ends : Ends rest) : readNumber false (literal.bytes ++ rest) = .ok (.natural value, left) ↔
      literal.natural? = some value ∧ rest = left := by
  obtain ⟨stops, plain⟩ := literal.head?_tail ends
  obtain ⟨significand, dropped, same, whole, meant⟩ :=
    @readNumber_digits false _ _ literal.noLeadingZero stops
  have shape : literal.bytes ++ rest = literal.whole.bytes ++ (literal.tail ++ rest) := by
    simp [NumberLiteral.bytes, positive]
  rw [shape, same, readTail_eq_natural_iff, plain, NumberLiteral.natural?_eq_some_iff]
  constructor
  · rintro ⟨⟨fraction, exponent⟩, -, taken, rfl, rfl⟩
    refine ⟨⟨positive, fraction, exponent, whole.mp taken, (meant taken).symm⟩, ?_⟩
    simp [NumberLiteral.tail, fraction, exponent]
  · rintro ⟨⟨-, fraction, exponent, fits, rfl⟩, rfl⟩
    refine ⟨⟨fraction, exponent⟩, rfl, whole.mpr fits, meant (whole.mpr fits), ?_⟩
    simp [NumberLiteral.tail, fraction, exponent]

theorem naturalOf_eq_ok_iff {expected : String} {number : Number} :
    naturalOf expected number rest = .ok (value, left) ↔
      number = .natural value ∧ rest = left := by
  cases number <;> simp [naturalOf]

theorem bind_naturalOf_eq_ok_iff {expected : String} {read : Except Fault (Number × List UInt8)} :
    (read >>= fun (number, rest) => naturalOf expected number rest) = .ok (value, left) ↔
      read = .ok (.natural value, left) := by
  rw [bind_eq_ok_iff]
  constructor
  · rintro ⟨⟨number, rest⟩, rfl, found⟩
    obtain ⟨rfl, rfl⟩ := naturalOf_eq_ok_iff.mp found
    rfl
  · rintro rfl
    exact ⟨_, rfl, rfl⟩

theorem conforms_natural (expected : String) : Conforms (natural expected) Value.natural? := by
  intro value bytes blanks rest written blank ends
  rw [natural, onValue_append _ blank written]
  cases value with
  | number literal =>
    cases written
    apply Option.ext
    rintro ⟨number, left⟩
    rw [toOption_eq_some_iff]
    cases sign : literal.isNegative with
    | true =>
      have shape : literal.bytes ++ rest =
          minus :: (literal.whole.bytes ++ (literal.tail ++ rest)) := by
        simp [NumberLiteral.bytes, sign]
      have refused : literal.natural? = none := by simp [NumberLiteral.natural?, sign]
      rw [shape, Value.natural?, refused]
      refine iff_of_false (fun found => ?_) (by simp)
      obtain ⟨positive, -⟩ := exists_natural_of_readNumber (bind_naturalOf_eq_ok_iff.mp found)
      cases positive
    | false =>
      have shape : literal.bytes ++ rest = digitByte literal.whole.first ::
          (literal.whole.rest.map digitByte ++ (literal.tail ++ rest)) := by
        simp [NumberLiteral.bytes, Digits.bytes, sign]
      have starts : startsWithDigit (literal.bytes ++ rest) = true := by
        simp [shape, startsWithDigit, isDigit_digitByte]
      split
      · rename_i other
        rw [shape] at other
        exact absurd (List.cons.inj other).1 (digitByte_ne_minus _)
      · rw [if_pos starts, bind_naturalOf_eq_ok_iff, readNumber_literal sign ends]
        simp [Value.natural?, Option.map_eq_some_iff]
  | _ =>
    obtain ⟨first, tail, rfl, opens⟩ := written.opens
    obtain ⟨notMinus, notDigit⟩ := opens.not_number (by simp)
    rw [List.cons_append]
    split
    · rename_i shape
      exact absurd (List.cons.inj shape).1 notMinus
    · rw [if_neg (by simpa [startsWithDigit] using notDigit)]
      rfl

theorem sound_natural (expected : String) : Sound (natural expected) Value.natural? := by
  apply sound_onValue
  intro bytes rest value found
  dsimp only at found
  split at found
  · obtain ⟨positive, -⟩ := exists_natural_of_readNumber (bind_naturalOf_eq_ok_iff.mp found)
    cases positive
  · split at found
    · obtain ⟨-, literal, meant, rfl⟩ :=
        exists_natural_of_readNumber (bind_naturalOf_eq_ok_iff.mp found)
      exact ⟨.number literal, stands_ascii (.number literal) literal.ascii, meant⟩
    · cases found

end Naturals

end ReleaseFeed.Json
