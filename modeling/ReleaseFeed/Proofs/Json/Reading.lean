import ReleaseFeed.Json.Reader
import ReleaseFeed.Proofs.Json.Token

namespace ReleaseFeed.Json

/-- The reader gives what `means` makes of a value, and nothing where that is nothing. -/
def Conforms {α : Type} (read : Reader α) (means : Value → Option α) : Prop :=
  ∀ ⦃value : Value⦄ ⦃bytes blanks rest : List UInt8⦄, Writes value bytes → Blank blanks →
    Ends rest → (read (blanks ++ (bytes ++ rest))).toOption =
      (means value).map fun meaning => (meaning, rest)

namespace Value

def text? : Value → Option (List Char)
  | string literal => literal.text?
  | _ => none

/-- What `means` makes of a value other than `null`. -/
def optional? {α : Type} (means : Value → Option α) : Value → Option (Option α)
  | null => some none
  | value => (means value).map some

def list? {α : Type} (means : Value → Option α) : Value → Option (List α)
  | array elements => elements.mapM means
  | _ => none

end Value

section Openings

variable {value : Value} {bytes rest : List UInt8}

/-- Which kind of value a written value is shows in its first byte. -/
theorem Value.Opens.kind {byte : UInt8} (opens : value.Opens byte) :
    (byte = letterN → value = .null) ∧ (byte = quote → ∃ literal, value = .string literal) ∧
      (byte = openArray → ∃ elements, value = .array elements) ∧
      (byte = openObject → ∃ members, value = .object members) := by
  cases value with
  | boolean value => cases value <;> subst opens <;> simp +decide
  | number literal =>
    obtain ⟨notNull, notQuote, notArray, notObject⟩ := opens.number_ne
    simp [notNull, notQuote, notArray, notObject]
  | _ =>
    subst opens
    simp +decide

theorem onValue_append {α : Type} (read : Reader α) {blanks : List UInt8} (blank : Blank blanks)
    (written : Writes value bytes) :
    onValue read (blanks ++ (bytes ++ rest)) = read (bytes ++ rest) := by
  rw [onValue, skipBlank_append_written blank written]
  obtain ⟨first, tail, rfl, -⟩ := written.opens
  rfl

end Openings

section Scalars

variable {α : Type}

theorem conforms_readText (expected : String) : Conforms (readText expected) Value.text? := by
  intro value bytes blanks rest written blank ends
  rw [readText, onValue_append _ blank written]
  cases value with
  | string literal =>
    cases written
    rw [List.cons_append, List.append_assoc]
    exact readString_bytes literal rest
  | _ =>
    obtain ⟨first, tail, rfl, opens⟩ := written.opens
    rw [List.cons_append]
    split
    · rename_i shape
      obtain ⟨_, other⟩ := opens.kind.2.1 (List.cons.inj shape).1
      cases other
    · rfl

theorem Conforms.map {β : Type} {read : Reader α} {means : Value → Option α}
    (conforms : Conforms read means) (f : α → β) :
    Conforms (fun bytes => do
      let (value, rest) ← read bytes
      return (f value, rest)) fun value => (means value).map f := by
  intro value bytes blanks rest written blank ends
  change _ = ((means value).map f).map _
  rw [toOption_bind, conforms written blank ends]
  cases means value <;> rfl

theorem conforms_string : Conforms string fun value => value.text?.map String.ofList :=
  (conforms_readText "a string").map String.ofList

theorem conforms_optional {read : Reader α} {means : Value → Option α}
    (conforms : Conforms read means) : Conforms (optional read) (Value.optional? means) := by
  intro value bytes blanks rest written blank ends
  rw [optional, skipBlank_append_written blank written]
  cases value with
  | null =>
    cases written
    change (expectWord restOfNull (restOfNull ++ rest) >>= fun rest =>
      pure (none, rest)).toOption = _
    rw [expectWord_append]
    rfl
  | _ =>
    have inner := conforms written blank_nil ends
    rw [List.nil_append] at inner
    obtain ⟨first, tail, rfl, opens⟩ := written.opens
    rw [List.cons_append] at inner ⊢
    split
    · rename_i shape
      cases opens.kind.1 (List.cons.inj shape).1
    · rw [toOption_bind, inner]
      simp [Value.optional?, Option.map_eq_bind, Option.bind_assoc]

end Scalars

section Lists

variable {α : Type} {blanks rest : List UInt8}

theorem nextElement_close {isFirst : Bool} (blank : Blank blanks) :
    nextElement isFirst (blanks ++ closeArray :: rest) = .ok (false, closeArray :: rest) := by
  rw [nextElement, skipBlank_append_cons blank rfl]
  rfl

theorem nextElement_first {value : Value} {bytes : List UInt8} (blank : Blank blanks)
    (written : Writes value bytes) :
    nextElement true (blanks ++ (bytes ++ rest)) = .ok (true, bytes ++ rest) := by
  rw [nextElement, skipBlank_append_written blank written]
  obtain ⟨first, tail, rfl, opens⟩ := written.opens
  rw [List.cons_append]
  split
  · contradiction
  · rename_i shape
    exact absurd (List.cons.inj shape).1 opens.apart.2.1
  · rename_i shape
    obtain ⟨rfl, rfl⟩ := List.cons.inj shape
    rfl

theorem nextElement_next {ahead bytes : List UInt8} {value : Value} (blank : Blank blanks)
    (blankAhead : Blank ahead) (written : Writes value bytes) :
    nextElement false (blanks ++ comma :: (ahead ++ (bytes ++ rest))) =
      .ok (true, bytes ++ rest) := by
  rw [nextElement, skipBlank_append_cons blank rfl]
  split
  · contradiction
  · rename_i shape
    exact absurd (List.cons.inj shape).1 (by decide)
  · rename_i shape
    obtain ⟨rfl, rfl⟩ := List.cons.inj shape
    rw [if_neg Bool.false_ne_true, if_pos BEq.rfl, skipBlank_append_written blankAhead written]
    obtain ⟨first, tail, rfl, opens⟩ := written.opens
    rw [List.cons_append]
    split
    · contradiction
    · rename_i shape
      exact absurd (List.cons.inj shape).1 opens.apart.2.1
    · rfl

theorem closeElements_append (blank : Blank blanks) :
    closeElements (blanks ++ closeArray :: rest) = .ok rest := by
  rw [closeElements, skipBlank_append_cons blank rfl]
  rfl

variable {item : Reader α} {means : Value → Option α}

theorem readElements_step (conforms : Conforms item means) {fuel : Nat} {isFirst : Bool}
    {element : Value} {elements : List Value} {bytes written further : List UInt8}
    (writes : Writes element written) (ends : Ends further)
    (goesOn : nextElement isFirst bytes = .ok (true, written ++ further))
    (later : (readElements item fuel false further).toOption =
      (elements.mapM means).map fun values => (values, rest)) :
    (readElements item (fuel + 1) isFirst bytes).toOption =
      ((element :: elements).mapM means).map fun values => (values, rest) := by
  have here := conforms writes blank_nil ends
  rw [List.nil_append] at here
  rw [readElements, goesOn, ok_bind, List.mapM_cons]
  change (item (written ++ further) >>= _).toOption = _
  rw [toOption_bind, here]
  cases means element with
  | none => rfl
  | some value =>
    rw [Option.map_some, Option.bind_some, toOption_bind, later]
    cases elements.mapM means <;> rfl

theorem readElements_listed (conforms : Conforms item means) {fuel : Nat} {isFirst : Bool}
    {elements : List Value} {bytes : List UInt8} (listed : Listed Writes isFirst elements bytes)
    (enough : elements.length < fuel) :
    (readElements item fuel isFirst (bytes ++ closeArray :: rest)).toOption =
      (elements.mapM means).map fun values => (values, closeArray :: rest) := by
  obtain ⟨fuel, rfl⟩ := Nat.exists_eq_add_one_of_ne_zero (Nat.ne_zero_of_lt enough)
  induction listed generalizing fuel with
  | nil blank =>
    rw [readElements, nextElement_close blank]
    rfl
  | first blank written others ih =>
    rw [List.length_cons] at enough
    obtain ⟨fuel, rfl⟩ := Nat.exists_eq_add_of_le' (by omega : 1 ≤ fuel)
    rw [List.append_assoc, List.append_assoc]
    exact readElements_step conforms written (others.ends (ends_closeArray rest))
      (nextElement_first blank written) (ih fuel (by omega))
  | next blankBehind blankAhead written others ih =>
    rw [List.length_cons] at enough
    obtain ⟨fuel, rfl⟩ := Nat.exists_eq_add_of_le' (by omega : 1 ≤ fuel)
    rw [List.append_assoc, List.cons_append, List.append_assoc, List.append_assoc]
    exact readElements_step conforms written (others.ends (ends_closeArray rest))
      (nextElement_next blankBehind blankAhead written) (ih fuel (by omega))

theorem conforms_list (conforms : Conforms item means) :
    Conforms (list item) (Value.list? means) := by
  intro value bytes blanks rest written blank ends
  rw [list, onValue_append _ blank written]
  cases value with
  | array elements =>
    cases written with
    | @array elements bytes inside =>
      have enough := inside.length_le Writes.length_pos
      rw [List.cons_append, List.append_assoc, List.singleton_append]
      change (readElements item _ true (bytes ++ closeArray :: rest) >>= _).toOption =
        (elements.mapM means).map _
      rw [toOption_bind,
        readElements_listed conforms inside (by rw [List.length_append]; omega)]
      cases elements.mapM means <;> rfl
  | _ =>
    obtain ⟨first, tail, rfl, opens⟩ := written.opens
    rw [List.cons_append]
    split
    · rename_i shape
      obtain ⟨_, other⟩ := opens.kind.2.2.1 (List.cons.inj shape).1
      cases other
    · rfl

end Lists

/-- A document is what its value means, or is refused if it means nothing. -/
theorem document_of_conforms {α : Type} {read : Reader α} {means : Value → Option α}
    (conforms : Conforms read means) {value : Value} {bytes : List UInt8}
    (written : Document value bytes) : (document read bytes).toOption = means value := by
  cases written with
  | of blankAhead written blankBehind =>
    have ends := ends_append_of_blank blankBehind ends_nil
    rw [List.append_nil] at ends
    rw [document, toOption_bind, conforms written blankAhead ends]
    cases means value with
    | none => rfl
    | some meaning =>
      have behind : skipBlank (_ ++ []) = [] := skipBlank_append blankBehind (by simp)
      rw [List.append_nil] at behind
      rw [Option.map_some, Option.bind_some]
      dsimp only
      rw [behind]
      rfl

end ReleaseFeed.Json
