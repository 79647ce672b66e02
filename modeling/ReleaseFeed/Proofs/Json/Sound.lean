import ReleaseFeed.Proofs.Json.Front
import ReleaseFeed.Proofs.Json.Record

namespace ReleaseFeed.Json

open Text.Utf8 (repair repairs_ascii)

/-- The reader gives nothing but what `means` makes of a value at the front of the bytes. -/
def Sound {α : Type} (read : Reader α) (means : Value → Option α) : Prop :=
  ∀ ⦃bytes rest : List UInt8⦄ ⦃content : α⦄, read bytes = .ok (content, rest) →
    ∃ value, Stands Writes value bytes rest ∧ means value = some content

section Scalars

variable {α : Type} {read : Reader α} {means : Value → Option α}

theorem sound_onValue (sound : Sound read means) : Sound (onValue read) means := by
  intro bytes rest content found
  rw [onValue] at found
  split at found
  · cases found
  · obtain ⟨blanks, blank, shape⟩ := exists_blanks (Eq.refl (skipBlank bytes))
    obtain ⟨value, stands, meant⟩ := sound found
    rw [shape]
    exact ⟨value, stands.behind blank, meant⟩

theorem sound_readText (expected : String) : Sound (readText expected) Value.text? := by
  apply sound_onValue
  intro bytes rest text found
  dsimp only at found
  split at found
  · obtain ⟨literal, spelled, stands⟩ := exists_spelled_of_readString found
    exact ⟨.string literal, spelled.stands, stands⟩
  · cases found

theorem Sound.map {β : Type} (sound : Sound read means) (f : α → β) :
    Sound (fun bytes => do
      let (value, rest) ← read bytes
      return (f value, rest)) fun value => (means value).map f := by
  intro bytes rest result found
  rw [bind_eq_ok_iff] at found
  obtain ⟨⟨content, left⟩, here, found⟩ := found
  obtain ⟨rfl, rfl⟩ := Prod.mk.inj (Except.ok.inj found)
  obtain ⟨value, stands, meant⟩ := sound here
  exact ⟨value, stands, Option.map_eq_some_iff.mpr ⟨content, meant, rfl⟩⟩

theorem sound_string : Sound string fun value => value.text?.map String.ofList :=
  (sound_readText "a string").map String.ofList

theorem sound_optional (sound : Sound read means) (strict : means .null = none) :
    Sound (optional read) (Value.optional? means) := by
  intro bytes rest result found
  rw [optional] at found
  obtain ⟨blanks, blank, shape⟩ := exists_blanks (Eq.refl (skipBlank bytes))
  rw [shape]
  split at found
  · rename_i start
    rw [start]
    rw [bind_eq_ok_iff] at found
    obtain ⟨left, word, found⟩ := found
    obtain ⟨rfl, rfl⟩ := Prod.mk.inj (Except.ok.inj found)
    rw [eq_of_expectWord word]
    have stands : Stands Writes .null (ascii "null" ++ left) left :=
      stands_word Writes.null (by decide)
    exact ⟨.null, stands.behind blank, rfl⟩
  · rw [bind_eq_ok_iff] at found
    obtain ⟨⟨content, left⟩, here, found⟩ := found
    obtain ⟨rfl, rfl⟩ := Prod.mk.inj (Except.ok.inj found)
    obtain ⟨value, stands, meant⟩ := sound here
    refine ⟨value, stands.behind blank, ?_⟩
    cases value with
    | null =>
      rw [strict] at meant
      cases meant
    | _ =>
      rw [Value.optional?, meant]
      · rfl
      · simp

end Scalars

section Lists

variable {α : Type} {bytes rest : List UInt8}

/-- An array goes on behind a gap, or ends behind blanks. -/
theorem nextElement_cases {isFirst goesOn : Bool}
    (found : nextElement isFirst bytes = .ok (goesOn, rest)) :
    (goesOn = true ∧ ∃ gap, Gap isFirst gap ∧ bytes = gap ++ rest) ∨
      (goesOn = false ∧ ∃ blanks tail, Blank blanks ∧ rest = closeArray :: tail ∧
        bytes = blanks ++ rest) := by
  rw [nextElement] at found
  split at found
  · cases found
  · rename_i left
    obtain ⟨blanks, blank, rfl⟩ := exists_blanks left
    obtain ⟨rfl, rfl⟩ := Prod.mk.inj (Except.ok.inj found)
    exact .inr ⟨rfl, blanks, _, blank, rfl, rfl⟩
  rename_i left
  obtain ⟨blanks, blank, rfl⟩ := exists_blanks left
  cases isFirst with
  | true =>
    obtain ⟨rfl, rfl⟩ := Prod.mk.inj (Except.ok.inj found)
    exact .inl ⟨rfl, blanks, .first blank, rfl⟩
  | false =>
    rw [if_neg Bool.false_ne_true] at found
    split at found
    · rename_i isComma
      obtain rfl := beq_iff_eq.mp isComma
      split at found
      · cases found
      · cases found
      · obtain ⟨ahead, blankAhead, shape⟩ := exists_blanks rfl
        obtain ⟨rfl, rfl⟩ := Prod.mk.inj (Except.ok.inj found)
        refine .inl ⟨rfl, blanks ++ comma :: ahead, .next blank blankAhead, ?_⟩
        rw [List.append_assoc, List.cons_append, ← shape]
    · cases found

theorem exists_blanks_of_closeElements (closed : closeElements bytes = .ok rest) :
    ∃ blanks, Blank blanks ∧ bytes = blanks ++ closeArray :: rest := by
  rw [closeElements] at closed
  split at closed
  · cases closed
  · rename_i left
    obtain rfl := Except.ok.inj closed
    exact exists_blanks left
  · split at closed <;> cases closed
  · cases closed

variable {item : Reader α} {means : Value → Option α}

theorem exists_elements (sound : Sound item means) {fuel : Nat} {isFirst : Bool} {values : List α}
    (found : readElements item fuel isFirst bytes = .ok (values, rest)) :
    ∃ elements, StandsAll Writes isFirst elements bytes rest ∧
      elements.mapM means = some values ∧ ∃ tail, rest = closeArray :: tail := by
  induction fuel generalizing isFirst bytes values with
  | zero => cases found
  | succ fuel ih =>
    rw [readElements, bind_eq_ok_iff] at found
    obtain ⟨⟨goesOn, left⟩, next, found⟩ := found
    rcases nextElement_cases next with ⟨rfl, gap, apart, rfl⟩ | ⟨rfl, blanks, tail, blank, rfl, rfl⟩
    · change (item left >>= _) = _ at found
      rw [bind_eq_ok_iff] at found
      obtain ⟨⟨first, left⟩, here, found⟩ := found
      dsimp only at found
      rw [bind_eq_ok_iff] at found
      obtain ⟨⟨others, left⟩, later, found⟩ := found
      obtain ⟨rfl, rfl⟩ := Prod.mk.inj (Except.ok.inj found)
      obtain ⟨value, stands, meant⟩ := sound here
      obtain ⟨elements, standsLater, meantLater, closes⟩ := ih later
      refine ⟨value :: elements, stands.all apart standsLater, ?_, closes⟩
      rw [List.mapM_cons, meant, meantLater]
      rfl
    · obtain ⟨rfl, rfl⟩ := Prod.mk.inj (Except.ok.inj found)
      exact ⟨[], standsAll_nil blank, rfl, tail, rfl⟩

theorem sound_list (sound : Sound item means) : Sound (list item) (Value.list? means) := by
  apply sound_onValue
  intro bytes rest values found
  dsimp only at found
  split at found
  · rw [bind_eq_ok_iff] at found
    obtain ⟨⟨elements, left⟩, inside, found⟩ := found
    dsimp only at found
    rw [bind_eq_ok_iff] at found
    obtain ⟨left, closed, found⟩ := found
    obtain ⟨rfl, rfl⟩ := Prod.mk.inj (Except.ok.inj found)
    obtain ⟨elements, stands, meant, tail, rfl⟩ := exists_elements sound inside
    have same : closeElements (closeArray :: tail) = .ok tail := closeElements_append blank_nil
    obtain rfl : tail = left := Except.ok.inj (same.symm.trans closed)
    exact ⟨.array elements, stands.array, meant⟩
  · cases found

end Lists

section Records

variable {σ : Type} {form : Form σ} {bytes rest : List UInt8}

theorem Sound.field {α : Type} {key : String} {isRequired : Bool} {read : Reader α}
    {means : Value → Option α} {conforms : Conforms read means} {store : σ → α → σ}
    (sound : Sound read means) : Sound (Field.of key isRequired conforms store).member.read
      (Field.of key isRequired conforms store).change? :=
  sound.map fun content record => store record content

/-- An object goes on behind a gap and a quote, or ends behind blanks. -/
theorem nextKey_cases {isFirst goesOn : Bool}
    (found : nextKey isFirst bytes = .ok (goesOn, rest)) :
    (goesOn = true ∧ ∃ gap, Gap isFirst gap ∧ bytes = gap ++ quote :: rest) ∨
      (goesOn = false ∧ ∃ blanks tail, Blank blanks ∧ rest = closeObject :: tail ∧
        bytes = blanks ++ rest) := by
  rw [nextKey] at found
  split at found
  · cases found
  · rename_i left
    obtain ⟨blanks, blank, rfl⟩ := exists_blanks left
    obtain ⟨rfl, rfl⟩ := Prod.mk.inj (Except.ok.inj found)
    exact .inr ⟨rfl, blanks, _, blank, rfl, rfl⟩
  rename_i left
  obtain ⟨blanks, blank, rfl⟩ := exists_blanks left
  cases isFirst with
  | true =>
    rw [if_pos rfl] at found
    split at found
    · rename_i isQuote
      obtain rfl := beq_iff_eq.mp isQuote
      obtain ⟨rfl, rfl⟩ := Prod.mk.inj (Except.ok.inj found)
      exact .inl ⟨rfl, blanks, .first blank, rfl⟩
    · cases found
  | false =>
    rw [if_neg Bool.false_ne_true] at found
    split at found
    · rename_i isComma
      obtain rfl := beq_iff_eq.mp isComma
      split at found
      · cases found
      · rename_i left
        obtain ⟨ahead, blankAhead, rfl⟩ := exists_blanks left
        obtain ⟨rfl, rfl⟩ := Prod.mk.inj (Except.ok.inj found)
        refine .inl ⟨rfl, blanks ++ comma :: ahead, .next blank blankAhead, ?_⟩
        rw [List.append_assoc, List.cons_append]
        rfl
      · cases found
      · cases found
    · cases found

theorem Schema.exists_of_close? {schema : Schema σ} {seen : List String} {record result : σ}
    {tail : List UInt8}
    (closed : schema.close? ((seen, record), closeObject :: tail) = some (result, rest)) :
    ¬ (schema.missing? seen).isSome = true ∧ record = result ∧ tail = rest := by
  rw [close?, Option.ite_none_left_eq_some] at closed
  obtain ⟨complete, same⟩ := closed
  obtain ⟨rfl, rfl⟩ := Prod.mk.inj (Option.some.inj same)
  have left : leaveObject (closeObject :: tail) = tail := leaveObject_append blank_nil
  exact ⟨complete, rfl, left.symm⟩

theorem exists_members (sound : ∀ field ∈ form.fields, Sound field.member.read field.change?)
    {fuel : Nat} {isFirst : Bool} {seen : List String} {record result : σ}
    {read : (List String × σ) × List UInt8}
    (found : form.schema.readMembers fuel isFirst seen record bytes = .ok read)
    (closed : form.schema.close? read = some (result, rest)) :
    ∃ members, StandsAll WritesMember isFirst members bytes (closeObject :: rest) ∧
      form.resume? seen members record = some result := by
  induction fuel generalizing isFirst seen record bytes with
  | zero => cases found
  | succ fuel ih =>
    rw [Schema.readMembers, bind_eq_ok_iff] at found
    obtain ⟨⟨goesOn, left⟩, next, found⟩ := found
    rcases nextKey_cases next with ⟨rfl, gap, apart, rfl⟩ | ⟨rfl, blanks, tail, blank, rfl, rfl⟩
    · change (readString left >>= _) = _ at found
      rw [bind_eq_ok_iff] at found
      obtain ⟨⟨key, left⟩, name, found⟩ := found
      obtain ⟨spelled, spells, text⟩ := exists_spelled_of_readString name
      dsimp only at found
      rw [Form.schema_find?] at found
      cases known : form.find? key with
      | none =>
        rw [known] at found
        change (expectColon left >>= _) = _ at found
        rw [bind_eq_ok_iff] at found
        obtain ⟨left, colon, found⟩ := found
        rw [bind_eq_ok_iff] at found
        obtain ⟨left, skipped, later⟩ := found
        obtain ⟨blanks, blank, rfl⟩ := exists_blanks_of_expectColon colon
        obtain ⟨value, stands⟩ := exists_stands_of_skipValue skipped
        obtain ⟨members, standsLater, completed⟩ := ih later
        refine ⟨_, (spells.stands_member blank stands).all apart standsLater, ?_⟩
        rw [Form.resume?_cons, text, Option.bind_some, known]
        exact completed
      | some field =>
        rw [known] at found
        change (if seen.contains field.member.key then _ else _ : Except Fault _) = _ at found
        split at found
        · cases found
        rename_i unseen
        rw [bind_eq_ok_iff] at found
        obtain ⟨left, colon, found⟩ := found
        rw [bind_eq_ok_iff] at found
        obtain ⟨⟨change, left⟩, here, later⟩ := found
        obtain ⟨blanks, blank, rfl⟩ := exists_blanks_of_expectColon colon
        obtain ⟨inside, -⟩ := Form.mem_of_find? known
        obtain ⟨value, stands, meant⟩ := sound field inside here
        obtain ⟨members, standsLater, completed⟩ := ih later
        refine ⟨_, (spells.stands_member blank stands).all apart standsLater, ?_⟩
        rw [Form.resume?_cons, text, Option.bind_some, known]
        dsimp only
        rw [if_neg unseen, meant]
        exact completed
    · obtain rfl := Except.ok.inj found
      obtain ⟨complete, rfl, rfl⟩ := Schema.exists_of_close? closed
      refine ⟨[], standsAll_nil blank, ?_⟩
      rw [Form.resume?_nil, if_neg complete]

theorem exists_inOrder (schema : Schema σ) {fields : List (Field σ)}
    (sound : ∀ field ∈ fields, Sound field.member.read field.change?)
    {index : Nat} {isFirst : Bool} (first : (index == 0) = isFirst) {record result : σ}
    (found : (schema.readInOrder (fields.map Field.member) index record bytes).toOption.bind
      closeArray? = some (result, rest)) :
    ∃ elements, StandsAll Writes isFirst elements bytes (closeArray :: rest) ∧
      Form.inOrder? fields elements record = some result := by
  induction fields generalizing index isFirst record bytes with
  | nil =>
    change closeArray? (record, bytes) = _ at found
    rw [closeArray?, Option.map_eq_some_iff] at found
    obtain ⟨left, closed, same⟩ := found
    obtain ⟨rfl, rfl⟩ := Prod.mk.inj same
    obtain ⟨blanks, blank, rfl⟩ := exists_blanks_of_closeElements (toOption_eq_some_iff.mp closed)
    exact ⟨[], standsAll_nil blank, rfl⟩
  | cons field fields ih =>
    obtain ⟨here, others⟩ := List.forall_mem_cons.mp sound
    cases next : nextElement (index == 0) bytes with
    | error fault =>
      rw [List.map_cons, Schema.readInOrder, next] at found
      cases found
    | ok answer =>
      obtain ⟨goesOn, left⟩ := answer
      rw [first] at next
      rcases nextElement_cases next with
        ⟨rfl, gap, apart, rfl⟩ | ⟨rfl, blanks, tail, blank, rfl, rfl⟩
      · rw [List.map_cons, Schema.readInOrder, first, next, ok_bind] at found
        change (field.member.read left >>= _).toOption.bind _ = _ at found
        rw [toOption_bind, Option.bind_assoc, Option.bind_eq_some_iff] at found
        obtain ⟨⟨change, left⟩, made, later⟩ := found
        obtain ⟨value, stands, meant⟩ := here (toOption_eq_some_iff.mp made)
        obtain ⟨elements, standsLater, completed⟩ := ih others rfl later
        refine ⟨value :: elements, stands.all apart standsLater, ?_⟩
        rw [Form.inOrder?, meant]
        exact completed
      · -- the array ends here, and all fields that are left see its end
        rw [readInOrder_listed schema first (.nil blank), Option.map_eq_some_iff] at found
        obtain ⟨record, completed, same⟩ := found
        obtain ⟨rfl, rfl⟩ := Prod.mk.inj same
        exact ⟨[], standsAll_nil blank, completed⟩

/-- A record that was read is what its form takes from a written value. -/
theorem Form.sound (sound : ∀ field ∈ form.fields, Sound field.member.read field.change?) :
    Sound form.schema.read form.ofValue? := by
  apply sound_onValue
  intro bytes rest record found
  dsimp only at found
  split at found
  · rw [← toOption_eq_some_iff, Schema.readObject_toOption, Option.bind_eq_some_iff] at found
    obtain ⟨read, inside, closed⟩ := found
    obtain ⟨members, stands, completed⟩ :=
      exists_members sound (toOption_eq_some_iff.mp inside) closed
    exact ⟨.object members, stands.object, completed⟩
  · rename_i behind
    have closed : (form.schema.readInOrder (form.fields.map Field.member) 0 form.schema.blank
        behind).toOption.bind closeArray? = some (record, rest) := by
      rw [← form.members_eq]
      rw [bind_eq_ok_iff] at found
      obtain ⟨⟨built, left⟩, inside, found⟩ := found
      dsimp only at found
      rw [bind_eq_ok_iff] at found
      obtain ⟨left, closed, found⟩ := found
      obtain ⟨rfl, rfl⟩ := Prod.mk.inj (Except.ok.inj found)
      rw [inside, toOption_ok, Option.bind_some, closeArray?, closed]
      rfl
    obtain ⟨elements, stands, completed⟩ := exists_inOrder form.schema sound rfl closed
    exact ⟨.array elements, stands.array, completed⟩
  · cases found

end Records

/-- A document that was read is one, up to repair, of a value that means what was read. -/
theorem exists_document {α : Type} {read : Reader α} {means : Value → Option α}
    (sound : Sound read means) {bytes : List UInt8} {content : α}
    (found : document read bytes = .ok content) :
    ∃ value, Document value (repair bytes) ∧ means value = some content := by
  rw [document, bind_eq_ok_iff] at found
  obtain ⟨⟨result, rest⟩, here, found⟩ := found
  dsimp only at found
  split at found
  · rename_i left
    obtain rfl := Except.ok.inj found
    obtain ⟨behind, blankBehind, rfl⟩ := exists_blanks left
    obtain ⟨value, ⟨rfl, blank, repairs, written⟩, meant⟩ := sound here
    refine ⟨value, ?_, meant⟩
    rw [List.append_nil, repairs_ascii blank.ascii, repairs, (repairs_ascii blankBehind.ascii).eq]
    exact .of blank written blankBehind
  · cases found

end ReleaseFeed.Json
