import ReleaseFeed.Manifest.Encode
import ReleaseFeed.Proofs.Json.Reading

namespace ReleaseFeed.Json

open Text.Utf8 (encode encode_append encode_cons)

section Texts

def CodeUnit.ofControl (value : Nat) : CodeUnit :=
  ⟨⟨⟨0, Nat.zero_lt_succ 15⟩, false⟩, ⟨⟨0, Nat.zero_lt_succ 15⟩, false⟩,
    ⟨⟨value / 16 % 16, Nat.mod_lt _ (Nat.zero_lt_succ 15)⟩, false⟩,
    ⟨⟨value % 16, Nat.mod_lt _ (Nat.zero_lt_succ 15)⟩, false⟩⟩

def Part.ofChar (c : Char) : Part :=
  if visible : isPlain c = true then .plain c visible
  else
    match c with
    | '"' => .escape .quote
    | '\\' => .escape .backslash
    | '\x08' => .escape .backspace
    | '\x0C' => .escape .formFeed
    | '\n' => .escape .lineFeed
    | '\r' => .escape .carriageReturn
    | '\t' => .escape .tab
    | c => .unit (.ofControl c.toNat)

def Part.char? : Part → Option Char
  | plain c _ => some c
  | escape letter => some letter.char
  | unit code =>
    if isTrailingUnit code.value || isLeadingUnit code.value then none
    else some (Char.ofNat code.value)

theorem Literal.text?_cons {part : Part} {c : Char} (stands : part.char? = some c)
    (literal : Literal) : text? (part :: literal) = literal.text?.map (c :: ·) := by
  cases part with
  | plain other visible =>
    obtain rfl := Option.some.inj stands
    rw [text?]
  | escape letter =>
    obtain rfl := Option.some.inj stands
    rw [text?]
  | unit code =>
    rw [Part.char?] at stands
    split at stands
    · cases stands
    · rename_i alone
      rw [Bool.or_eq_true, not_or] at alone
      obtain rfl := Option.some.inj stands
      rw [text?.eq_def (.unit code :: literal)]
      dsimp only
      rw [if_neg alone.1, if_neg alone.2]

theorem isPlain_eq_false {c : Char} (special : isPlain c = false) :
    c = '"' ∨ c = '\\' ∨ ∃ code : Fin 32, c = Char.ofNat code := by
  simp only [isPlain, Bool.and_eq_false_iff, decide_eq_false_iff_not,
    bne_eq_false_iff_eq] at special
  rcases special with (control | rfl) | rfl
  · refine .inr (.inr ⟨⟨c.toNat, by omega⟩, ?_⟩)
    exact (Char.ofNat_toNat c).symm
  · exact .inl rfl
  · exact .inr (.inl rfl)

theorem ofChar_special :
    ∀ code : Fin 32, (Part.ofChar (Char.ofNat code)).char? = some (Char.ofNat code) ∧
      (Part.ofChar (Char.ofNat code)).bytes = encode (writeChar (Char.ofNat code)) := by
  decide +kernel

theorem Part.char?_ofChar (c : Char) : (ofChar c).char? = some c := by
  by_cases visible : isPlain c = true
  · rw [ofChar, dif_pos visible]
    rfl
  · rcases isPlain_eq_false (Bool.not_eq_true _ ▸ visible) with rfl | rfl | ⟨code, rfl⟩
    · rfl
    · rfl
    · exact (ofChar_special code).1

theorem writeChar_of_isPlain {c : Char} (visible : isPlain c = true) : writeChar c = [c] := by
  unfold writeChar
  split
  · contradiction
  · contradiction
  · contradiction
  · contradiction
  · contradiction
  · contradiction
  · contradiction
  · simp only [isPlain, Bool.and_eq_true, decide_eq_true_eq] at visible
    exact if_neg (Nat.not_lt.mpr visible.1.1)

theorem Part.bytes_ofChar (c : Char) : (ofChar c).bytes = encode (writeChar c) := by
  by_cases visible : isPlain c = true
  · rw [writeChar_of_isPlain visible, ofChar, dif_pos visible, encode_cons]
    exact (List.append_nil _).symm
  · rcases isPlain_eq_false (Bool.not_eq_true _ ▸ visible) with rfl | rfl | ⟨code, rfl⟩
    · rfl
    · rfl
    · exact (ofChar_special code).2

def Literal.ofText (text : List Char) : Literal := text.map Part.ofChar

@[simp]
theorem Literal.text?_ofText (text : List Char) : (ofText text).text? = some text := by
  induction text with
  | nil => rfl
  | cons c text ih =>
    rw [ofText, List.map_cons, text?_cons (Part.char?_ofChar c)]
    change (ofText text).text?.map (c :: ·) = _
    rw [ih]
    rfl

theorem Literal.bytes_ofText (text : List Char) :
    (ofText text).bytes = encode (text.flatMap writeChar) := by
  induction text with
  | nil => rfl
  | cons c text ih =>
    rw [ofText, List.map_cons, bytes_cons, List.flatMap_cons, encode_append, Part.bytes_ofChar]
    exact congrArg _ ih

theorem encode_writeText_append (text rest : List Char) :
    encode (writeText text ++ rest) =
      quote :: ((Literal.ofText text).bytes ++ quote :: encode rest) := by
  rw [writeText, List.append_assoc, List.cons_append, encode_cons, encode_append, encode_append,
    Literal.bytes_ofText]
  rfl

def Value.ofText (text : List Char) : Value := .string (.ofText text)

@[simp]
theorem Value.text?_ofText (text : List Char) : (ofText text).text? = some text :=
  Literal.text?_ofText text

/-- An object with keys that are spelled as the writer does. -/
def Value.ofMembers (members : List (String × Value)) : Value :=
  .object (members.map fun member => (.ofText member.1.toList, member.2))

theorem writes_text (text : List Char) : Writes (.ofText text) (encode (writeText text)) := by
  have shape := encode_writeText_append text []
  rw [List.append_nil] at shape
  rw [shape]
  exact .string _

end Texts

section Lists

variable {α : Type} {writes : α → List UInt8 → Prop} {members : List α}
  {written : List (List Char)}

theorem separated_cons (first : List Char) (others : List (List Char)) :
    separated (first :: others) = first ++ others.flatMap fun text => ',' :: text := by
  induction others generalizing first with
  | nil => simp [separated]
  | cons second others ih =>
    rw [separated, List.intercalate_cons_cons, ← separated, ih, List.flatMap_cons]
    simp

theorem listed_behind
    (each : List.Forall₂ (fun member text => writes member (encode text)) members written) :
    Listed writes false members (encode (written.flatMap fun text => ',' :: text)) := by
  induction each with
  | nil => exact .nil blank_nil
  | cons here later ih =>
    have listed := Listed.next blank_nil blank_nil here ih
    rw [List.nil_append, List.nil_append] at listed
    rw [List.flatMap_cons, List.cons_append, encode_cons, encode_append]
    exact listed

theorem listed_separated
    (each : List.Forall₂ (fun member text => writes member (encode text)) members written) :
    Listed writes true members (encode (separated written)) := by
  cases each with
  | nil => exact .nil blank_nil
  | cons here later =>
    rw [separated_cons, encode_append, ← List.nil_append (encode _ ++ _)]
    exact .first blank_nil here (listed_behind later)

theorem writes_array {elements : List Value}
    (each : List.Forall₂ (fun element text => Writes element (encode text)) elements written) :
    Writes (.array elements) (encode (writeArray written)) := by
  rw [writeArray, List.cons_append, encode_cons, encode_append]
  exact .array (listed_separated each)

theorem writesMember {key : String} {value : Value} {text : List Char}
    (writes : Writes value (encode text)) :
    WritesMember (.ofText key.toList, value) (encode (writeString key ++ ':' :: text)) := by
  rw [writeString, encode_writeText_append, encode_cons]
  exact .of _ blank_nil blank_nil writes

theorem writes_object {members : List (String × Value)} {written : List (String × List Char)}
    (each : List.Forall₂ (fun member text => member.1 = text.1 ∧ Writes member.2 (encode text.2))
      members written) :
    Writes (.ofMembers members) (encode (writeObject written)) := by
  rw [writeObject, List.cons_append, encode_cons, encode_append]
  refine .object (listed_separated ?_)
  rw [List.forall₂_map_left_iff, List.forall₂_map_right_iff]
  refine each.imp ?_
  rintro ⟨key, value⟩ ⟨_, text⟩ ⟨rfl, writes⟩
  exact writesMember writes

end Lists
end ReleaseFeed.Json
