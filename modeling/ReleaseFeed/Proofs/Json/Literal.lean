import ReleaseFeed.Proofs.Json.Syntax
import ReleaseFeed.Proofs.Text.Utf8
import ReleaseFeed.Proofs.Traversal

namespace ReleaseFeed.Json

section Bytes

theorem hexValue?_byte (digit : HexDigit) : hexValue? digit.byte = some digit.value.val := by
  obtain ⟨value, isCapital⟩ := digit
  revert value isCapital
  decide

theorem hexQuad?_bytes (code : CodeUnit) : hexQuad? code.bytes = some code.value := by
  simp [hexQuad?, CodeUnit.bytes, List.mapM_cons, hexValue?_byte, CodeUnit.value]

theorem readHexQuad_bytes (code : CodeUnit) (rest : List UInt8) :
    readHexQuad (code.bytes ++ rest) = .ok (code.value, rest) := by
  have value := hexQuad?_bytes code
  rw [CodeUnit.bytes] at value
  simp [readHexQuad, CodeUnit.bytes, value]

theorem shortEscape?_letter (escape : Escape) : shortEscape? escape.letter = some escape.char := by
  cases escape <;> rfl

theorem letter_ne_letterU (escape : Escape) : (escape.letter == letterU) = false := by
  cases escape <;> rfl

/-- No byte of a plain character ends a piece: it is the character itself or not ASCII. -/
theorem endsPiece_of_isPlain {c : Char} (visible : isPlain c = true) :
    ∀ byte ∈ String.utf8EncodeChar c, endsPiece byte = false := by
  intro byte inside
  simp only [isPlain, Bool.and_eq_true, decide_eq_true_eq, bne_iff_ne, ne_eq] at visible
  obtain ⟨⟨low, notQuote⟩, notBackslash⟩ := visible
  have apart (other : Char) (different : c ≠ other) : c.toNat ≠ other.toNat :=
    fun same => different (Char.toNat_inj.mp same)
  have first : c.toNat ≠ 0x22 := apart '"' notQuote
  have second : c.toNat ≠ 0x5C := apart '\\' notBackslash
  rw [← Bool.not_eq_true]
  intro ends
  simp only [endsPiece, isControl, Bool.or_eq_true, beq_iff_eq, decide_eq_true_eq,
    UInt8.lt_iff_toNat_lt] at ends
  rcases Text.Utf8.mem_encodeChar inside with same | above
  · rcases ends with (rfl | rfl) | control
    · exact first same.symm
    · exact second same.symm
    · have : byte.toNat < 0x20 := control
      omega
  · rcases ends with (rfl | rfl) | control
    · contradiction
    · contradiction
    · have : byte.toNat < 0x20 := control
      omega

theorem Part.length_bytes_pos (part : Part) : 0 < part.bytes.length := by
  cases part with
  | plain c visible => exact List.length_pos_of_ne_nil (Text.Utf8.encodeChar_ne_nil c)
  | escape letter => simp [Part.bytes]
  | unit code => simp [Part.bytes]

theorem Literal.length_le_bytes (literal : Literal) :
    List.length literal ≤ literal.bytes.length := by
  induction literal with
  | nil => exact Nat.le_refl 0
  | cons part others ih =>
    have positive := part.length_bytes_pos
    rw [bytes_cons, List.length_cons, List.length_append]
    omega

variable (others : Literal) (rest : List UInt8)

theorem Literal.bytes_plain_append (c : Char) (visible : isPlain c = true) :
    bytes (.plain c visible :: others) ++ rest =
      String.utf8EncodeChar c ++ (others.bytes ++ rest) := by
  rw [bytes_cons, Part.bytes, List.append_assoc]

theorem Literal.bytes_escape_append (escape : Escape) :
    bytes (.escape escape :: others) ++ rest =
      backslash :: escape.letter :: (others.bytes ++ rest) := by
  rw [bytes_cons, Part.bytes]
  rfl

theorem Literal.bytes_unit_append (code : CodeUnit) :
    bytes (.unit code :: others) ++ rest =
      backslash :: letterU :: (code.bytes ++ (others.bytes ++ rest)) := by
  rw [bytes_cons, Part.bytes, List.cons_append, List.cons_append, List.cons_append,
    List.cons_append, List.append_assoc]

end Bytes

section Reading

variable {fuel : Nat} {rest : List UInt8}

theorem readPieces_append {plain bytes : List UInt8}
    (inside : ∀ byte ∈ plain, endsPiece byte = false) :
    (readPieces (fuel + 1) (plain ++ bytes)).toOption =
      (readPieces (fuel + 1) bytes).toOption.map fun read => (plain ++ read.1, read.2) := by
  have kept : ∀ byte ∈ plain, (!endsPiece byte) = true := by simpa using inside
  simp only [readPieces, List.takeWhile_append_of_pos kept, List.dropWhile_append_of_pos kept]
  split
  · rfl
  split
  · rfl
  split
  · rfl
  · simp only [toOption_bind, Option.map_bind]
    congr
    funext (c, rest)
    simp only [Function.comp, Option.map_bind]
    congr
    funext (more, rest)
    simp

/-- A backslash starts an escape, whose character goes ahead of the next piece. -/
theorem readPieces_backslash (bytes : List UInt8) :
    (readPieces (fuel + 1) (backslash :: bytes)).toOption =
      (readEscape bytes).toOption.bind fun escaped =>
        (readPieces fuel escaped.2).toOption.map fun read =>
          (String.utf8EncodeChar escaped.1 ++ read.1, read.2) := by
  have stops : endsPiece backslash = true := rfl
  have visible : isControl backslash = false := rfl
  have notQuote : (backslash == quote) = false := rfl
  simp only [readPieces, List.takeWhile_cons, List.dropWhile_cons, stops, visible, notQuote,
    Bool.not_true, Bool.false_eq_true, if_false, toOption_bind]
  congr
  funext (c, rest)
  cases (readPieces fuel rest).toOption <;> rfl

theorem readEscape_letter (escape : Escape) :
    readEscape (escape.letter :: rest) = .ok (escape.char, rest) := by
  simp only [readEscape, letter_ne_letterU, shortEscape?_letter, Bool.false_eq_true, if_false]

theorem readEscape_unit (code : CodeUnit) :
    readEscape (letterU :: (code.bytes ++ rest)) =
      if isTrailingUnit code.value then .error (.here .loneSurrogate rest)
      else if isLeadingUnit code.value then readTrailing code.value rest
      else .ok (Char.ofNat code.value, rest) := by
  simp only [readEscape, beq_self_eq_true, if_true, readUnicodeEscape, readHexQuad_bytes]
  rfl

theorem readTrailing_unit (leading : Nat) (code : CodeUnit) :
    readTrailing leading (backslash :: letterU :: (code.bytes ++ rest)) =
      if isTrailingUnit code.value then .ok (pairChar leading code.value, rest)
      else .error (.here .loneSurrogate rest) := by
  simp only [readTrailing, expectPairByte, beq_self_eq_true, if_true, ok_bind, readHexQuad_bytes]

theorem readPieces_unit (code : CodeUnit) (others : Literal) :
    (readPieces (fuel + 1) (Literal.bytes (.unit code :: others) ++ quote :: rest)).toOption =
      (if isTrailingUnit code.value then
          .error (.here .loneSurrogate (others.bytes ++ quote :: rest))
        else if isLeadingUnit code.value then
          readTrailing code.value (others.bytes ++ quote :: rest)
        else .ok (Char.ofNat code.value, others.bytes ++ quote :: rest)).toOption.bind
        fun escaped => (readPieces fuel escaped.2).toOption.map fun read =>
          (String.utf8EncodeChar escaped.1 ++ read.1, read.2) := by
  rw [Literal.bytes_unit_append, readPieces_backslash, readEscape_unit]

/-- Nothing but an escape by code unit closes a surrogate pair. -/
theorem readTrailing_refuses {leading : Nat} {literal : Literal}
    (apart : ∀ (code : CodeUnit) (others : Literal), literal ≠ .unit code :: others) :
    (readTrailing leading (literal.bytes ++ quote :: rest)).toOption = none := by
  cases literal with
  | nil => rfl
  | cons part others =>
    cases part with
    | unit code => exact absurd rfl (apart code others)
    | escape letter =>
      have different : letter.letter ≠ letterU := by simpa using letter_ne_letterU letter
      rw [Literal.bytes_escape_append]
      simp [readTrailing, expectPairByte, different]
    | plain c visible =>
      obtain ⟨first, tail, shape⟩ := List.exists_cons_of_ne_nil (Text.Utf8.encodeChar_ne_nil c)
      have ends := endsPiece_of_isPlain visible first (by simp [shape])
      have different : first ≠ backslash := by
        rintro rfl
        contradiction
      rw [Literal.bytes_plain_append, shape]
      simp [readTrailing, expectPairByte, different]

/-- The pieces and escapes of a literal are read as the bytes of its text. -/
theorem readPieces_bytes (literal : Literal) (enough : literal.length < fuel) :
    (readPieces fuel (literal.bytes ++ quote :: rest)).toOption =
      literal.text?.map fun text => (Text.Utf8.encode text, rest) := by
  fun_induction Literal.text? literal generalizing fuel with
  | case1 =>
    obtain ⟨fuel, rfl⟩ := Nat.exists_eq_add_one_of_ne_zero (Nat.ne_zero_of_lt enough)
    rfl
  | case2 c visible others ih =>
    obtain ⟨fuel, rfl⟩ := Nat.exists_eq_add_one_of_ne_zero (Nat.ne_zero_of_lt enough)
    rw [Literal.bytes_plain_append, readPieces_append (endsPiece_of_isPlain visible),
      ih (Nat.lt_of_succ_lt enough)]
    simp [Function.comp_def, Text.Utf8.encode_cons]
  | case3 letter others ih =>
    obtain ⟨fuel, rfl⟩ := Nat.exists_eq_add_one_of_ne_zero (Nat.ne_zero_of_lt enough)
    rw [Literal.bytes_escape_append, readPieces_backslash, readEscape_letter, toOption_ok,
      Option.bind_some, ih (Nat.lt_of_succ_lt_succ enough)]
    simp [Function.comp_def, Text.Utf8.encode_cons]
  | case4 code others isTrailing =>
    obtain ⟨fuel, rfl⟩ := Nat.exists_eq_add_one_of_ne_zero (Nat.ne_zero_of_lt enough)
    rw [readPieces_unit, if_pos isTrailing]
    rfl
  | case5 code notTrailing isLeading next others isTrailing ih =>
    obtain ⟨fuel, rfl⟩ := Nat.exists_eq_add_one_of_ne_zero (Nat.ne_zero_of_lt enough)
    rw [readPieces_unit, if_neg notTrailing, if_pos isLeading, Literal.bytes_unit_append,
      readTrailing_unit, if_pos isTrailing, toOption_ok, Option.bind_some,
      ih (by simp only [List.length_cons] at enough; omega)]
    simp [Function.comp_def, Text.Utf8.encode_cons]
  | case6 code notTrailing isLeading next others notPaired =>
    obtain ⟨fuel, rfl⟩ := Nat.exists_eq_add_one_of_ne_zero (Nat.ne_zero_of_lt enough)
    rw [readPieces_unit, if_neg notTrailing, if_pos isLeading, Literal.bytes_unit_append,
      readTrailing_unit, if_neg notPaired]
    rfl
  | case7 code others notTrailing isLeading apart =>
    obtain ⟨fuel, rfl⟩ := Nat.exists_eq_add_one_of_ne_zero (Nat.ne_zero_of_lt enough)
    rw [readPieces_unit, if_neg notTrailing, if_pos isLeading,
      readTrailing_refuses fun code others same => apart code others same]
    rfl
  | case8 code others notTrailing notLeading ih =>
    obtain ⟨fuel, rfl⟩ := Nat.exists_eq_add_one_of_ne_zero (Nat.ne_zero_of_lt enough)
    rw [readPieces_unit, if_neg notTrailing, if_neg notLeading, toOption_ok, Option.bind_some,
      ih (Nat.lt_of_succ_lt_succ enough)]
    simp [Function.comp_def, Text.Utf8.encode_cons]

/-- A string is read as the text of its literal. -/
theorem readString_bytes (literal : Literal) (rest : List UInt8) :
    (readString (literal.bytes ++ quote :: rest)).toOption =
      literal.text?.map fun text => (text, rest) := by
  have enough : literal.length < (literal.bytes ++ quote :: rest).length + 1 := by
    have := literal.length_le_bytes
    rw [List.length_append]
    omega
  rw [readString, toOption_bind, readPieces_bytes literal enough]
  cases literal.text? with
  | none => rfl
  | some text =>
    simp [decodeContent, Text.Utf8.decode?_encode]

end Reading

section Skipping

variable {fuel : Nat} {rest : List UInt8}

theorem skipPieces_append {plain bytes : List UInt8}
    (inside : ∀ byte ∈ plain, endsPiece byte = false) :
    skipPieces (fuel + 1) (plain ++ bytes) = skipPieces (fuel + 1) bytes := by
  have kept : ∀ byte ∈ plain, (!endsPiece byte) = true := by simpa using inside
  simp only [skipPieces, List.dropWhile_append_of_pos kept]

theorem skipPieces_backslash (bytes : List UInt8) :
    skipPieces (fuel + 1) (backslash :: bytes) = skipEscape bytes >>= skipPieces fuel := by
  have stops : endsPiece backslash = true := rfl
  have visible : isControl backslash = false := rfl
  have notQuote : (backslash == quote) = false := rfl
  simp only [skipPieces, List.dropWhile_cons, stops, visible, notQuote, Bool.not_true,
    Bool.false_eq_true, if_false]

theorem skipEscape_letter (escape : Escape) : skipEscape (escape.letter :: rest) = .ok rest := by
  simp only [skipEscape, letter_ne_letterU, shortEscape?_letter, Option.isSome_some,
    Bool.false_eq_true, if_false, if_true]

theorem skipEscape_unit (code : CodeUnit) :
    skipEscape (letterU :: (code.bytes ++ rest)) = .ok rest := by
  simp only [skipEscape, beq_self_eq_true, if_true, readHexQuad_bytes]
  rfl

theorem skipPieces_bytes (literal : Literal) (enough : literal.length < fuel) :
    skipPieces fuel (literal.bytes ++ quote :: rest) = .ok rest := by
  induction literal generalizing fuel with
  | nil =>
    obtain ⟨fuel, rfl⟩ := Nat.exists_eq_add_one_of_ne_zero (Nat.ne_zero_of_lt enough)
    rfl
  | cons part others ih =>
    obtain ⟨fuel, rfl⟩ := Nat.exists_eq_add_one_of_ne_zero (Nat.ne_zero_of_lt enough)
    have later := @ih fuel (Nat.lt_of_succ_lt_succ enough)
    cases part with
    | plain c visible =>
      rw [Literal.bytes_plain_append, skipPieces_append (endsPiece_of_isPlain visible)]
      exact ih (Nat.lt_of_succ_lt enough)
    | escape letter =>
      rw [Literal.bytes_escape_append, skipPieces_backslash, skipEscape_letter]
      exact later
    | unit code =>
      rw [Literal.bytes_unit_append, skipPieces_backslash, skipEscape_unit]
      exact later

/-- A skipped string ends at the closing quote of its literal. -/
theorem skipString_bytes (literal : Literal) (rest : List UInt8) :
    skipString (literal.bytes ++ quote :: rest) = .ok rest := by
  apply skipPieces_bytes
  have := literal.length_le_bytes
  rw [List.length_append]
  omega

end Skipping
end ReleaseFeed.Json
