import ReleaseFeed.Proofs.Json.Token
import ReleaseFeed.Proofs.Json.Writing
import ReleaseFeed.Proofs.Text.Lossy

namespace ReleaseFeed.Json

open Text.Utf8 (Repairs decode? decode?_middle decodeLossy decodeLossy_of_decode? mem_decodeLossy
  repair repairs_append_ascii repairs_ascii)

section Bytes

variable {byte : UInt8} {value : Nat}

theorem HexDigit.toNat_byte (digit : HexDigit) : digit.byte.toNat =
    digit.value.val + if digit.value.val < 10 then 0x30 else if digit.isCapital then 0x37 else 0x57 := by
  obtain ⟨value, isCapital⟩ := digit
  revert value isCapital
  decide

theorem exists_hexDigit_of_toNat (isCapital : Bool) (small : value < 16) (same : byte.toNat =
    value + if value < 10 then 0x30 else if isCapital then 0x37 else 0x57) :
    ∃ digit : HexDigit, digit.byte = byte ∧ digit.value.val = value := by
  refine ⟨⟨⟨value, small⟩, isCapital⟩, UInt8.toNat_inj.mp ?_, rfl⟩
  rw [HexDigit.toNat_byte, same]

/-- A byte with the value of a hexadecimal digit is the digit. -/
theorem exists_hexDigit (found : hexValue? byte = some value) :
    ∃ digit : HexDigit, digit.byte = byte ∧ digit.value.val = value := by
  unfold hexValue? at found
  split at found
  · rename_i digit
    obtain ⟨low, high⟩ := isDigit_iff.mp digit
    obtain rfl : byte.toNat - 0x30 = value := Option.some.inj found
    apply exists_hexDigit_of_toNat false (by omega)
    rw [if_pos (by omega)]
    omega
  split at found
  · rename_i inRange
    simp only [Bool.and_eq_true, decide_eq_true_eq, UInt8.le_iff_toNat_le] at inRange
    obtain ⟨low, high⟩ : 0x61 ≤ byte.toNat ∧ byte.toNat ≤ 0x66 := inRange
    obtain rfl : byte.toNat - 0x57 = value := Option.some.inj found
    apply exists_hexDigit_of_toNat false (by omega)
    rw [if_neg (by omega), if_neg Bool.false_ne_true]
    omega
  split at found
  · rename_i inRange
    simp only [Bool.and_eq_true, decide_eq_true_eq, UInt8.le_iff_toNat_le] at inRange
    obtain ⟨low, high⟩ : 0x41 ≤ byte.toNat ∧ byte.toNat ≤ 0x46 := inRange
    obtain rfl : byte.toNat - 0x37 = value := Option.some.inj found
    apply exists_hexDigit_of_toNat true (by omega)
    rw [if_neg (by omega), if_pos rfl]
    omega
  · cases found

theorem exists_codeUnit {bytes rest : List UInt8} (read : readHexQuad bytes = .ok (value, rest)) :
    ∃ code : CodeUnit, bytes = code.bytes ++ rest ∧ code.value = value := by
  unfold readHexQuad at read
  split at read
  · rename_i a b c d behind
    split at read
    · rename_i quad found
      obtain ⟨rfl, rfl⟩ := Prod.mk.inj (Except.ok.inj read)
      obtain ⟨values, each, rfl⟩ := Option.map_eq_some_iff.mp found
      rw [mapM_eq_some_iff] at each
      obtain _ | ⟨first, _ | ⟨second, _ | ⟨third, _ | ⟨fourth, _ | _⟩⟩⟩⟩ := each
      obtain ⟨a, rfl, rfl⟩ := exists_hexDigit first
      obtain ⟨b, rfl, rfl⟩ := exists_hexDigit second
      obtain ⟨c, rfl, rfl⟩ := exists_hexDigit third
      obtain ⟨d, rfl, rfl⟩ := exists_hexDigit fourth
      refine ⟨⟨a, b, c, d⟩, rfl, ?_⟩
      simp [CodeUnit.value]
    · cases read
  · cases read

theorem exists_escape {c : Char} (found : shortEscape? byte = some c) :
    ∃ escape : Escape, escape.letter = byte ∧ escape.char = c := by
  unfold shortEscape? at found
  split at found
  · exact ⟨.quote, rfl, Option.some.inj found⟩
  · exact ⟨.backslash, rfl, Option.some.inj found⟩
  · exact ⟨.slash, rfl, Option.some.inj found⟩
  · exact ⟨.backspace, rfl, Option.some.inj found⟩
  · exact ⟨.formFeed, rfl, Option.some.inj found⟩
  · exact ⟨.lineFeed, rfl, Option.some.inj found⟩
  · exact ⟨.carriageReturn, rfl, Option.some.inj found⟩
  · exact ⟨.tab, rfl, Option.some.inj found⟩
  · cases found

end Bytes

section Units

variable {code next : CodeUnit} {others : Literal}

theorem Literal.text?_unit (notTrailing : ¬ isTrailingUnit code.value = true)
    (notLeading : ¬ isLeadingUnit code.value = true) :
    text? (.unit code :: others) = (text? others).map (Char.ofNat code.value :: ·) := by
  rw [text?.eq_def]
  simp [notTrailing, notLeading]

theorem Literal.text?_pair (notTrailing : ¬ isTrailingUnit code.value = true)
    (isLeading : isLeadingUnit code.value = true) (isTrailing : isTrailingUnit next.value = true) :
    text? (.unit code :: .unit next :: others) =
      (text? others).map (pairChar code.value next.value :: ·) := by
  rw [text?.eq_def]
  simp [notTrailing, isLeading, isTrailing]

end Units

theorem eq_of_expectPairByte {expected : UInt8} {bytes rest : List UInt8}
    (taken : expectPairByte expected bytes = .ok rest) : bytes = expected :: rest := by
  unfold expectPairByte at taken
  split at taken
  · cases taken
  split at taken
  · rename_i same
    obtain rfl := Except.ok.inj taken
    rw [beq_iff_eq.mp same]
  · cases taken

theorem CodeUnit.ascii (code : CodeUnit) : ∀ byte ∈ code.bytes, byte.toNat < 0x80 := by
  have small (digit : HexDigit) : digit.byte.toNat < 0x80 := by
    rw [HexDigit.toNat_byte]
    have := digit.value.isLt
    split
    · omega
    · split <;> omega
  simp [bytes, small]

theorem Escape.ascii (escape : Escape) : escape.letter.toNat < 0x80 := by
  cases escape <;> decide

theorem Literal.bytes_append (front back : Literal) :
    bytes (front ++ back) = front.bytes ++ back.bytes :=
  List.flatMap_append

/-- A literal of escapes, of which the first backslash was taken. -/
structure Escaped (bytes : List UInt8) (literal : Literal) : Prop where
  bytes_eq : literal.bytes = backslash :: bytes
  ascii : ∀ byte ∈ bytes, byte.toNat < 0x80

theorem escaped_unit (code : CodeUnit) : Escaped (letterU :: code.bytes) [.unit code] where
  bytes_eq := by simp [Literal.bytes, Part.bytes]
  ascii := List.forall_mem_cons.mpr ⟨by decide, code.ascii⟩

theorem escaped_pair (code next : CodeUnit) :
    Escaped (letterU :: (code.bytes ++ backslash :: letterU :: next.bytes))
      [.unit code, .unit next] where
  bytes_eq := by simp [Literal.bytes, Part.bytes]
  ascii := by
    refine List.forall_mem_cons.mpr ⟨by decide, ?_⟩
    rw [List.forall_mem_append]
    exact ⟨code.ascii, List.forall_mem_cons.mpr ⟨by decide, (escaped_unit next).ascii⟩⟩

theorem escaped_letter (escape : Escape) : Escaped [escape.letter] [.escape escape] where
  bytes_eq := rfl
  ascii := List.forall_mem_singleton.mpr escape.ascii

/-- An escape by code unit is one part of a literal, or two if it is a surrogate pair. -/
theorem exists_escaped_of_readUnicodeEscape {bytes rest : List UInt8} {c : Char}
    (read : readUnicodeEscape bytes = .ok (c, rest)) :
    ∃ escaped literal, letterU :: bytes = escaped ++ rest ∧ Escaped escaped literal ∧
      ∀ others : Literal, (literal ++ others).text? = others.text?.map (c :: ·) := by
  rw [readUnicodeEscape, bind_eq_ok_iff] at read
  obtain ⟨⟨unit, left⟩, leading, read⟩ := read
  obtain ⟨code, rfl, rfl⟩ := exists_codeUnit leading
  dsimp only at read
  split at read
  · cases read
  rename_i notTrailing
  split at read
  · rename_i isLeading
    rw [readTrailing, bind_eq_ok_iff] at read
    obtain ⟨_, first, read⟩ := read
    rw [bind_eq_ok_iff] at read
    obtain ⟨_, second, read⟩ := read
    rw [bind_eq_ok_iff] at read
    obtain ⟨⟨unit, left⟩, trailing, read⟩ := read
    obtain ⟨next, rfl, rfl⟩ := exists_codeUnit trailing
    obtain rfl := eq_of_expectPairByte second
    obtain rfl := eq_of_expectPairByte first
    dsimp only at read
    split at read
    · rename_i isTrailing
      obtain ⟨rfl, rfl⟩ := Prod.mk.inj (Except.ok.inj read)
      refine ⟨_, _, ?_, escaped_pair code next, fun others => ?_⟩
      · simp
      · exact Literal.text?_pair notTrailing isLeading isTrailing
    · cases read
  · rename_i notLeading
    obtain ⟨rfl, rfl⟩ := Prod.mk.inj (Except.ok.inj read)
    exact ⟨_, _, rfl, escaped_unit code, fun _ => Literal.text?_unit notTrailing notLeading⟩

/-- An escape that was read is part of a literal, and stands for its character whatever follows
it. -/
theorem exists_escaped {bytes rest : List UInt8} {c : Char}
    (read : readEscape bytes = .ok (c, rest)) :
    ∃ escaped literal, bytes = escaped ++ rest ∧ Escaped escaped literal ∧
      ∀ others : Literal, (literal ++ others).text? = others.text?.map (c :: ·) := by
  unfold readEscape at read
  split at read
  · cases read
  rename_i letter behind
  split at read
  · rename_i isUnit
    obtain rfl := beq_iff_eq.mp isUnit
    exact exists_escaped_of_readUnicodeEscape read
  split at read
  · rename_i found
    obtain ⟨rfl, rfl⟩ := Prod.mk.inj (Except.ok.inj read)
    obtain ⟨escape, rfl, rfl⟩ := exists_escape found
    exact ⟨_, _, rfl, escaped_letter escape, fun _ => rfl⟩
  · cases read

theorem exists_escaped_of_skipEscape {bytes rest : List UInt8}
    (skipped : skipEscape bytes = .ok rest) :
    ∃ escaped literal, bytes = escaped ++ rest ∧ Escaped escaped literal := by
  unfold skipEscape at skipped
  split at skipped
  · cases skipped
  rename_i letter behind
  split at skipped
  · rename_i isUnit
    obtain rfl := beq_iff_eq.mp isUnit
    cases read : readHexQuad behind with
    | error fault =>
      rw [read] at skipped
      cases skipped
    | ok result =>
      rw [read] at skipped
      obtain rfl := Except.ok.inj skipped
      obtain ⟨code, rfl, -⟩ := exists_codeUnit read
      exact ⟨_, _, rfl, escaped_unit code⟩
  · split at skipped
    · rename_i found
      obtain ⟨c, found⟩ := Option.isSome_iff_exists.mp found
      obtain rfl := Except.ok.inj skipped
      obtain ⟨escape, rfl, -⟩ := exists_escape found
      exact ⟨_, _, rfl, escaped_letter escape⟩
    · cases skipped

section Pieces

variable {piece bytes rest : List UInt8}

/-- Whatever a plain piece shows may stand in a string as it is. -/
theorem isPlain_of_mem_decodeLossy {c : Char} (inside : ∀ byte ∈ piece, endsPiece byte = false)
    (shown : c ∈ decodeLossy piece) : isPlain c = true := by
  rcases mem_decodeLossy shown with ⟨byte, member, ascii, rfl⟩ | above
  · have passes := inside byte member
    have small := Text.Utf8.toNat_ofNat_of_ascii ascii
    simp only [endsPiece, isControl, Bool.or_eq_false_iff, beq_eq_false_iff_ne, ne_eq,
      decide_eq_false_iff_not, UInt8.lt_iff_toNat_lt, ← UInt8.toNat_inj] at passes
    obtain ⟨⟨notQuote, notBackslash⟩, visible⟩ := passes
    have apart (other : Char) (different : byte.toNat ≠ other.toNat) :
        Char.ofNat byte.toNat ≠ other := by
      rintro rfl
      exact different small.symm
    simp only [isPlain, small, Bool.and_eq_true, decide_eq_true_eq, bne_iff_ne]
    exact ⟨⟨Nat.not_lt.mp visible, apart '"' notQuote⟩, apart '\\' notBackslash⟩
  · have apart (other : Char) (ascii : other.toNat < 0x80) : c ≠ other := by
      rintro rfl
      omega
    simp only [isPlain, Bool.and_eq_true, decide_eq_true_eq, bne_iff_ne]
    exact ⟨⟨by omega, apart '"' (by decide)⟩, apart '\\' (by decide)⟩

theorem bytes_ofText_piece (inside : ∀ byte ∈ piece, endsPiece byte = false) :
    (Literal.ofText (decodeLossy piece)).bytes = repair piece := by
  have plain : (decodeLossy piece).flatMap writeChar = decodeLossy piece := by
    have same : ∀ c ∈ decodeLossy piece, writeChar c = [c] :=
      fun c shown => writeChar_of_isPlain (isPlain_of_mem_decodeLossy inside shown)
    rw [List.flatMap_congr same, List.flatMap_singleton']
  rw [Literal.bytes_ofText, plain]
  rfl

theorem Literal.text?_ofText_append (text : List Char) (others : Literal) :
    (ofText text ++ others).text? = others.text?.map (text ++ ·) := by
  induction text with
  | nil => exact Option.map_id'.symm
  | cons c text ih =>
    rw [ofText, List.map_cons, List.cons_append, text?_cons (Part.char?_ofChar c)]
    change ((ofText text ++ others).text?).map (c :: ·) = _
    rw [ih, Option.map_map]
    rfl

/-- Bytes up to a closing quote that are those of a literal, up to repair. -/
inductive Spelled (literal : Literal) (bytes rest : List UInt8) : Prop where
  | of {raw : List UInt8} (shape : bytes = raw ++ quote :: rest)
      (repairs : Repairs (raw ++ [quote]) (literal.bytes ++ [quote]))

theorem spelled_piece (inside : ∀ byte ∈ piece, endsPiece byte = false) :
    Spelled (.ofText (decodeLossy piece)) (piece ++ quote :: rest) rest := by
  refine .of rfl ?_
  rw [bytes_ofText_piece inside]
  exact repairs_append_ascii (by decide) piece

theorem Spelled.escaped {escaped : List UInt8} {literal others : Literal}
    (spelled : Spelled others bytes rest) (inside : ∀ byte ∈ piece, endsPiece byte = false)
    (escapes : Escaped escaped literal) :
    Spelled (.ofText (decodeLossy piece) ++ (literal ++ others))
      (piece ++ backslash :: (escaped ++ bytes)) rest := by
  obtain ⟨rfl, repairs⟩ := spelled
  rename_i raw
  have shape : piece ++ backslash :: (escaped ++ (raw ++ quote :: rest)) =
      (piece ++ backslash :: (escaped ++ raw)) ++ quote :: rest := by simp
  refine .of shape ?_
  have opened : Repairs (piece ++ [backslash]) (repair piece ++ [backslash]) :=
    repairs_append_ascii (by decide) piece
  have whole := opened.append ((repairs_ascii escapes.ascii).append repairs)
  rw [Literal.bytes_append, Literal.bytes_append, bytes_ofText_piece inside, escapes.bytes_eq]
  simpa using whole

/-- A piece ends at a quote or a backslash, if it does not end at a control byte. -/
theorem cut_piece {stop : UInt8} (cut : bytes.dropWhile (fun byte => !endsPiece byte) = stop :: rest)
    (visible : ¬ isControl stop = true) :
    ∃ piece, bytes.takeWhile (fun byte => !endsPiece byte) = piece ∧
      (∀ byte ∈ piece, endsPiece byte = false) ∧ bytes = piece ++ stop :: rest ∧
      (¬ (stop == quote) = true → stop = backslash) := by
  refine ⟨_, rfl, ?_, ?_, ?_⟩
  · intro byte inside
    simpa using List.mem_takeWhile_imp inside
  · rw [← cut, List.takeWhile_append_dropWhile]
  · intro notQuote
    have ends := Text.head?_dropWhile_stops (fun byte => !endsPiece byte) bytes stop (by simp [cut])
    simpa [endsPiece, visible, notQuote] using ends

end Pieces

section Strings

variable {fuel : Nat} {bytes rest : List UInt8}

theorem exists_spelled_of_readPieces {content : List UInt8} {text : List Char}
    (read : readPieces fuel bytes = .ok (content, rest)) (decoded : decode? content = some text) :
    ∃ literal, Spelled literal bytes rest ∧ literal.text? = some text := by
  induction fuel generalizing bytes content text with
  | zero => cases read
  | succ fuel ih =>
    rw [readPieces] at read
    split at read
    · cases read
    rename_i stop behind cut
    split at read
    · cases read
    rename_i visible
    obtain ⟨piece, taken, inside, rfl, stops⟩ := cut_piece cut visible
    rw [taken] at read
    split at read
    · rename_i isQuote
      obtain rfl := beq_iff_eq.mp isQuote
      obtain ⟨rfl, rfl⟩ := Prod.mk.inj (Except.ok.inj read)
      refine ⟨_, spelled_piece inside, ?_⟩
      rw [Literal.text?_ofText, decodeLossy_of_decode? decoded]
    · rename_i notQuote
      obtain rfl := stops notQuote
      rw [bind_eq_ok_iff] at read
      obtain ⟨⟨c, left⟩, escape, read⟩ := read
      rw [bind_eq_ok_iff] at read
      obtain ⟨⟨more, left⟩, later, read⟩ := read
      obtain ⟨rfl, rfl⟩ := Prod.mk.inj (Except.ok.inj read)
      rw [List.append_assoc] at decoded
      obtain ⟨before, text, rfl, here, decoded⟩ := decode?_middle decoded
      obtain ⟨escaped, literal, rfl, escapes, stands⟩ := exists_escaped escape
      obtain ⟨others, spelled, standsLater⟩ := ih later decoded
      refine ⟨_, spelled.escaped inside escapes, ?_⟩
      rw [Literal.text?_ofText_append, stands, standsLater, decodeLossy_of_decode? here]
      rfl

/-- A string that was read is spelled by a literal of its text. -/
theorem exists_spelled_of_readString {text : List Char}
    (read : readString bytes = .ok (text, rest)) :
    ∃ literal, Spelled literal bytes rest ∧ literal.text? = some text := by
  rw [readString, bind_eq_ok_iff] at read
  obtain ⟨⟨content, left⟩, pieces, read⟩ := read
  dsimp only at read
  rw [bind_eq_ok_iff] at read
  obtain ⟨text, decoded, read⟩ := read
  obtain ⟨rfl, rfl⟩ := Prod.mk.inj (Except.ok.inj read)
  refine exists_spelled_of_readPieces pieces ?_
  unfold decodeContent at decoded
  split at decoded
  · rename_i found
    rw [found, Except.ok.inj decoded]
  · cases decoded

theorem exists_spelled_of_skipPieces (skipped : skipPieces fuel bytes = .ok rest) :
    ∃ literal, Spelled literal bytes rest := by
  induction fuel generalizing bytes with
  | zero => cases skipped
  | succ fuel ih =>
    rw [skipPieces] at skipped
    split at skipped
    · cases skipped
    rename_i stop behind cut
    split at skipped
    · cases skipped
    rename_i visible
    obtain ⟨piece, -, inside, rfl, stops⟩ := cut_piece cut visible
    split at skipped
    · rename_i isQuote
      obtain rfl := beq_iff_eq.mp isQuote
      obtain rfl := Except.ok.inj skipped
      exact ⟨_, spelled_piece inside⟩
    · rename_i notQuote
      obtain rfl := stops notQuote
      rw [bind_eq_ok_iff] at skipped
      obtain ⟨left, escape, later⟩ := skipped
      obtain ⟨escaped, literal, rfl, escapes⟩ := exists_escaped_of_skipEscape escape
      obtain ⟨others, spelled⟩ := ih later
      exact ⟨_, spelled.escaped inside escapes⟩

theorem exists_spelled_of_skipString (skipped : skipString bytes = .ok rest) :
    ∃ literal, Spelled literal bytes rest :=
  exists_spelled_of_skipPieces skipped

end Strings
end ReleaseFeed.Json
