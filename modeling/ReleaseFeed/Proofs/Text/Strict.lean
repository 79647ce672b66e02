import ReleaseFeed.Proofs.Text.Lossy

namespace ReleaseFeed.Text.Utf8

variable {pending : Pending} {byte : UInt8} {bytes rest : List UInt8} {text : List Char}

/-- A character is written as the bytes that its code point is cut into. -/
theorem encodeChar_ofNat {code : Nat} (valid : code.isValidChar)
    (pieces : bytes.map UInt8.toNat =
      if code ≤ 0x7F then [code]
      else if code ≤ 0x7FF then [code / 64 + 0xC0, code % 64 + 0x80]
      else if code ≤ 0xFFFF then
        [code / 4096 + 0xE0, code / 64 % 64 + 0x80, code % 64 + 0x80]
      else [code / 262144 + 0xF0, code / 4096 % 64 + 0x80, code / 64 % 64 + 0x80,
        code % 64 + 0x80]) :
    String.utf8EncodeChar (Char.ofNat code) = bytes := by
  have below : code < 0x110000 := by
    simp only [Nat.isValidChar] at valid
    omega
  apply List.map_injective_iff.mpr fun _ _ => UInt8.toNat_inj.mp
  rw [pieces, encodeChar_eq, toNat_ofNat_of_valid valid]
  (repeat' split) <;>
    simp only [List.map_cons, List.map_nil, UInt8.toNat_ofNat', List.cons.injEq, and_true] <;>
    omega

section Characters

variable {a b c d : UInt8}

theorem encodeChar_one (first : a.toNat < 0x80) :
    String.utf8EncodeChar (Char.ofNat a.toNat) = [a] := by
  apply encodeChar_ofNat
  · simp only [Nat.isValidChar]
    omega
  · rw [if_pos (by omega)]
    rfl

theorem encodeChar_two (first : 0xC2 ≤ a.toNat ∧ a.toNat < 0xE0)
    (second : 0x80 ≤ b.toNat ∧ b.toNat ≤ 0xBF) :
    String.utf8EncodeChar (Char.ofNat ((a.toNat - 0xC0) * 64 + b.toNat % 64)) = [a, b] := by
  apply encodeChar_ofNat
  · simp only [Nat.isValidChar]
    omega
  · rw [if_neg (by omega), if_pos (by omega)]
    simp only [List.map_cons, List.map_nil, List.cons.injEq, and_true]
    omega

theorem encodeChar_three (first : 0xE0 ≤ a.toNat ∧ a.toNat < 0xF0)
    (second : (if a.toNat = 0xE0 then 0xA0 else 0x80) ≤ b.toNat ∧
      b.toNat ≤ if a.toNat = 0xED then 0x9F else 0xBF)
    (third : 0x80 ≤ c.toNat ∧ c.toNat ≤ 0xBF) :
    String.utf8EncodeChar (Char.ofNat
      (((a.toNat - 0xE0) * 64 + b.toNat % 64) * 64 + c.toNat % 64)) = [a, b, c] := by
  apply encodeChar_ofNat
  · simp only [Nat.isValidChar]
    split at second <;> split at second <;> omega
  · rw [if_neg (by split at second <;> split at second <;> omega),
      if_neg (by split at second <;> split at second <;> omega), if_pos (by omega)]
    simp only [List.map_cons, List.map_nil, List.cons.injEq, and_true]
    split at second <;> split at second <;> omega

theorem encodeChar_four (first : 0xF0 ≤ a.toNat ∧ a.toNat < 0xF5)
    (second : (if a.toNat = 0xF0 then 0x90 else 0x80) ≤ b.toNat ∧
      b.toNat ≤ if a.toNat = 0xF4 then 0x8F else 0xBF)
    (third : 0x80 ≤ c.toNat ∧ c.toNat ≤ 0xBF) (fourth : 0x80 ≤ d.toNat ∧ d.toNat ≤ 0xBF) :
    String.utf8EncodeChar (Char.ofNat
      ((((a.toNat - 0xF0) * 64 + b.toNat % 64) * 64 + c.toNat % 64) * 64 + d.toNat % 64)) =
        [a, b, c, d] := by
  have above : 0x10000 ≤ ((a.toNat - 0xF0) * 64 + b.toNat % 64) * 64 * 64 := by
    split at second <;> split at second <;> omega
  apply encodeChar_ofNat
  · simp only [Nat.isValidChar]
    split at second <;> split at second <;> omega
  · rw [if_neg (by omega), if_neg (by omega), if_neg (by omega)]
    simp only [List.map_cons, List.map_nil, List.cons.injEq, and_true]
    split at second <;> split at second <;> omega

end Characters

theorem exists_next (whole : scanFrom (some pending) bytes = text.map some) :
    ∃ byte rest, bytes = byte :: rest ∧ pending.low ≤ byte.toNat ∧ byte.toNat ≤ pending.high := by
  have clean : none ∉ scanFrom (some pending) bytes := by simp [whole]
  cases bytes with
  | nil => simp [scanFrom] at clean
  | cons byte rest =>
    refine ⟨byte, rest, rfl, ?_⟩
    by_contra outside
    simp [scanFrom, feed, proceed, outside] at clean

/-- The first character of bytes without a malformed place, and what stands behind it. -/
theorem exists_first (whole : scan (byte :: rest) = text.map some) :
    ∃ c behind, byte :: rest = String.utf8EncodeChar c ++ behind ∧
      scan (byte :: rest) = some c :: scan behind := by
  by_cases ascii : byte.toNat < 0x80
  · exact ⟨_, rest, by rw [encodeChar_one ascii]; rfl, scan_cons_ascii ascii rest⟩
  cases begins : begin byte.toNat with
  | none =>
    have clean : none ∉ scan (byte :: rest) := by simp [whole]
    simp [scan, scanFrom, feed, start, ascii, begins] at clean
  | some pending =>
    rw [scan, scanFrom_begin (Nat.le_of_not_lt ascii) begins] at whole
    obtain ⟨second, rest, rfl, low, high⟩ := exists_next whole
    unfold begin at begins
    split at begins
    · cases begins
    split at begins
    · obtain rfl := Option.some.inj begins
      have range : 0xC2 ≤ byte.toNat ∧ byte.toNat < 0xE0 := by omega
      exact ⟨_, rest, by rw [encodeChar_two range ⟨low, high⟩]; rfl,
        scan_two range ⟨low, high⟩⟩
    split at begins
    · obtain rfl := Option.some.inj begins
      have range : 0xE0 ≤ byte.toNat ∧ byte.toNat < 0xF0 := by omega
      rw [scanFrom_continue low high (by simp)] at whole
      obtain ⟨third, rest, rfl, floor, ceiling⟩ := exists_next whole
      exact ⟨_, rest, by rw [encodeChar_three range ⟨low, high⟩ ⟨floor, ceiling⟩]; rfl,
        scan_three range ⟨low, high⟩ ⟨floor, ceiling⟩⟩
    split at begins
    · obtain rfl := Option.some.inj begins
      have range : 0xF0 ≤ byte.toNat ∧ byte.toNat < 0xF5 := by omega
      rw [scanFrom_continue low high (by simp)] at whole
      obtain ⟨third, rest, rfl, floor, ceiling⟩ := exists_next whole
      rw [scanFrom_continue floor ceiling (by simp)] at whole
      obtain ⟨fourth, rest, rfl, least, greatest⟩ := exists_next whole
      exact ⟨_, rest, by rw [encodeChar_four range ⟨low, high⟩ ⟨floor, ceiling⟩
        ⟨least, greatest⟩]; rfl, scan_four range ⟨low, high⟩ ⟨floor, ceiling⟩ ⟨least, greatest⟩⟩
    · cases begins

/-- Bytes that are read as a text are the bytes of that text. -/
theorem encode_of_scan (whole : scan bytes = text.map some) : encode text = bytes := by
  induction text generalizing bytes with
  | nil =>
    cases bytes with
    | nil => rfl
    | cons byte rest =>
      obtain ⟨_, _, -, starts⟩ := exists_first whole
      rw [starts] at whole
      cases whole
  | cons c others ih =>
    cases bytes with
    | nil => cases whole
    | cons byte rest =>
      obtain ⟨first, behind, shape, starts⟩ := exists_first whole
      rw [starts, List.map_cons] at whole
      obtain ⟨same, later⟩ := List.cons.inj whole
      obtain rfl := Option.some.inj same
      rw [encode_cons, ih later, shape]

theorem encode_of_decode? (decoded : decode? bytes = some text) : encode text = bytes :=
  encode_of_scan (decode?_eq_some_iff.mp decoded)

theorem repairs_encodeChar (c : Char) :
    Repairs (String.utf8EncodeChar c) (String.utf8EncodeChar c) := by
  intro rest
  simp only [repair, decodeLossy, scan_encodeChar_append, List.map_cons, encode_cons,
    Option.getD_some]

/-- Bytes need no repair exactly if they are the bytes of a text. -/
theorem isSome_decode?_iff : (decode? bytes).isSome = true ↔ repair bytes = bytes := by
  constructor
  · intro decodes
    obtain ⟨text, decoded⟩ := Option.isSome_iff_exists.mp decodes
    rw [← encode_of_decode? decoded, repair_encode]
  · intro same
    rw [← same, repair, decode?_encode]
    rfl

end ReleaseFeed.Text.Utf8
