import ReleaseFeed.Proofs.Text.Utf8
import ReleaseFeed.Proofs.Traversal

namespace ReleaseFeed.Text.Utf8

/-- Whether a byte is not one that continues a character. -/
def Starts (byte : UInt8) : Prop := byte.toNat < 0x80 ∨ 0xBF < byte.toNat

namespace Pending

/-- The least code point that a pending character may turn out to be. -/
def least (pending : Pending) : Nat :=
  (pending.bits * 64 + pending.low % 64) * Nat.pow 64 (pending.needed - 1)

/-- The greatest code point that a pending character may turn out to be. -/
def greatest (pending : Pending) : Nat :=
  (pending.bits * 64 + pending.high % 64) * Nat.pow 64 (pending.needed - 1) +
    (Nat.pow 64 (pending.needed - 1) - 1)

/-- A character that was begun: it goes on with the bytes in between only, and becomes a character
that is not ASCII. -/
structure Proper (pending : Pending) : Prop where
  needed : pending.needed = 1 ∨ pending.needed = 2 ∨ pending.needed = 3
  low : 0x80 ≤ pending.low
  high : pending.high ≤ 0xBF
  above : 0x80 ≤ pending.least
  valid : pending.greatest < 0xD800 ∨ 0xDFFF < pending.least ∧ pending.greatest < 0x110000

end Pending

variable {pending : Pending} {state : Option Pending} {byte : UInt8} {rest : List UInt8}

theorem toNat_ofNat_of_valid {value : Nat} (isValid : value.isValidChar) :
    (Char.ofNat value).toNat = value := by
  rw [Char.ofNat, dif_pos isValid]
  rfl

theorem toNat_ofNat_of_ascii (ascii : byte.toNat < 0x80) :
    (Char.ofNat byte.toNat).toNat = byte.toNat := by
  apply toNat_ofNat_of_valid
  simp only [Nat.isValidChar]
  omega

theorem proper_of_begin {value : Nat} (begins : begin value = some pending) : pending.Proper := by
  unfold begin at begins
  split at begins
  · cases begins
  split at begins
  · obtain rfl := Option.some.inj begins
    constructor <;> simp [Pending.least, Pending.greatest] <;> omega
  split at begins
  · obtain rfl := Option.some.inj begins
    constructor <;> simp [Pending.least, Pending.greatest] <;> split <;> omega
  split at begins
  · obtain rfl := Option.some.inj begins
    constructor <;> simp [Pending.least, Pending.greatest] <;> split <;> try split
    all_goals omega
  · cases begins

/-- A byte in range leaves a character that is not complete as proper as before. -/
theorem Pending.Proper.continue (proper : pending.Proper) (low : pending.low ≤ byte.toNat)
    (high : byte.toNat ≤ pending.high) (more : 1 < pending.needed) :
    Proper ⟨pending.bits * 64 + byte.toNat % 64, pending.needed - 1, 0x80, 0xBF⟩ := by
  obtain ⟨bits, needed, least, greatest⟩ := pending
  obtain ⟨count, lowest, highest, above, valid⟩ := proper
  simp only [Pending.least, Pending.greatest] at *
  rcases count with rfl | rfl | rfl
  · omega
  · constructor <;> simp [Pending.least, Pending.greatest] at * <;> omega
  · constructor <;> simp [Pending.least, Pending.greatest] at * <;> omega

/-- The last byte in range completes a character that is not ASCII. -/
theorem Pending.Proper.finish (proper : pending.Proper) (low : pending.low ≤ byte.toNat)
    (high : byte.toNat ≤ pending.high) (last : pending.needed = 1) :
    0x80 ≤ (Char.ofNat (pending.bits * 64 + byte.toNat % 64)).toNat := by
  obtain ⟨bits, needed, least, greatest⟩ := pending
  obtain ⟨-, lowest, highest, above, valid⟩ := proper
  subst last
  simp [Pending.least, Pending.greatest] at *
  have isValid : (bits * 64 + byte.toNat % 64).isValidChar := by
    simp only [Nat.isValidChar]
    omega
  rw [toNat_ofNat_of_valid isValid]
  omega

theorem feed_cases (proper : ∀ pending ∈ state, pending.Proper) (byte : UInt8) :
    (∀ pending ∈ (feed state byte).2, pending.Proper) ∧
      ∀ c, some c ∈ (feed state byte).1 →
        byte.toNat < 0x80 ∧ c = Char.ofNat byte.toNat ∨ 0x80 ≤ c.toNat := by
  have fresh : (∀ pending ∈ (start byte.toNat).2, pending.Proper) ∧
      ∀ c, some c ∈ (start byte.toNat).1 → byte.toNat < 0x80 ∧ c = Char.ofNat byte.toNat := by
    unfold start
    split
    · rename_i ascii
      simpa using ascii
    · split
      · rename_i pending begins
        simpa using proper_of_begin begins
      · simp
  cases state with
  | none => exact ⟨fresh.1, fun c inside => .inl (fresh.2 c inside)⟩
  | some pending =>
    have proper := proper pending rfl
    simp only [feed, proceed]
    split
    · rename_i inRange
      obtain ⟨low, high⟩ : pending.low ≤ byte.toNat ∧ byte.toNat ≤ pending.high := by
        simpa using inRange
      split
      · have last : pending.needed = 1 := by
          rcases proper.needed with one | two | three <;> omega
        simpa using Or.inr (proper.finish low high last)
      · simpa using proper.continue low high (by omega)
    · refine ⟨fresh.1, fun c inside => .inl (fresh.2 c ?_)⟩
      simpa using inside

/-- A byte that starts a character does so behind any bytes. -/
theorem scanFrom_append_of_starts (starts : Starts byte)
    (proper : ∀ pending ∈ state, pending.Proper) (front : List UInt8) :
    scanFrom state (front ++ byte :: rest) = scanFrom state front ++ scan (byte :: rest) := by
  induction front generalizing state with
  | nil =>
    cases state with
    | none => rfl
    | some pending =>
      have proper := proper pending rfl
      have outside : ¬ (pending.low ≤ byte.toNat ∧ byte.toNat ≤ pending.high) := by
        rcases starts with below | above
        · have := proper.low
          omega
        · have := proper.high
          omega
      simp [scan, scanFrom, feed, proceed, outside]
  | cons first front ih =>
    simp only [List.cons_append, scanFrom, ih (feed_cases proper first).1, List.append_assoc]

theorem scan_append_of_starts (starts : Starts byte) (front : List UInt8) :
    scan (front ++ byte :: rest) = scan front ++ scan (byte :: rest) :=
  scanFrom_append_of_starts starts (by simp) front

theorem starts_encodeChar (c : Char) :
    ∃ byte tail, String.utf8EncodeChar c = byte :: tail ∧ Starts byte := by
  rw [encodeChar_eq]
  split
  · exact ⟨_, _, rfl, .inl (by rw [toNat_ofNat_of_lt] <;> omega)⟩
  split
  · exact ⟨_, _, rfl, .inr (by rw [toNat_ofNat_of_lt] <;> omega)⟩
  split
  · exact ⟨_, _, rfl, .inr (by rw [toNat_ofNat_of_lt] <;> omega)⟩
  · exact ⟨_, _, rfl, .inr (by rw [toNat_ofNat_of_lt] <;> omega)⟩

/-- Bytes are read apart in front of the bytes of a character. -/
theorem scan_append_encodeChar (front : List UInt8) (c : Char) (rest : List UInt8) :
    scan (front ++ (String.utf8EncodeChar c ++ rest)) = scan front ++ some c :: scan rest := by
  obtain ⟨byte, tail, shape, starts⟩ := starts_encodeChar c
  rw [← scan_encodeChar_append c rest, shape, List.cons_append, scan_append_of_starts starts]

theorem mem_scanFrom {c : Char} {bytes : List UInt8} (proper : ∀ pending ∈ state, pending.Proper)
    (inside : some c ∈ scanFrom state bytes) :
    (∃ byte ∈ bytes, byte.toNat < 0x80 ∧ c = Char.ofNat byte.toNat) ∨ 0x80 ≤ c.toNat := by
  induction bytes generalizing state with
  | nil => cases state <;> simp [scanFrom] at inside
  | cons byte rest ih =>
    obtain ⟨kept, made⟩ := feed_cases proper byte
    rw [scanFrom, List.mem_append] at inside
    rcases inside with here | later
    · rcases made c here with ascii | above
      · exact .inl ⟨byte, List.mem_cons_self, ascii⟩
      · exact .inr above
    · rcases ih kept later with ⟨other, member, ascii⟩ | above
      · exact .inl ⟨other, List.mem_cons_of_mem _ member, ascii⟩
      · exact .inr above

theorem mem_decodeLossy {c : Char} {bytes : List UInt8} (inside : c ∈ decodeLossy bytes) :
    (∃ byte ∈ bytes, byte.toNat < 0x80 ∧ c = Char.ofNat byte.toNat) ∨ 0x80 ≤ c.toNat := by
  obtain ⟨piece, member, shown⟩ := List.mem_map.mp inside
  cases piece with
  | none =>
    obtain rfl : Char.ofNat 0xFFFD = c := shown
    exact .inr (by decide)
  | some other =>
    obtain rfl : other = c := shown
    exact mem_scanFrom (by simp) member

theorem decode?_eq_some_iff {bytes : List UInt8} {text : List Char} :
    decode? bytes = some text ↔ scan bytes = text.map some := by
  rw [decode?, mapM_eq_some_iff, ← List.forall₂_eq_eq_eq, List.forall₂_map_right_iff]
  rfl

theorem decodeLossy_of_decode? {bytes : List UInt8} {text : List Char}
    (decoded : decode? bytes = some text) : decodeLossy bytes = text := by
  rw [decodeLossy, decode?_eq_some_iff.mp decoded]
  simp [Function.comp_def]

/-- A text with a character in the middle is the text of what stands around it. -/
theorem decode?_middle {front more : List UInt8} {c : Char} {text : List Char}
    (decoded : decode? (front ++ (String.utf8EncodeChar c ++ more)) = some text) :
    ∃ before behind, text = before ++ c :: behind ∧ decode? front = some before ∧
      decode? more = some behind := by
  rw [decode?_eq_some_iff, scan_append_encodeChar] at decoded
  obtain ⟨before, others, rfl, first, later⟩ := List.map_eq_append_iff.mp decoded.symm
  obtain ⟨d, behind, rfl, here, last⟩ := List.map_eq_cons_iff.mp later
  obtain rfl := Option.some.inj here
  exact ⟨before, behind, rfl, decode?_eq_some_iff.mpr first.symm,
    decode?_eq_some_iff.mpr last.symm⟩

/-- The bytes of the text that bytes show, with U+FFFD at each malformed place. -/
def repair (bytes : List UInt8) : List UInt8 := encode (decodeLossy bytes)

theorem repair_encode (text : List Char) : repair (encode text) = encode text := by
  rw [repair, decodeLossy_of_decode? (decode?_encode text)]

theorem repair_append_of_starts (starts : Starts byte) (front : List UInt8) :
    repair (front ++ byte :: rest) = repair front ++ repair (byte :: rest) := by
  simp only [repair, decodeLossy, scan_append_of_starts starts, List.map_append, encode_append]

theorem repair_cons_ascii (ascii : byte.toNat < 0x80) (rest : List UInt8) :
    repair (byte :: rest) = byte :: repair rest := by
  have encoded : String.utf8EncodeChar (Char.ofNat byte.toNat) = [byte] := by
    rw [encodeChar_eq, toNat_ofNat_of_ascii ascii, if_pos (by omega), UInt8.ofNat_toNat]
  simp only [repair, decodeLossy, scan_cons_ascii ascii, List.map_cons, encode_cons,
    Option.getD_some, encoded, List.singleton_append]

/-- Bytes that are repaired by themselves, whatever follows them. -/
def Repairs (bytes repaired : List UInt8) : Prop :=
  ∀ rest, repair (bytes ++ rest) = repaired ++ repair rest

section Repairs

variable {front repairedFront back repairedBack bytes repaired : List UInt8}

theorem Repairs.eq (repairs : Repairs bytes repaired) : repair bytes = repaired := by
  have whole := repairs []
  rw [List.append_nil] at whole
  rw [whole]
  exact List.append_nil repaired

theorem Repairs.append (first : Repairs front repairedFront) (second : Repairs back repairedBack) :
    Repairs (front ++ back) (repairedFront ++ repairedBack) := by
  intro rest
  rw [List.append_assoc, first, second, List.append_assoc]

theorem repairs_ascii (ascii : ∀ byte ∈ bytes, byte.toNat < 0x80) : Repairs bytes bytes := by
  intro rest
  induction bytes with
  | nil => rfl
  | cons byte bytes ih =>
    obtain ⟨here, later⟩ := List.forall_mem_cons.mp ascii
    rw [List.cons_append, repair_cons_ascii here, ih later, List.cons_append]

theorem repairs_byte (ascii : byte.toNat < 0x80) : Repairs [byte] [byte] :=
  repairs_ascii (List.forall_mem_singleton.mpr ascii)

theorem Repairs.cons (repairs : Repairs bytes repaired) (ascii : byte.toNat < 0x80) :
    Repairs (byte :: bytes) (byte :: repaired) :=
  (repairs_byte ascii).append repairs

theorem repairs_append_ascii (ascii : byte.toNat < 0x80) (front : List UInt8) :
    Repairs (front ++ [byte]) (repair front ++ [byte]) := by
  intro rest
  rw [List.append_assoc, List.singleton_append, repair_append_of_starts (.inl ascii),
    repair_cons_ascii ascii, List.append_assoc, List.singleton_append]

end Repairs

end ReleaseFeed.Text.Utf8
