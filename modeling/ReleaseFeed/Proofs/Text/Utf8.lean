import ReleaseFeed.Text.Utf8

namespace ReleaseFeed.Text.Utf8

section Steps

variable {pending : Pending} {byte : UInt8} {rest : List UInt8}

theorem scanFrom_begin (high : 0x80 ≤ byte.toNat) (begins : begin byte.toNat = some pending) :
    scanFrom none (byte :: rest) = scanFrom (some pending) rest := by
  have notAscii : ¬ byte.toNat < 0x80 := by omega
  simp [scanFrom, feed, start, notAscii, begins]

theorem scanFrom_continue (low : pending.low ≤ byte.toNat) (high : byte.toNat ≤ pending.high)
    (needed : 1 < pending.needed) :
    scanFrom (some pending) (byte :: rest) =
      scanFrom (some ⟨pending.bits * 64 + byte.toNat % 64, pending.needed - 1, 0x80, 0xBF⟩)
        rest := by
  have more : ¬ pending.needed ≤ 1 := by omega
  simp [scanFrom, feed, proceed, low, high, more]

theorem scanFrom_finish (low : pending.low ≤ byte.toNat) (high : byte.toNat ≤ pending.high)
    (needed : pending.needed = 1) :
    scanFrom (some pending) (byte :: rest) =
      some (Char.ofNat (pending.bits * 64 + byte.toNat % 64)) :: scanFrom none rest := by
  simp [scanFrom, feed, proceed, low, high, needed]

end Steps

section Characters

variable {a b c d : UInt8} {rest : List UInt8}

theorem scan_two (first : 0xC2 ≤ a.toNat ∧ a.toNat < 0xE0)
    (second : 0x80 ≤ b.toNat ∧ b.toNat ≤ 0xBF) :
    scan (a :: b :: rest) =
      some (Char.ofNat ((a.toNat - 0xC0) * 64 + b.toNat % 64)) :: scan rest := by
  have begins : begin a.toNat = some ⟨a.toNat - 0xC0, 1, 0x80, 0xBF⟩ := by
    rw [begin, if_neg (by omega), if_pos (by omega)]
  rw [scan, scanFrom_begin (by omega) begins, scanFrom_finish second.1 second.2 rfl, scan]

theorem scan_three (first : 0xE0 ≤ a.toNat ∧ a.toNat < 0xF0)
    (second : (if a.toNat = 0xE0 then 0xA0 else 0x80) ≤ b.toNat ∧
      b.toNat ≤ if a.toNat = 0xED then 0x9F else 0xBF)
    (third : 0x80 ≤ c.toNat ∧ c.toNat ≤ 0xBF) :
    scan (a :: b :: c :: rest) = some (Char.ofNat
      (((a.toNat - 0xE0) * 64 + b.toNat % 64) * 64 + c.toNat % 64)) :: scan rest := by
  have begins : begin a.toNat = some ⟨a.toNat - 0xE0, 2, if a.toNat = 0xE0 then 0xA0 else 0x80,
      if a.toNat = 0xED then 0x9F else 0xBF⟩ := by
    rw [begin, if_neg (by omega), if_neg (by omega), if_pos (by omega)]
  rw [scan, scanFrom_begin (by omega) begins, scanFrom_continue second.1 second.2 (by simp),
    scanFrom_finish third.1 third.2 rfl, scan]

theorem scan_four (first : 0xF0 ≤ a.toNat ∧ a.toNat < 0xF5)
    (second : (if a.toNat = 0xF0 then 0x90 else 0x80) ≤ b.toNat ∧
      b.toNat ≤ if a.toNat = 0xF4 then 0x8F else 0xBF)
    (third : 0x80 ≤ c.toNat ∧ c.toNat ≤ 0xBF) (fourth : 0x80 ≤ d.toNat ∧ d.toNat ≤ 0xBF) :
    scan (a :: b :: c :: d :: rest) = some (Char.ofNat
      ((((a.toNat - 0xF0) * 64 + b.toNat % 64) * 64 + c.toNat % 64) * 64 + d.toNat % 64)) ::
        scan rest := by
  have begins : begin a.toNat = some ⟨a.toNat - 0xF0, 3, if a.toNat = 0xF0 then 0x90 else 0x80,
      if a.toNat = 0xF4 then 0x8F else 0xBF⟩ := by
    rw [begin, if_neg (by omega), if_neg (by omega), if_neg (by omega), if_pos (by omega)]
  rw [scan, scanFrom_begin (by omega) begins, scanFrom_continue second.1 second.2 (by simp),
    scanFrom_continue third.1 third.2 (by simp), scanFrom_finish fourth.1 fourth.2 rfl, scan]

end Characters

theorem toNat_ofNat_of_lt {value : Nat} (small : value < 256) :
    (UInt8.ofNat value).toNat = value := by
  rw [UInt8.toNat_ofNat', Nat.mod_eq_of_lt small]

theorem encodeChar_eq (c : Char) : String.utf8EncodeChar c =
    if c.toNat ≤ 0x7F then [.ofNat c.toNat]
    else if c.toNat ≤ 0x7FF then
      [.ofNat (c.toNat / 64 % 32 + 0xC0), .ofNat (c.toNat % 64 + 0x80)]
    else if c.toNat ≤ 0xFFFF then
      [.ofNat (c.toNat / 4096 % 16 + 0xE0), .ofNat (c.toNat / 64 % 64 + 0x80),
        .ofNat (c.toNat % 64 + 0x80)]
    else
      [.ofNat (c.toNat / 262144 % 8 + 0xF0), .ofNat (c.toNat / 4096 % 64 + 0x80),
        .ofNat (c.toNat / 64 % 64 + 0x80), .ofNat (c.toNat % 64 + 0x80)] := rfl

theorem scan_encodeChar_append (c : Char) (rest : List UInt8) :
    scan (String.utf8EncodeChar c ++ rest) = some c :: scan rest := by
  have valid : c.toNat < 0xD800 ∨ 0xDFFF < c.toNat ∧ c.toNat < 0x110000 := c.valid
  have tail (value : Nat) : (UInt8.ofNat (value % 64 + 0x80)).toNat = value % 64 + 0x80 :=
    toNat_ofNat_of_lt (by omega)
  have back {code : Nat} (same : code = c.toNat) : Char.ofNat code = c := by
    rw [same, Char.ofNat_toNat]
  rw [encodeChar_eq]
  split
  · have first : (UInt8.ofNat c.toNat).toNat = c.toNat := toNat_ofNat_of_lt (by omega)
    rw [List.singleton_append, scan_cons_ascii (by omega), back first]
  split
  · have first : (UInt8.ofNat (c.toNat / 64 % 32 + 0xC0)).toNat = c.toNat / 64 % 32 + 0xC0 :=
      toNat_ofNat_of_lt (by omega)
    rw [List.cons_append, List.cons_append, List.nil_append, scan_two (by omega)
      (by rw [tail]; omega), back (by rw [first, tail]; omega)]
  split
  · have first : (UInt8.ofNat (c.toNat / 4096 % 16 + 0xE0)).toNat = c.toNat / 4096 % 16 + 0xE0 :=
      toNat_ofNat_of_lt (by omega)
    rw [List.cons_append, List.cons_append, List.cons_append, List.nil_append, scan_three (by omega)
      (by rw [tail, first]; split <;> split <;> omega) (by rw [tail]; omega),
      back (by rw [first, tail, tail]; omega)]
  · have first : (UInt8.ofNat (c.toNat / 262144 % 8 + 0xF0)).toNat = c.toNat / 262144 % 8 + 0xF0 :=
      toNat_ofNat_of_lt (by omega)
    rw [List.cons_append, List.cons_append, List.cons_append, List.cons_append, List.nil_append,
      scan_four (by omega) (by rw [tail, first]; split <;> split <;> omega) (by rw [tail]; omega)
        (by rw [tail]; omega),
      back (by rw [first, tail, tail, tail]; omega)]

theorem encode_append (front back : List Char) :
    encode (front ++ back) = encode front ++ encode back :=
  List.flatMap_append

theorem encode_cons (c : Char) (text : List Char) :
    encode (c :: text) = String.utf8EncodeChar c ++ encode text :=
  List.flatMap_cons

theorem scan_encode (text : List Char) : scan (encode text) = text.map some := by
  induction text with
  | nil => rfl
  | cons first rest ih => rw [encode_cons, scan_encodeChar_append, ih, List.map_cons]

/-- The bytes of a text are read as the text. -/
theorem decode?_encode (text : List Char) : decode? (encode text) = some text := by
  rw [decode?, scan_encode]
  induction text with
  | nil => rfl
  | cons first rest ih => simp [List.mapM_cons, ih]

/-- An ASCII character is its own byte; all bytes of other characters are above ASCII. -/
theorem mem_encodeChar {c : Char} {byte : UInt8} (inside : byte ∈ String.utf8EncodeChar c) :
    byte.toNat = c.toNat ∨ 0x80 ≤ byte.toNat := by
  have high (value offset : Nat) (size : value + offset < 256) (above : 0x80 ≤ offset) :
      0x80 ≤ (UInt8.ofNat (value + offset)).toNat := by
    rw [toNat_ofNat_of_lt size]
    omega
  rw [encodeChar_eq] at inside
  split at inside
  · obtain rfl := List.mem_singleton.mp inside
    exact .inl (toNat_ofNat_of_lt (by omega))
  · right
    split at inside
    · simp only [List.mem_cons, List.not_mem_nil, or_false] at inside
      rcases inside with rfl | rfl <;> exact high _ _ (by omega) (by omega)
    split at inside
    · simp only [List.mem_cons, List.not_mem_nil, or_false] at inside
      rcases inside with rfl | rfl | rfl <;> exact high _ _ (by omega) (by omega)
    · simp only [List.mem_cons, List.not_mem_nil, or_false] at inside
      rcases inside with rfl | rfl | rfl | rfl <;> exact high _ _ (by omega) (by omega)

theorem encodeChar_ne_nil (c : Char) : String.utf8EncodeChar c ≠ [] := by
  rw [encodeChar_eq]
  split
  · simp
  split
  · simp
  split <;> simp

end ReleaseFeed.Text.Utf8
