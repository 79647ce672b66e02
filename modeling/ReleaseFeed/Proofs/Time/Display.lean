import ReleaseFeed.Proofs.Text.Trim
import ReleaseFeed.Proofs.Time.Range

namespace ReleaseFeed.Time

section Padding

variable {width value : Nat}

theorem isDigit_of_mem_zeroPadded {c : Char} (inside : c ∈ zeroPadded width value) :
    c.isDigit = true := by
  rcases List.mem_append.mp inside with zero | digit
  · rw [List.eq_of_mem_replicate zero]
    rfl
  · exact Nat.isDigit_of_mem_toDigits (by decide) (by decide) digit

theorem ofDigitChars_zeroPadded : Nat.ofDigitChars 10 (zeroPadded width value) 0 = value := by
  rw [zeroPadded, Nat.ofDigitChars_append, Nat.ofDigitChars_replicate_zero, Nat.mul_zero,
    Nat.ofDigitChars_ten_toDigits]

theorem zeroPadded_ne_nil (width value : Nat) : zeroPadded width value ≠ [] := by
  simp [zeroPadded, Nat.toDigits_ne_nil]

theorem length_zeroPadded (positive : 0 < width) (fits : value < 10 ^ width) :
    (zeroPadded width value).length = width := by
  have short := (Nat.length_toDigits_le_iff (by decide) positive).mpr fits
  rw [zeroPadded, List.length_append, List.length_replicate]
  omega

theorem exists_zeroPadded_eq_cons (width value : Nat) :
    ∃ first rest, zeroPadded width value = first :: rest ∧ first.isDigit = true := by
  obtain ⟨first, rest, shape⟩ := List.exists_cons_of_ne_nil (zeroPadded_ne_nil width value)
  exact ⟨first, rest, shape, isDigit_of_mem_zeroPadded (by rw [shape]; exact List.mem_cons_self)⟩

end Padding

section Numbers

variable {width value : Nat} {rest : List Char}

/-- A number without limit ends at the first other character. -/
theorem number_zeroPadded (small : value ≤ maxNumber)
    (stops : ∀ c ∈ rest.head?, c.isDigit = false) :
    number none (zeroPadded width value ++ rest) = .ok (value, rest) := by
  have taken : (zeroPadded width value ++ rest).takeWhile Char.isDigit = zeroPadded width value :=
    Text.takeWhile_append_of_stops (fun c inside => isDigit_of_mem_zeroPadded inside) stops
  obtain ⟨first, others, shape, -⟩ := exists_zeroPadded_eq_cons width value
  unfold number
  dsimp only
  rw [taken, ofDigitChars_zeroPadded, List.drop_left, shape]
  exact if_neg (Nat.not_lt.mpr small)

/-- A number ends at its limit or ahead of it at the first other character. -/
theorem number_zeroPadded_limited {count : Nat} (small : value ≤ maxNumber)
    (wide : (zeroPadded width value).length ≤ count)
    (stops : (zeroPadded width value).length = count ∨ ∀ c ∈ rest.head?, c.isDigit = false) :
    number (some count) (zeroPadded width value ++ rest) = .ok (value, rest) := by
  have taken : ((zeroPadded width value ++ rest).take count).takeWhile Char.isDigit =
      zeroPadded width value := by
    rw [List.take_append, List.take_of_length_le wide]
    apply Text.takeWhile_append_of_stops
    · exact fun c inside => isDigit_of_mem_zeroPadded inside
    · intro c found
      rw [List.head?_take] at found
      split at found
      · cases found
      · rename_i goesOn
        rcases stops with full | stops
        · omega
        · exact stops c found
  obtain ⟨first, others, shape, -⟩ := exists_zeroPadded_eq_cons width value
  unfold number
  dsimp only
  rw [taken, ofDigitChars_zeroPadded, List.drop_left, shape]
  exact if_neg (Nat.not_lt.mpr small)

theorem trimStart_zeroPadded :
    Text.trimStart (zeroPadded width value ++ rest) = zeroPadded width value ++ rest := by
  obtain ⟨first, others, shape, digit⟩ := exists_zeroPadded_eq_cons width value
  rw [shape, List.cons_append, Text.trimStart,
    List.dropWhile_cons_of_neg (by simp [Text.isBlank_of_isDigit digit])]

theorem bounded_zeroPadded {low high : Nat} (above : low ≤ value) (below : value ≤ high)
    (fits : high < 100) : bounded low high (zeroPadded 2 value ++ rest) = .ok (value, rest) := by
  have size : (zeroPadded 2 value).length = 2 := length_zeroPadded (by decide) (by omega)
  have small : value ≤ maxNumber := by
    unfold maxNumber
    omega
  rw [bounded, trimStart_zeroPadded,
    number_zeroPadded_limited small (Nat.le_of_eq size) (.inl size)]
  have inside : (decide (low ≤ value) && decide (value ≤ high)) = true := by simp [above, below]
  exact if_pos inside

theorem separator_append {c : Char} (visible : Text.isBlank c = false) :
    separator c (c :: rest) = .ok rest := by
  rw [separator, Text.trimStart, List.dropWhile_cons_of_neg (by simp [visible])]
  exact if_pos rfl

end Numbers

section Dates

variable {rest : List Char}

theorem year_fits (value : Int) (above : -0x80000000 ≤ value) (below : value < 0x80000000) :
    (decide (-0x80000000 ≤ value) && decide (value < 0x80000000)) = true := by
  rw [Bool.and_eq_true, decide_eq_true_eq, decide_eq_true_eq]
  exact ⟨above, below⟩

theorem year_unsigned {text : List Char} {value : Nat} (starts : ∃ c ∈ text.head?, c.isDigit = true)
    (read : number (some 4) text = .ok (value, rest)) (small : value < 0x80000000) :
    year text = .ok ((value : Int), rest) := by
  obtain ⟨first, found, digit⟩ := starts
  obtain ⟨others, rfl⟩ := List.head?_eq_some_iff.mp found
  have stays : Text.trimStart (first :: others) = first :: others :=
    List.dropWhile_cons_of_neg (by simp [Text.isBlank_of_isDigit digit])
  have inside := year_fits value (by omega) (by omega)
  unfold year
  rw [stays]
  split
  · rename_i shape
    rw [(List.cons.inj shape).1] at digit
    cases digit
  · rename_i shape
    rw [(List.cons.inj shape).1] at digit
    cases digit
  · rw [read, ok_bind]
    simp only [pure_bind, inside, if_true]
    rfl

theorem year_negative {text : List Char} {value : Nat} (read : number none text = .ok (value, rest))
    (small : value < 0x80000000) : year ('-' :: text) = .ok (-(value : Int), rest) := by
  have inside := year_fits (-value) (by omega) (by omega)
  unfold year
  rw [Text.trimStart, List.dropWhile_cons_of_neg (by decide)]
  simp only [read, ok_bind, pure_bind, inside, if_true]
  rfl

theorem year_positive {text : List Char} {value : Nat} (read : number none text = .ok (value, rest))
    (small : value < 0x80000000) : year ('+' :: text) = .ok ((value : Int), rest) := by
  have inside := year_fits value (by omega) (by omega)
  unfold year
  rw [Text.trimStart, List.dropWhile_cons_of_neg (by decide)]
  split
  · rename_i shape
    cases (List.cons.inj shape).1
  · rename_i shape
    rw [← (List.cons.inj shape).2, read, ok_bind]
    simp only [pure_bind, inside, if_true]
    rfl
  · rename_i apart
    exact absurd rfl (apart text)

theorem year_displayYear {value : Int} (above : minYear ≤ value) (below : value ≤ maxYear) :
    year (displayYear value ++ '-' :: rest) = .ok (value, '-' :: rest) := by
  have stops : ∀ c ∈ ('-' :: rest).head?, c.isDigit = false := by simp
  unfold minYear at above
  unfold maxYear at below
  unfold displayYear
  split
  · rename_i short
    rw [Bool.and_eq_true, decide_eq_true_eq, decide_eq_true_eq] at short
    have size : (zeroPadded 4 value.toNat).length = 4 := length_zeroPadded (by decide) (by omega)
    have small : value.toNat ≤ maxNumber := by
      unfold maxNumber
      omega
    obtain ⟨first, others, shape, digit⟩ := exists_zeroPadded_eq_cons 4 value.toNat
    rw [year_unsigned ⟨first, by simp [shape], digit⟩
      (number_zeroPadded_limited small (Nat.le_of_eq size) (.inl size)) (by omega),
      Int.toNat_of_nonneg short.1]
  · have small : value.natAbs ≤ maxNumber := by
      unfold maxNumber
      omega
    have read : number none (zeroPadded 4 value.natAbs ++ '-' :: rest) = _ :=
      number_zeroPadded small stops
    rw [List.cons_append]
    split
    · rw [year_negative read (by omega)]
      congr
      omega
    · rw [year_positive read (by omega)]
      congr
      omega

theorem date_display {date : Date} (valid : date.isValid = true) :
    Time.date (date.display ++ rest) = .ok (date, rest) := by
  simp only [Date.isValid, Bool.and_eq_true, decide_eq_true_eq] at valid
  obtain ⟨⟨⟨⟨⟨above, below⟩, fromMonth⟩, toMonth⟩, fromDay⟩, toDay⟩ := valid
  have long : daysInMonth date.year date.month ≤ 31 := by
    unfold daysInMonth
    split
    · split <;> decide
    · split <;> decide
  simp only [Date.display, List.append_assoc, List.cons_append]
  rw [Time.date, year_displayYear above below, ok_bind]
  dsimp only
  rw [separator_append rfl, ok_bind, bounded_zeroPadded fromMonth toMonth (by decide), ok_bind]
  dsimp only
  rw [separator_append rfl, ok_bind,
    bounded_zeroPadded fromDay (Nat.le_trans toDay long) (by decide)]
  rfl

end Dates

section Times

variable {rest : List Char}

theorem fraction_padded {width value : Nat} (positive : 0 < width) (wide : width ≤ 9)
    (fits : value < 10 ^ width) (stops : ∀ c ∈ rest.head?, c.isDigit = false) :
    fraction ('.' :: (zeroPadded width value ++ rest)) = .ok (value * 10 ^ (9 - width), rest) := by
  have size := length_zeroPadded positive fits
  have small : value ≤ maxNumber := by
    have := Nat.pow_le_pow_right (n := 10) (by decide) wide
    unfold maxNumber
    omega
  have left : rest.dropWhile Char.isDigit = rest := by
    cases rest with
    | nil => rfl
    | cons first others => exact List.dropWhile_cons_of_neg (by simp [stops first rfl])
  have read : number (some 9) (zeroPadded width value ++ rest) = _ :=
    number_zeroPadded_limited small (Nat.le_trans (Nat.le_of_eq size) wide) (.inr stops)
  unfold fraction
  split
  · rename_i shape
    rw [← (List.cons.inj shape).2, read, ok_bind]
    dsimp only
    rw [List.length_append, Nat.add_sub_cancel, size, left]
    rfl
  · rename_i apart
    exact absurd rfl (apart _)

theorem fraction_displayFraction {nanosecond : Nat} (below : nanosecond < 10 ^ 9)
    (stops : ∀ c ∈ rest.head?, c.isDigit = false ∧ c ≠ '.') :
    fraction (displayFraction nanosecond ++ rest) = .ok (nanosecond, rest) := by
  have ends : ∀ c ∈ rest.head?, c.isDigit = false := fun c found => (stops c found).1
  unfold displayFraction
  split
  · rename_i whole
    subst whole
    unfold fraction
    split
    · rename_i shape
      have apart := (stops '.' (by rw [show rest = '.' :: _ from shape]; rfl)).2
      contradiction
    · rfl
  split
  · rw [List.cons_append, fraction_padded (by decide) (by decide) (by omega) ends]
    congr
    omega
  split
  · rw [List.cons_append, fraction_padded (by decide) (by decide) (by omega) ends]
    congr
    omega
  · rw [List.cons_append, fraction_padded (by decide) (by decide) below ends, Nat.sub_self,
      Nat.pow_zero, Nat.mul_one]

theorem shown_displayBare {instant : Instant} (range : instant.InRange)
    (stops : ∀ c ∈ rest.head?, c.isDigit = false ∧ c ≠ '.') :
    shown (instant.displayBare ++ rest) = .ok (instant, rest) := by
  rw [Instant.displayBare, Instant.displayTime, shown, List.append_assoc, date_display range.date,
    ok_bind]
  dsimp only [List.cons_append]
  rw [timeMark, if_pos (by decide), ok_bind]
  simp only [List.append_assoc, List.cons_append]
  rw [bounded_zeroPadded (Nat.zero_le _) (Nat.le_of_lt_succ range.hour) (by decide), ok_bind]
  dsimp only
  rw [separator_append rfl, ok_bind,
    bounded_zeroPadded (Nat.zero_le _) (Nat.le_of_lt_succ range.minute) (by decide), ok_bind]
  dsimp only
  rw [separator_append rfl, ok_bind,
    bounded_zeroPadded (Nat.zero_le _) range.second (by decide), ok_bind]
  dsimp only
  rw [fraction_displayFraction range.nanosecond stops]
  rfl

theorem Instant.ofLocal_zero {instant : Instant} (range : instant.InRange) :
    instant.ofLocal 0 = instant := by
  obtain ⟨date, hour, minute, second, nanosecond⟩ := instant
  obtain ⟨-, fullHour, fullMinute, -, -⟩ := range
  dsimp only at fullHour fullMinute
  have early : ¬ ((hour : Int) * 60 + minute - 0 < 0) := by omega
  have late : ¬ (1440 ≤ (hour : Int) * 60 + minute - 0) := by omega
  have clock : (((hour : Int) * 60 + minute - 0) % 1440).toNat = hour * 60 + minute := by omega
  simp only [ofLocal, if_neg early, if_neg late, clock]
  congr 1 <;> omega

theorem Instant.parse_display {instant : Instant} (range : instant.InRange) :
    parse instant.display = .ok instant := by
  have read : shown (instant.displayBare ++ ['Z']) = _ := shown_displayBare range (by simp)
  have zulu : offset (Text.trimStart ['Z']) = .ok (0, []) := rfl
  have valid := range.date
  rw [parse, display, read, ok_bind]
  dsimp only
  rw [zulu, ok_bind, ofLocal_zero range]
  dsimp only
  rw [valid]
  rfl

end Times
end ReleaseFeed.Time
