import Mathlib.Data.List.TakeWhile
import ReleaseFeed.Proofs.Text.Digits
import ReleaseFeed.Proofs.Traversal
import ReleaseFeed.Time.Parse

namespace ReleaseFeed.Time

/-- An instant on an existing date, at a time of day that a clock can show. -/
structure Instant.InRange (instant : Instant) : Prop where
  date : instant.date.isValid = true
  hour : instant.hour < 24
  minute : instant.minute < 60
  second : instant.second ≤ 60
  nanosecond : instant.nanosecond < 10 ^ 9

section Numbers

variable {text rest : List Char} {value : Nat}

theorem number_lt {count : Nat} (read : number (some count) text = .ok (value, rest)) :
    value < 10 ^ (text.length - rest.length) ∧ text.length - rest.length ≤ count := by
  have digits : ∀ c ∈ (text.take count).takeWhile Char.isDigit, c.isDigit = true :=
    fun c inside => List.mem_takeWhile_imp inside
  have short : ((text.take count).takeWhile Char.isDigit).length ≤ (text.take count).length :=
    (List.takeWhile_sublist _).length_le
  have bound := Text.ofDigitChars_lt digits 0
  rw [List.length_take] at short
  unfold number at read
  dsimp only at read
  split at read
  · cases read
  split at read
  · cases read
  split at read
  · cases read
  · obtain ⟨rfl, rfl⟩ := Prod.mk.inj (Except.ok.inj read)
    rw [List.length_drop, Nat.sub_sub_self (by omega)]
    constructor
    · simpa using bound
    · omega

theorem bounded_range {low high : Nat} (read : bounded low high text = .ok (value, rest)) :
    low ≤ value ∧ value ≤ high := by
  rw [bounded, bind_eq_ok_iff] at read
  obtain ⟨⟨found, left⟩, -, read⟩ := read
  dsimp only at read
  split at read
  · rename_i inside
    obtain ⟨rfl, -⟩ := Prod.mk.inj (Except.ok.inj read)
    simpa using inside
  · cases read

theorem fraction_lt (read : fraction text = .ok (value, rest)) : value < 10 ^ 9 := by
  unfold fraction at read
  split at read
  · rename_i digits
    rw [bind_eq_ok_iff] at read
    obtain ⟨⟨found, left⟩, number, read⟩ := read
    obtain ⟨rfl, -⟩ := Prod.mk.inj (Except.ok.inj read)
    obtain ⟨bound, short⟩ := number_lt number
    calc found * Nat.pow 10 (9 - (digits.length - left.length))
        < 10 ^ (digits.length - left.length) * 10 ^ (9 - (digits.length - left.length)) :=
          Nat.mul_lt_mul_of_pos_right bound (Nat.pow_pos (by decide))
      _ = 10 ^ 9 := by rw [← Nat.pow_add, Nat.add_sub_cancel' short]
  · obtain ⟨rfl, -⟩ := Prod.mk.inj (Except.ok.inj read)
    decide

end Numbers

/-- What a clock shows ends in a second and a fraction within range. -/
theorem shown_range {text rest : List Char} {instant : Instant}
    (read : shown text = .ok (instant, rest)) :
    instant.second ≤ 60 ∧ instant.nanosecond < 10 ^ 9 := by
  rw [shown, bind_eq_ok_iff] at read
  obtain ⟨_, -, read⟩ := read
  simp only [bind_eq_ok_iff] at read
  obtain ⟨_, -, _, -, _, -, _, -, _, -, ⟨second, _⟩, secondRead, ⟨nanosecond, _⟩, fractionRead,
    read⟩ := read
  obtain ⟨rfl, -⟩ := Prod.mk.inj (Except.ok.inj read)
  exact ⟨(bounded_range secondRead).2, fraction_lt fractionRead⟩

theorem Instant.ofLocal_clock (shown : Instant) (offset : Int) :
    (shown.ofLocal offset).hour < 24 ∧ (shown.ofLocal offset).minute < 60 := by
  constructor
  · change ((shown.hour * 60 + shown.minute - offset) % 1440).toNat / 60 < 24
    omega
  · exact Nat.mod_lt _ (by decide)

theorem Instant.parse_inRange {text : List Char} {instant : Instant}
    (read : parse text = .ok instant) : instant.InRange := by
  rw [parse, bind_eq_ok_iff] at read
  obtain ⟨⟨shown, rest⟩, shownRead, read⟩ := read
  obtain ⟨second, nanosecond⟩ := shown_range shownRead
  dsimp only at read
  rw [bind_eq_ok_iff] at read
  obtain ⟨⟨offset, rest⟩, -, read⟩ := read
  dsimp only at read
  split at read
  · cases read
  split at read
  · cases read
  split at read
  · cases read
  split at read
  · cases read
  · rename_i onDate
    obtain rfl := Except.ok.inj read
    obtain ⟨hour, minute⟩ := shown.ofLocal_clock offset
    exact ⟨by simpa using onDate, hour, minute, second, nanosecond⟩

end ReleaseFeed.Time
