import ReleaseFeed.Text.Blank
import ReleaseFeed.Text.Width

namespace ReleaseFeed.Text

/-- No code point lies in both tables. The tables are read side by side, once. -/
def apart : List (Nat × Nat) → List (Nat × Nat) → Bool
  | [], _ => true
  | (first, last) :: rest, others =>
    let left := others.dropWhile fun range => range.2 < first
    left.head?.all (fun range => last < range.1) && apart rest left

theorem liesIn_cons_iff {code first last : Nat} {rest : List (Nat × Nat)} :
    liesIn code ((first, last) :: rest) = true ↔
      first ≤ code ∧ (code ≤ last ∨ liesIn code rest = true) := by
  rw [liesIn]
  split
  · rename_i before
    simp [Nat.not_le.mpr before]
  · rename_i reached
    simp [Nat.le_of_not_lt reached]

/-- What lies below a code point does not matter for it. -/
theorem liesIn_dropWhile {first code : Nat} {ranges : List (Nat × Nat)} (reached : first ≤ code)
    (found : liesIn code ranges = true) :
    liesIn code (ranges.dropWhile fun range => range.2 < first) = true := by
  induction ranges with
  | nil => exact found
  | cons range rest ih =>
    by_cases below : range.2 < first
    · rw [List.dropWhile_cons_of_pos (by simpa using below)]
      apply ih
      exact (liesIn_cons_iff.mp found).2.resolve_left
        (Nat.not_le.mpr (Nat.lt_of_lt_of_le below reached))
    · rwa [List.dropWhile_cons_of_neg (by simpa using below)]

theorem not_liesIn_of_apart {code : Nat} {ranges others : List (Nat × Nat)}
    (distinct : apart ranges others = true) (found : liesIn code ranges = true) :
    liesIn code others = false := by
  induction ranges generalizing others with
  | nil => cases found
  | cons range rest ih =>
    obtain ⟨first, last⟩ := range
    obtain ⟨gap, distinct⟩ := Bool.and_eq_true _ _ ▸ distinct
    obtain ⟨reached, place⟩ := liesIn_cons_iff.mp found
    cases shared : liesIn code others with
    | false => rfl
    | true =>
      have left := liesIn_dropWhile reached shared
      rcases place with here | later
      · cases shape : others.dropWhile fun range => decide (range.2 < first) with
        | nil => simp [shape, liesIn] at left
        | cons next behind =>
          have before : last < next.1 := by simpa [shape] using gap
          simp [shape, liesIn, Nat.lt_of_le_of_lt here before] at left
      · simp [ih distinct later] at left

/-- Tables that tell no character without a column of its own. -/
def takesColumns (ranges : List (Nat × Nat)) : Bool :=
  apart ranges graphemeExtend && apart ranges otherZeroWidth &&
    apart ranges [(0, 0x1F), (0x7F, 0x9F)]

theorem one_le_soloWidth_of_not_zeroWidth {c : Char} (shown : isZeroWidth c = false) :
    1 ≤ soloWidth c := by
  unfold soloWidth
  rw [shown]
  split
  · exact Nat.le_refl 1
  · split
    · decide
    · rw [if_neg (by decide)]
      split
      · decide
      · split <;> decide

theorem one_le_soloWidth {c : Char} (ranges : List (Nat × Nat)) (shown : takesColumns ranges = true)
    (found : liesIn c.toNat ranges = true) : 1 ≤ soloWidth c := by
  simp only [takesColumns, Bool.and_eq_true] at shown
  apply one_le_soloWidth_of_not_zeroWidth
  simp [isZeroWidth, isGraphemeExtend, not_liesIn_of_apart shown.1.1 found,
    not_liesIn_of_apart shown.1.2 found]

end ReleaseFeed.Text
