import Mathlib.Algebra.Group.Nat.Defs
import Mathlib.Data.List.Induction
import ReleaseFeed.Text.Blank

namespace ReleaseFeed.Text

theorem isDigit_iff {c : Char} : c.isDigit = true ↔ 48 ≤ c.toNat ∧ c.toNat ≤ 57 := by
  rw [Char.isDigit, Bool.and_eq_true, decide_eq_true_eq, decide_eq_true_eq]
  rfl

theorem isBlank_of_isDigit {c : Char} (digit : c.isDigit = true) : isBlank c = false := by
  have range := isDigit_iff.mp digit
  simp only [isBlank, Bool.or_eq_false_iff, Bool.and_eq_false_iff, decide_eq_false_iff_not,
    beq_eq_false_iff_ne]
  omega

/-- Digits that follow a value leave less than one more of it. -/
theorem ofDigitChars_lt {text : List Char} (digits : ∀ c ∈ text, c.isDigit = true) (value : Nat) :
    Nat.ofDigitChars 10 text value < (value + 1) * 10 ^ text.length := by
  induction text generalizing value with
  | nil =>
    rw [Nat.ofDigitChars_nil, List.length_nil]
    omega
  | cons first rest ih =>
    obtain ⟨digit, digits⟩ := List.forall_mem_cons.mp digits
    have rank := isDigit_iff.mp digit
    have zero : '0'.toNat = 48 := rfl
    rw [Nat.ofDigitChars_cons, List.length_cons, Nat.pow_succ']
    calc Nat.ofDigitChars 10 rest (10 * value + (first.toNat - '0'.toNat))
        < (10 * value + (first.toNat - '0'.toNat) + 1) * 10 ^ rest.length := ih digits _
      _ ≤ ((value + 1) * 10) * 10 ^ rest.length := Nat.mul_le_mul_right _ (by omega)
      _ = (value + 1) * (10 * 10 ^ rest.length) := Nat.mul_assoc ..

/-- Digits of one length that have the same value are the same digits. -/
theorem eq_of_ofDigitChars_eq {left right : List Char} (size : left.length = right.length)
    (leftDigits : ∀ c ∈ left, c.isDigit = true) (rightDigits : ∀ c ∈ right, c.isDigit = true)
    {before behind : Nat}
    (value : Nat.ofDigitChars 10 left before = Nat.ofDigitChars 10 right behind) :
    before = behind ∧ left = right := by
  induction left generalizing right before behind with
  | nil =>
    obtain rfl := List.length_eq_zero_iff.mp size.symm
    exact ⟨value, rfl⟩
  | cons first rest ih =>
    cases right with
    | nil => contradiction
    | cons second others =>
      obtain ⟨low, leftDigits⟩ := List.forall_mem_cons.mp leftDigits
      obtain ⟨high, rightDigits⟩ := List.forall_mem_cons.mp rightDigits
      rw [Nat.ofDigitChars_cons, Nat.ofDigitChars_cons] at value
      obtain ⟨same, tails⟩ := ih (Nat.succ.inj size) leftDigits rightDigits value
      have zero : '0'.toNat = 48 := rfl
      rw [isDigit_iff] at low high
      have code : first.toNat = second.toNat := by omega
      exact ⟨by omega, by rw [Char.toNat_inj.mp code, tails]⟩

theorem digitChar_sub {c : Char} (digit : c.isDigit = true) : Nat.digitChar (c.toNat - 48) = c := by
  have codes : ∀ value < 10, (Nat.digitChar value).toNat = value + 48 := by decide
  rw [isDigit_iff] at digit
  apply Char.toNat_inj.mp
  rw [codes _ (by omega)]
  omega

theorem toDigits_ofDigitChars {text : List Char} (nonempty : text ≠ [])
    (digits : ∀ c ∈ text, c.isDigit = true) (plain : text.head? = some '0' → text = ['0']) :
    Nat.toDigits 10 (Nat.ofDigitChars 10 text 0) = text := by
  induction text using List.reverseRecOn with
  | nil => contradiction
  | append_singleton front last ih =>
    have digit := digits last (by simp)
    have shown := digitChar_sub digit
    have rank := isDigit_iff.mp digit
    have value : Nat.ofDigitChars 10 (front ++ [last]) 0 =
        10 * Nat.ofDigitChars 10 front 0 + (last.toNat - 48) := by
      rw [Nat.ofDigitChars_append, Nat.ofDigitChars_cons, Nat.ofDigitChars_nil]
      rfl
    rw [value]
    by_cases alone : front = []
    · subst alone
      rw [Nat.ofDigitChars_nil, Nat.mul_zero, Nat.zero_add,
        Nat.toDigits_of_lt_base (by omega), shown]
      rfl
    · have head : front.head? ≠ some '0' := by
        intro starts
        have whole := plain (by rw [List.head?_append, starts]; rfl)
        have short := congrArg List.length whole
        simp only [List.length_append, List.length_cons, List.length_nil] at short
        exact alone (List.length_eq_zero_iff.mp (by omega))
      have back := ih alone (fun c inside => digits c (List.mem_append_left _ inside))
        (fun starts => absurd starts head)
      have positive : 0 < Nat.ofDigitChars 10 front 0 := by
        apply Nat.pos_of_ne_zero
        intro nothing
        rw [nothing] at back
        exact head (back ▸ rfl)
      rw [Nat.toDigits_of_base_le (by decide) (by omega),
        show (10 * Nat.ofDigitChars 10 front 0 + (last.toNat - 48)) / 10 =
          Nat.ofDigitChars 10 front 0 by omega,
        show (10 * Nat.ofDigitChars 10 front 0 + (last.toNat - 48)) % 10 = last.toNat - 48 by omega,
        back, shown]

end ReleaseFeed.Text
