import Mathlib
import ReleaseFeed.Proofs.Text.Blanks

namespace ReleaseFeed.Text

variable {c : Char} {ahead : Ahead}

/-- The columns that what stands ahead of a character is sure to have. -/
def Shape.credit : Shape → Int
  | .joinedFlagHalf | .joinedFlagOdd | .tifinaghAfterJoiner | .khmerLetter => 1
  | _ => 0

/-- The columns that the next half of a flag may take back. -/
def Shape.debt : Shape → Int
  | .joinedFlagEven => 2
  | _ => 0

/-- The columns that a text may still gain over its characters one by one. -/
def Ahead.debt (ahead : Ahead) : Int :=
  ahead.shape.debt + (if ahead.style = some .emoji then 1 else 0) + (if ahead.widens then 1 else 0)

/-- A character that can make a text wider than its characters one by one: a control, or the
selector of emoji or of wide quotation marks. -/
def stretches (c : Char) : Bool := isControl c || c.toNat == 0xFE0F || c.toNat == 0xFE01

/-- What is measured keeps the columns that are sure, and gains no more than `own` columns and what
was owed. -/
structure Bounded (own : Int) (ahead : Ahead) (measured : Int × Ahead) : Prop where
  credit : measured.2.shape.credit ≤ ahead.shape.credit + measured.1
  debt : measured.1 + measured.2.debt ≤ own + ahead.debt

theorem Shape.credit_nonneg (shape : Shape) : 0 ≤ shape.credit := by
  cases shape <;> simp [credit]

theorem Shape.debt_nonneg (shape : Shape) : 0 ≤ shape.debt := by
  cases shape <;> simp [debt]

theorem Ahead.shape_debt_le (ahead : Ahead) : ahead.shape.debt ≤ ahead.debt := by
  unfold debt
  split <;> split <;> omega

theorem Ahead.debt_nonneg (ahead : Ahead) : 0 ≤ ahead.debt :=
  Int.le_trans ahead.shape.debt_nonneg ahead.shape_debt_le

theorem Bounded.mono {own more : Int} {before : Ahead} {measured : Int × Ahead}
    (bounded : Bounded own before measured) (wider : own ≤ more)
    (credit : before.shape.credit ≤ ahead.shape.credit) (debt : before.debt ≤ ahead.debt) :
    Bounded more ahead measured where
  credit := Int.le_trans bounded.credit (Int.add_le_add_right credit _)
  debt := Int.le_trans bounded.debt (Int.add_le_add wider debt)

theorem Bounded.plain {own columns : Int} (nonneg : 0 ≤ columns)
    (fits : columns ≤ own + ahead.debt) : Bounded own ahead (columns, Ahead.plain) where
  credit := Int.add_nonneg ahead.shape.credit_nonneg nonneg
  debt := by
    change columns + 0 ≤ _
    omega

theorem measureTag?_bounds {columns : Int} {shape next : Shape}
    (found : measureTag? c shape = some (columns, next)) :
    next.credit ≤ shape.credit + columns ∧ columns + next.debt ≤ soloWidth c + shape.debt := by
  revert found
  fun_cases measureTag? c shape <;> intro found <;> cases found <;> simp [Shape.credit, Shape.debt]

theorem measureEmoji?_bounds {columns : Int} {shape next : Shape}
    (found : measureEmoji? c shape = some (columns, next)) :
    next.credit ≤ shape.credit + columns ∧ columns + next.debt ≤ soloWidth c + shape.debt := by
  have indicator (half : isRegionalIndicator c = true) : 1 ≤ soloWidth c := by
    apply one_le_soloWidth [(0x1F1E6, 0x1F1FF)] (by decide +kernel)
    simpa [isRegionalIndicator, liesIn_cons_iff, liesIn] using half
  revert found
  fun_cases measureEmoji? c shape
  case case25 => exact measureTag?_bounds
  all_goals intro found
  all_goals cases found
  all_goals simp_all [Shape.credit, Shape.debt]
  all_goals omega

theorem measureLigature?_bounds {columns : Int} {shape next : Shape}
    (found : measureLigature? c shape = some (columns, next)) :
    next.credit ≤ shape.credit + columns ∧ columns + next.debt ≤ soloWidth c + shape.debt := by
  have joiner (tifinagh : isTifinaghJoiner c = true) : 1 ≤ soloWidth c := by
    have code : liesIn c.toNat [(0x2D7F, 0x2D7F)] = true := by
      simp_all [isTifinaghJoiner, liesIn]
    have other : liesIn c.toNat otherZeroWidth = false :=
      not_liesIn_of_apart (by decide +kernel) code
    exact one_le_soloWidth_of_not_zeroWidth (by simp [isZeroWidth, tifinagh, other])
  have vowel (kirat : c.toNat = 0x16D68) : 1 ≤ soloWidth c := by
    apply one_le_soloWidth [(0x16D68, 0x16D68)] (by decide +kernel)
    simp [liesIn, kirat]
  revert found
  fun_cases measureLigature? c shape <;> intro found <;> cases found <;>
    simp_all [Shape.credit, Shape.debt]

theorem shapeOf_bounds : (shapeOf c).credit ≤ soloWidth c ∧ (shapeOf c).debt = 0 := by
  have khmer (letter : isKhmerLetter c = true) : 1 ≤ soloWidth c :=
    one_le_soloWidth _ (by decide +kernel) letter
  fun_cases shapeOf c <;> simp_all [Shape.credit, Shape.debt]

theorem Ahead.debt_ofShape (shape : Shape) : (Ahead.ofShape shape).debt = shape.debt := by
  simp [Ahead.debt, Ahead.ofShape]

theorem Shape.credit_join (shape : Shape) : shape.join.credit = shape.credit := by
  cases shape <;> rfl

theorem Shape.debt_join (shape : Shape) : shape.join.debt = shape.debt := by
  cases shape <;> rfl

theorem bounded_measureShaped (ahead : Ahead) :
    Bounded (soloWidth c) ahead (measureShaped c ahead) := by
  have owed := ahead.shape_debt_le
  unfold measureShaped
  split
  · refine ⟨?_, ?_⟩
    · change ahead.shape.join.credit ≤ _
      exact Int.le_of_eq ((Shape.credit_join _).trans (Int.add_zero _).symm)
    · rw [Ahead.debt_ofShape, Shape.debt_join]
      omega
  · split
    · exact ⟨Int.le_of_eq (Int.add_zero _).symm, Int.add_le_add_right (Int.natCast_nonneg _) _⟩
    · split
      · rename_i columns shape found
        have bounds : shape.credit ≤ ahead.shape.credit + columns ∧
            columns + shape.debt ≤ soloWidth c + ahead.shape.debt := by
          rcases Option.or_eq_some_iff.mp found with emoji | ⟨_, ligature⟩
          · exact measureEmoji?_bounds emoji
          · exact measureLigature?_bounds ligature
        refine ⟨bounds.1, ?_⟩
        rw [Ahead.debt_ofShape]
        exact Int.le_trans bounds.2 (Int.add_le_add_left owed _)
      · have bounds := shapeOf_bounds (c := c)
        have credit := ahead.shape.credit_nonneg
        have debt := ahead.debt_nonneg
        refine ⟨?_, ?_⟩
        · change (shapeOf c).credit ≤ _
          omega
        · rw [Ahead.debt_ofShape, bounds.2]
          omega

theorem Ahead.unselect_bounds (ahead : Ahead) :
    ahead.unselect.shape.credit ≤ ahead.shape.credit ∧ ahead.unselect.debt ≤ ahead.debt := by
  unfold unselect
  split
  · refine ⟨Int.le_refl _, ?_⟩
    grind [debt]
  · exact ⟨ahead.shape.credit_nonneg, ahead.debt_nonneg⟩

theorem Ahead.unwiden_bounds (ahead : Ahead) :
    ahead.unwiden.shape.credit ≤ ahead.shape.credit ∧ ahead.unwiden.debt ≤ ahead.debt := by
  refine ⟨Int.le_refl _, ?_⟩
  grind [unwiden, debt]

/-- A selector lets its base gain a column if it asks for emoji. -/
theorem bounded_select (style : Style) (ahead : Ahead) :
    Bounded (if style = .emoji then 1 else 0) ahead (0, ahead.select style) := by
  have nonneg := ahead.debt_nonneg
  have credit := ahead.shape.credit_nonneg
  have plainCredit : Ahead.plain.shape.credit = 0 := rfl
  have plainDebt : Ahead.plain.shape.debt = 0 := rfl
  have plainWidens : Ahead.plain.widens = false := rfl
  have shapeDebt := ahead.shape.debt_nonneg
  unfold Ahead.select
  refine ⟨?_, ?_⟩
  · grind
  · grind [Ahead.debt]

theorem bounded_widen (ahead : Ahead) : Bounded 1 ahead (0, ahead.widen) := by
  obtain ⟨credit, debt⟩ := ahead.unselect_bounds
  refine ⟨by simpa [Ahead.widen] using credit, ?_⟩
  grind [Ahead.debt, Ahead.widen]

theorem charWidth_eq (c : Char) : charWidth c = if isControl c then 0 else soloWidth c := by
  unfold charWidth charWidth?
  split <;> rfl

/-- The columns that a character is counted with, and one more if it can stretch a text. -/
def allowance (c : Char) : Nat := charWidth c + if stretches c then 1 else 0

theorem one_le_allowance (stretched : stretches c = true) : 1 ≤ allowance c := by
  rw [allowance, if_pos stretched]
  exact Nat.le_add_left 1 _

/-- A control is counted with no column, but measured with one. -/
theorem charWidth_cases (c : Char) :
    charWidth c = soloWidth c ∨ (isControl c = true ∧ charWidth c = 0 ∧ soloWidth c = 1) := by
  rw [charWidth_eq]
  cases control : isControl c with
  | false => exact .inl rfl
  | true =>
    have below : c.toNat ≤ 0xA0 := by
      simp [isControl] at control
      omega
    exact .inr ⟨rfl, rfl, soloWidth_of_small below⟩

theorem soloWidth_le_allowance (c : Char) : soloWidth c ≤ allowance c := by
  unfold allowance
  rcases charWidth_cases c with same | ⟨control, none, one⟩
  · omega
  · rw [one]
    exact one_le_allowance (by simp [stretches, control])

theorem Ahead.ignore_bounds (ahead : Ahead) (style : Style) :
    (ahead.ignore style).shape.credit ≤ ahead.shape.credit ∧
      (ahead.ignore style).debt ≤ ahead.debt := by
  unfold ignore
  split
  · exact ahead.unselect_bounds
  · exact ⟨Int.le_refl _, Int.le_refl _⟩

theorem bounded_measureUnselected (ahead : Ahead) :
    Bounded (soloWidth c) ahead (measureUnselected c ahead) := by
  unfold measureUnselected
  split
  · rename_i quoted
    simp only [Bool.and_eq_true] at quoted
    have own : 1 ≤ soloWidth c := by
      apply one_le_soloWidth [(0x2018, 0x2019), (0x201C, 0x201D)] (by decide +kernel)
      have quote := quoted.2
      simp only [isCurlyQuote, Bool.or_eq_true, beq_iff_eq] at quote
      rcases quote with ((rfl | rfl) | rfl) | rfl <;> decide
    have waiting : 1 ≤ ahead.debt := by
      have := ahead.shape.debt_nonneg
      grind [Ahead.debt]
    exact .plain (by decide) (by omega)
  · exact (bounded_measureShaped ahead.unwiden).mono (Int.le_refl _) ahead.unwiden_bounds.1
      ahead.unwiden_bounds.2

theorem bounded_measureLatin (small : c.toNat ≤ 0xA0) (ahead : Ahead) :
    Bounded (allowance c) ahead (measureLatin c ahead) := by
  have own := soloWidth_of_small small
  have enough := soloWidth_le_allowance c
  have owed := ahead.debt_nonneg
  have shown := ahead.shape.credit_nonneg
  unfold measureLatin
  split
  · refine ⟨?_, ?_⟩
    · change 0 ≤ _
      omega
    · change 1 + 0 ≤ _
      omega
  · split
    · exact .plain (by decide) (by omega)
    · exact .plain (by decide) (by omega)

theorem bounded_measureUnstyled (ahead : Ahead) :
    Bounded (allowance c) ahead (measureUnstyled c ahead) := by
  have owed := ahead.debt_nonneg
  have enough := soloWidth_le_allowance c
  unfold measureUnstyled
  split
  · rename_i small
    exact bounded_measureLatin small ahead
  · split
    · rename_i selector
      have stretched : 1 ≤ allowance c := one_le_allowance (by simp [stretches, selector])
      exact (bounded_select .emoji ahead).mono (Int.ofNat_le.mpr stretched) (Int.le_refl _)
        (Int.le_refl _)
    · split
      · exact (bounded_select .text ahead).mono (Int.natCast_nonneg _) (Int.le_refl _)
          (Int.le_refl _)
      · split
        · rename_i selector
          have stretched : 1 ≤ allowance c := one_le_allowance (by simp [stretches, selector])
          exact (bounded_widen ahead).mono (Int.ofNat_le.mpr stretched) (Int.le_refl _)
            (Int.le_refl _)
        · split
          · rename_i styled
            simp only [Bool.and_eq_true] at styled
            have own : 1 ≤ soloWidth c := one_le_soloWidth _ (by decide +kernel) styled.2
            exact .plain (by decide) (by omega)
          · exact (bounded_measureUnselected _).mono (by omega) (ahead.ignore_bounds _).1
              (ahead.ignore_bounds _).2

/-- No character adds more than its allowance and what was owed. -/
theorem bounded_measure (c : Char) (ahead : Ahead) :
    Bounded (allowance c) ahead (measure c ahead) := by
  have shown := ahead.shape.credit_nonneg
  have enough := soloWidth_le_allowance c
  unfold measure
  split
  · rename_i styled
    simp only [Bool.and_eq_true, beq_iff_eq] at styled
    have own : 1 ≤ soloWidth c := one_le_soloWidth _ (by decide +kernel) styled.2
    have waiting : 1 ≤ ahead.debt := by
      have := ahead.shape.debt_nonneg
      grind [Ahead.debt]
    refine ⟨?_, ?_⟩
    · change 0 ≤ _
      grind
    · change _ + 0 ≤ _
      grind
  · exact (bounded_measureUnstyled _).mono (Int.le_refl _) (ahead.ignore_bounds _).1
      (ahead.ignore_bounds _).2

end ReleaseFeed.Text
