import ReleaseFeed.Proofs.Text.Allowance

namespace ReleaseFeed.Text

theorem measureAll_cons (c : Char) (rest : List Char) :
    measureAll (c :: rest) = ((measureAll rest).1 + (measure c (measureAll rest).2).1,
      (measure c (measureAll rest).2).2) := rfl

/-- Nothing that is measured has less than the columns that are sure, or more than the allowances of
its characters. -/
theorem measureAll_bounds (text : List Char) :
    (measureAll text).2.shape.credit ≤ (measureAll text).1 ∧
      (measureAll text).1 + (measureAll text).2.debt ≤ ((text.map allowance).sum : Nat) := by
  induction text with
  | nil => exact ⟨Int.le_refl 0, Int.le_refl 0⟩
  | cons c rest ih =>
    have bounded := bounded_measure c (measureAll rest).2
    have credit := bounded.credit
    have debt := bounded.debt
    rw [measureAll_cons, List.map_cons, List.sum_cons]
    refine ⟨?_, ?_⟩ <;> simp only <;> omega

/-- The width of a text is what is measured. -/
theorem measureAll_eq_width (text : List Char) : (measureAll text).1 = width text := by
  have bounds := (measureAll_bounds text).1
  have nonneg := (measureAll text).2.shape.credit_nonneg
  unfold width
  omega

/-- A text is not wider than its characters one by one by more than the characters in it that
stretch. -/
theorem width_le (text : List Char) :
    width text ≤ (text.map charWidth).sum + text.countP stretches := by
  have bounds := (measureAll_bounds text).2
  have owed := (measureAll text).2.debt_nonneg
  have split : (text.map allowance).sum = (text.map charWidth).sum + text.countP stretches := by
    clear bounds owed
    induction text with
    | nil => rfl
    | cons c rest ih =>
      rw [List.map_cons, List.sum_cons, ih, List.map_cons, List.sum_cons, List.countP_cons]
      unfold allowance
      omega
  have same := measureAll_eq_width text
  omega

/-- Nothing shows through to a text that is put in front of a plain one. -/
theorem measureAll_append {rest : List Char} (hidden : (measureAll rest).2 = .plain)
    (text : List Char) :
    measureAll (text ++ rest) =
      ((measureAll text).1 + (measureAll rest).1, (measureAll text).2) := by
  induction text with
  | nil =>
    exact Prod.ext (Int.zero_add _).symm hidden
  | cons c text ih =>
    rw [List.cons_append, measureAll_cons, measureAll_cons, ih]
    exact Prod.ext (by simp only; omega) rfl

/-- A space cuts the width of a text in two. -/
theorem width_append_space (text rest : List Char) :
    width (text ++ ' ' :: rest) = width text + 1 + width rest := by
  have space : measure ' ' (measureAll rest).2 = ((1 : Int), Ahead.plain) :=
    measure_blank (by decide) (by decide) fun same => absurd same (by decide)
  have hidden : (measureAll (' ' :: rest)).2 = .plain := by rw [measureAll_cons, space]
  have whole := congrArg Prod.fst (measureAll_append hidden text)
  rw [measureAll_cons, space] at whole
  simp only [measureAll_eq_width] at whole
  omega

/-- Each character up to U+00A0 but the line feed takes one column, whatever stands around it. -/
theorem measureAll_latin {text : List Char} (latin : ∀ c ∈ text, c.toNat ≤ 0xA0 ∧ c ≠ '\n') :
    measureAll text = ((text.length : Int), .plain) := by
  induction text with
  | nil => rfl
  | cons c rest ih =>
    obtain ⟨small, notFeed⟩ := latin c List.mem_cons_self
    have alone : measure c .plain = ((1 : Int), .plain) := by
      simp [measure, measureUnstyled, Ahead.ignore, Ahead.plain, small,
        measureLatin, notFeed]
    rw [measureAll_cons, ih fun c member => latin c (List.mem_cons_of_mem _ member), alone]
    rfl

theorem width_latin {text : List Char} (latin : ∀ c ∈ text, c.toNat ≤ 0xA0 ∧ c ≠ '\n') :
    width text = text.length := by
  rw [width, measureAll_latin latin, Int.toNat_natCast]

theorem width_append_spaces (text : List Char) (count : Nat) :
    width (text ++ List.replicate count ' ') = width text + count := by
  cases count with
  | zero => rw [List.replicate_zero, List.append_nil, Nat.add_zero]
  | succ count =>
    have spaces : width (List.replicate count ' ') = count := by
      rw [width_latin fun c member => by simp [List.eq_of_mem_replicate member],
        List.length_replicate]
    rw [List.replicate_succ, width_append_space, spaces]
    omega

theorem shape_measureAll_ne_lineFeed {text : List Char} (first : text.head? ≠ some '\n') :
    (measureAll text).2.shape ≠ .lineFeed := by
  cases text with
  | nil => decide
  | cons c rest => exact shape_measure_ne_lineFeed (by simpa using first)

/-- The end of an indentation cuts the width of a line in two. -/
theorem width_append_of_blank {indent rest : List Char}
    (blank : ∀ c ∈ indent, isBlank c = true) (noFeed : '\n' ∉ indent)
    (first : rest.head? ≠ some '\n') : width (indent ++ rest) = width indent + width rest := by
  induction indent with
  | nil => simp [width, measureAll]
  | cons c indent ih =>
    simp only [List.mem_cons, not_or] at noFeed
    have alone : measure c (measureAll indent).2 = ((soloWidth c : Int), Ahead.plain) := by
      refine measure_blank (blank c (by simp)) (Ne.symm noFeed.1) fun _ => ?_
      exact shape_measureAll_ne_lineFeed fun feed => noFeed.2 (List.mem_of_head? feed)
    have together : measure c (measureAll (indent ++ rest)).2 =
        ((soloWidth c : Int), Ahead.plain) := by
      refine measure_blank (blank c (by simp)) (Ne.symm noFeed.1) fun _ => ?_
      apply shape_measureAll_ne_lineFeed
      cases indent with
      | nil => exact first
      | cons next _ => simpa using fun same => noFeed.2 (by simp [same])
    have shorter := ih (fun c member => blank c (List.mem_cons_of_mem _ member)) noFeed.2
    have left := congrArg Prod.fst (measureAll_cons c indent)
    have whole := congrArg Prod.fst (measureAll_cons c (indent ++ rest))
    rw [alone] at left
    rw [together, ← List.cons_append] at whole
    simp only [measureAll_eq_width] at left whole
    omega

theorem measureShaped_plain (c : Char) :
    measureShaped c .plain = ((soloWidth c : Int), Ahead.ofShape (shapeOf c)) := rfl

theorem width_singleton (c : Char) : width [c] = soloWidth c := by
  have selector (code : Nat) (zero : soloWidth (Char.ofNat code) = 0) (same : c.toNat = code) :
      soloWidth c = 0 := by
    rwa [← same, Char.ofNat_toNat] at zero
  have emoji := selector 0xFE0F (by decide +kernel)
  have text := selector 0xFE0E (by decide +kernel)
  have wide := selector 0xFE01 (by decide +kernel)
  have alone : (measureUnstyled c .plain).1 = soloWidth c := by
    unfold measureUnstyled
    split
    · rename_i small
      rw [soloWidth_of_small small]
      unfold measureLatin
      split
      · rfl
      · split <;> simp_all [Ahead.plain]
    · split
      · simp_all
      · split
        · simp_all
        · split
          · simp_all
          · exact congrArg Prod.fst (measureShaped_plain c)
  have whole := congrArg Prod.fst (measureAll_cons c [])
  rw [measureAll_eq_width] at whole
  exact Int.ofNat.inj (whole.trans ((Int.zero_add _).trans alone))

end ReleaseFeed.Text
