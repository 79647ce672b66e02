import ReleaseFeed.Proofs.Text.Columns

namespace ReleaseFeed.Text

variable {c : Char} {ahead : Ahead}

def blanks : List (Nat × Nat) :=
  [(9, 13), (0x20, 0x20), (0x85, 0x85), (0xA0, 0xA0), (0x1680, 0x1680), (0x2000, 0x200A),
    (0x2028, 0x2029), (0x202F, 0x202F), (0x205F, 0x205F), (0x3000, 0x3000)]

theorem toNat_blank (blank : isBlank c = true) :
    (9 ≤ c.toNat ∧ c.toNat ≤ 13) ∨ c.toNat = 0x20 ∨ c.toNat = 0x85 ∨ c.toNat = 0xA0 ∨
      c.toNat = 0x1680 ∨ (0x2000 ≤ c.toNat ∧ c.toNat ≤ 0x200A) ∨ c.toNat = 0x2028 ∨
        c.toNat = 0x2029 ∨ c.toNat = 0x202F ∨ c.toNat = 0x205F ∨ c.toNat = 0x3000 := by
  simpa only [isBlank, Bool.or_eq_true, Bool.and_eq_true, decide_eq_true_eq, beq_iff_eq,
    or_assoc] using blank

theorem liesIn_blanks (blank : isBlank c = true) : liesIn c.toNat blanks = true := by
  have code := toNat_blank blank
  simp only [blanks, liesIn_cons_iff]
  omega

theorem shapeOf_blank (blank : isBlank c = true) : shapeOf c = .plain := by
  have found := liesIn_blanks blank
  have code := toNat_blank blank
  have alef : isArabicAlef c = false := not_liesIn_of_apart (by decide +kernel) found
  have khmer : isKhmerLetter c = false := not_liesIn_of_apart (by decide +kernel) found
  have emoji : liesIn c.toNat emojiPresentation = false :=
    not_liesIn_of_apart (by decide +kernel) found
  have tifinagh : isTifinaghConsonant c = false := by simp [isTifinaghConsonant]; omega
  have indicator : isRegionalIndicator c = false := by simp [isRegionalIndicator]; omega
  have modifier : isEmojiModifier c = false := by simp [isEmojiModifier]; omega
  unfold shapeOf
  split
  all_goals first | omega | skip
  simp [alef, khmer, emoji, tifinagh, indicator, modifier]

theorem measureEmoji?_blank (blank : isBlank c = true) (shape : Shape) :
    measureEmoji? c shape = none := by
  have found := liesIn_blanks blank
  have code := toNat_blank blank
  have base : liesIn c.toNat emojiModifierBase = false :=
    not_liesIn_of_apart (by decide +kernel) found
  have indicator : isRegionalIndicator c = false := by simp [isRegionalIndicator]; omega
  have modifier : isEmojiModifier c = false := by simp [isEmojiModifier]; omega
  have letter : isTagLetter c = false := by simp [isTagLetter]; omega
  have digit : isTagDigit c = false := by simp [isTagDigit]; omega
  have joiner : c.toNat ≠ 0x200D := by omega
  have keycap : c.toNat ≠ 0x20E3 := by omega
  have finish : c.toNat ≠ 0xE007F := by omega
  have flag : c.toNat ≠ 0x1F3F4 := by omega
  cases shape <;> simp [measureEmoji?, measureTag?, shapeOf_blank blank, *]

theorem measureLigature?_blank (blank : isBlank c = true) (shape : Shape) :
    measureLigature? c shape = none := by
  have found := liesIn_blanks blank
  have code := toNat_blank blank
  have lam : isArabicLam c = false := not_liesIn_of_apart (by decide +kernel) found
  have extend : isGraphemeExtend c = false := not_liesIn_of_apart (by decide +kernel) found
  have other : liesIn c.toNat otherZeroWidth = false :=
    not_liesIn_of_apart (by decide +kernel) found
  have transparent : isJoiningTransparent c = false := by
    simp [isJoiningTransparent, isZeroWidth, extend, other]
  have consonant : isTifinaghConsonant c = false := by simp [isTifinaghConsonant]; omega
  have joiner : isTifinaghJoiner c = false := by simp [isTifinaghJoiner]; omega
  have codes : c.toNat ≠ 0x5D0 ∧ c.toNat ≠ 0x17D2 ∧ c.toNat ≠ 0x1A17 ∧ c.toNat ≠ 0x1A15 ∧
      c.toNat ≠ 0x10C32 ∧ c.toNat ≠ 0x16D63 := by omega
  have lisu : ¬ (0xA4F8 ≤ c.toNat ∧ c.toNat ≤ 0xA4FB) := by omega
  cases shape <;> simp [measureLigature?, *]
  split <;> first | omega | rfl

theorem soloWidth_of_small (small : c.toNat ≤ 0xA0) : soloWidth c = 1 := by
  by_cases below : c.toNat < 0xA0
  · simp [soloWidth, below]
  · have only : c.toNat = 0xA0 := Nat.le_antisymm small (Nat.le_of_not_lt below)
    have same : c = '\u00A0' := Char.toNat_inj.mp only
    subst same
    decide +kernel

theorem Ahead.ignore_ne_lineFeed (style : Style) (apart : ahead.shape ≠ .lineFeed) :
    (ahead.ignore style).shape ≠ .lineFeed := by
  unfold ignore unselect
  split
  · split
    · exact apart
    · simp [plain]
  · exact apart

/-- A blank takes the columns that it has alone, and hides what stands ahead of it. -/
theorem measure_blank (blank : isBlank c = true) (notFeed : c ≠ '\n')
    (apart : c = '\r' → ahead.shape ≠ .lineFeed) :
    measure c ahead = ((soloWidth c : Int), Ahead.plain) := by
  have found := liesIn_blanks blank
  have code := toNat_blank blank
  have styled : liesIn c.toNat emojiStyled = false := not_liesIn_of_apart (by decide +kernel) found
  have text : liesIn c.toNat textStyled = false := not_liesIn_of_apart (by decide +kernel) found
  have ignorable : isIgnorableMark c = false := not_liesIn_of_apart (by decide +kernel) found
  have selectors : c.toNat ≠ 0xFE0F ∧ c.toNat ≠ 0xFE0E ∧ c.toNat ≠ 0xFE01 ∧ c.toNat ≠ 0x200D := by
    omega
  have quote : isCurlyQuote c = false := by
    simp only [isCurlyQuote, Bool.or_eq_false_iff, beq_eq_false_iff_ne]
    refine ⟨⟨⟨?_, ?_⟩, ?_⟩, ?_⟩ <;> rintro rfl <;> simp at code
  simp only [measure, styled, Bool.and_false, Bool.false_eq_true, if_false, measureUnstyled]
  split
  · rename_i small
    have apart : (c == '\r' && (ahead.ignore .emoji).shape == .lineFeed) = false := by
      simpa using fun same => Ahead.ignore_ne_lineFeed .emoji (apart same)
    simp [measureLatin, notFeed, apart, soloWidth_of_small small]
  · simp [selectors, text, measureUnselected, quote, measureShaped, ignorable,
      measureEmoji?_blank blank, measureLigature?_blank blank, shapeOf_blank blank]
    rfl

theorem measureEmoji?_ne_lineFeed {columns : Int} (shape : Shape) :
    measureEmoji? c shape ≠ some (columns, .lineFeed) := by
  have tag : measureTag? c shape ≠ some (columns, .lineFeed) := by
    fun_cases measureTag? c shape <;> intro found <;> cases found
  fun_cases measureEmoji? c shape
  case case25 => exact tag
  all_goals
    intro found
    cases found

theorem measureLigature?_ne_lineFeed {columns : Int} (shape : Shape) :
    measureLigature? c shape ≠ some (columns, .lineFeed) := by
  fun_cases measureLigature? c shape <;> intro found <;> cases found

theorem shapeOf_ne_lineFeed : shapeOf c ≠ .lineFeed := by
  fun_cases shapeOf c <;> intro same <;> cases same

theorem shape_measureShaped_ne_lineFeed :
    (measureShaped c ahead).2.shape ≠ .lineFeed := by
  have join (tolerant : ahead.shape.toleratesMarks = true) : ahead.shape.join ≠ .lineFeed := by
    cases shape : ahead.shape <;> simp_all [Shape.toleratesMarks, Shape.formsLigature, Shape.join]
  have kept (tolerant : ahead.shape.toleratesMarks = true) : ahead.shape ≠ .lineFeed := by
    intro feed
    simp [feed, Shape.toleratesMarks, Shape.formsLigature] at tolerant
  unfold measureShaped
  split
  · rename_i tolerant
    exact join (Bool.and_eq_true _ _ ▸ tolerant).1
  · split
    · rename_i tolerant
      exact kept (Bool.and_eq_true _ _ ▸ tolerant).1
    · split
      · rename_i columns shape found
        rintro rfl
        rcases Option.or_eq_some_iff.mp found with emoji | ⟨_, ligature⟩
        · exact measureEmoji?_ne_lineFeed _ emoji
        · exact measureLigature?_ne_lineFeed _ ligature
      · exact shapeOf_ne_lineFeed

/-- Only a line feed shows itself to the character before it as one. -/
theorem shape_measure_ne_lineFeed (notFeed : c ≠ '\n') :
    (measure c ahead).2.shape ≠ .lineFeed := by
  have shaped (base : Ahead) : (measureShaped c base).2.shape ≠ .lineFeed :=
    shape_measureShaped_ne_lineFeed
  have ligature (base : Ahead) (letter : base.shape.formsLigature = true) :
      base.shape ≠ .lineFeed := by
    intro feed
    simp [feed, Shape.formsLigature] at letter
  have plain : Ahead.plain.shape ≠ .lineFeed := by decide
  unfold measure measureUnstyled measureLatin measureUnselected
  grind [Ahead.ofShape, Ahead.select, Ahead.widen, Ahead.unselect]

end ReleaseFeed.Text
