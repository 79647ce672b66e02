import ReleaseFeed.Channel.Basic
import ReleaseFeed.Proofs.Version.Display
import ReleaseFeed.Proofs.Version.Order
/-!
Precedence as Semantic Versioning 2.0 lays it down, apart from any comparison. Main statement: the
order of release numbers is linear, refines precedence, and parts numbers of equal precedence by
their build metadata alone.
-/
namespace ReleaseFeed

namespace Identifier

/-- An identifier that is below another one: numbers go by value and are below all others, which go
by their characters. -/
inductive Below : Identifier → Identifier → Prop where
  | value {left right : Identifier} (leftDigits : ∀ c ∈ left, c.isDigit = true)
      (rightDigits : ∀ c ∈ right, c.isDigit = true)
      (less : Nat.ofDigitChars 10 left 0 < Nat.ofDigitChars 10 right 0) : Below left right
  | kind {left right : Identifier} (digits : ∀ c ∈ left, c.isDigit = true)
      (letter : ∃ c ∈ right, c.isDigit = false) : Below left right
  | letters {left right : Identifier} (leftLetter : ∃ c ∈ left, c.isDigit = false)
      (rightLetter : ∃ c ∈ right, c.isDigit = false) (less : left < right) : Below left right

/-- Identifiers that are below others: the first two that are not level decide, and a list that runs
out first is below. -/
inductive AllBelow : List Identifier → List Identifier → Prop where
  | shorter {first : Identifier} {rest : List Identifier} : AllBelow [] (first :: rest)
  | here {left right : Identifier} {lefts rights : List Identifier} (below : Below left right) :
      AllBelow (left :: lefts) (right :: rights)
  | later {left right : Identifier} {lefts rights : List Identifier} (notBelow : ¬ Below left right)
      (notAbove : ¬ Below right left) (below : AllBelow lefts rights) :
      AllBelow (left :: lefts) (right :: rights)

end Identifier

namespace VersionNumber

/-- A number of lower precedence. Build metadata has no part in it. -/
inductive Precedes : VersionNumber → VersionNumber → Prop where
  | major {left right : VersionNumber} (less : left.major < right.major) : Precedes left right
  | minor {left right : VersionNumber} (sameMajor : left.major = right.major)
      (less : left.minor < right.minor) : Precedes left right
  | patch {left right : VersionNumber} (sameMajor : left.major = right.major)
      (sameMinor : left.minor = right.minor) (less : left.patch < right.patch) : Precedes left right
  | release {left right : VersionNumber} (sameMajor : left.major = right.major)
      (sameMinor : left.minor = right.minor) (samePatch : left.patch = right.patch)
      (some : left.pre ≠ []) (none : right.pre = []) : Precedes left right
  | pre {left right : VersionNumber} (sameMajor : left.major = right.major)
      (sameMinor : left.minor = right.minor) (samePatch : left.patch = right.patch)
      (some : left.pre ≠ []) (below : Identifier.AllBelow left.pre right.pre) : Precedes left right

section Identifiers

open Identifier

variable {left right : Identifier} {lefts rights : List Identifier}

theorem isNumeric_eq_true_iff : isNumeric left = true ↔ ∀ c ∈ left, c.isDigit = true :=
  List.all_eq_true

theorem isNumeric_eq_false_iff : isNumeric left = false ↔ ∃ c ∈ left, c.isDigit = false := by
  simp [isNumeric]

theorem compareLex_eq_lt_iff {left right : List Char} :
    List.compareLex Ord.compare left right = .lt ↔ left < right := by
  induction left generalizing right with
  | nil => cases right <;> simp [List.compareLex_nil_nil, List.compareLex_nil_cons]
  | cons first rest ih =>
    cases right with
    | nil => simp [List.compareLex_cons_nil]
    | cons second others =>
      rw [List.compareLex_cons_cons, Ordering.then_eq_lt, List.cons_lt_cons_iff, ih,
        Std.compare_eq_iff_eq]
      exact or_congr_left compareOfLessAndEq_eq_lt

/-- Pre-release numbers have no leading zeros, so those of equal value are equal. -/
theorem IsPreLabel.eq_of_value_eq (leftLabel : IsPreLabel left) (rightLabel : IsPreLabel right)
    (leftDigits : ∀ c ∈ left, c.isDigit = true) (rightDigits : ∀ c ∈ right, c.isDigit = true)
    (same : Nat.ofDigitChars 10 left 0 = Nat.ofDigitChars 10 right 0) : left = right := by
  rw [← Text.toDigits_ofDigitChars leftLabel.nonempty leftDigits (leftLabel.plain leftDigits), same,
    Text.toDigits_ofDigitChars rightLabel.nonempty rightDigits (rightLabel.plain rightDigits)]

theorem compare_eq_lt_iff (leftLabel : IsPreLabel left) (rightLabel : IsPreLabel right) :
    Identifier.compare left right = .lt ↔ Below left right := by
  cases leftKind : isNumeric left <;> cases rightKind : isNumeric right <;>
    simp only [Identifier.compare, leftKind, rightKind, reduceCtorEq, false_iff, true_iff]
  · rw [isNumeric_eq_false_iff] at leftKind rightKind
    rw [compareLex_eq_lt_iff]
    exact ⟨.letters leftKind rightKind, fun below => by cases below <;> grind⟩
  · rw [isNumeric_eq_false_iff] at leftKind
    rw [isNumeric_eq_true_iff] at rightKind
    intro below
    cases below <;> grind
  · rw [isNumeric_eq_false_iff] at rightKind
    rw [isNumeric_eq_true_iff] at leftKind
    exact .kind leftKind rightKind
  · rw [isNumeric_eq_true_iff] at leftKind rightKind
    rw [Ordering.then_eq_lt, Nat.compare_eq_lt, Nat.compare_eq_eq, Nat.compare_eq_lt]
    constructor
    · rintro (less | ⟨same, shorter⟩)
      · exact .value leftKind rightKind less
      · -- numbers of equal value would be equal, and none is shorter than itself
        rw [leftLabel.eq_of_value_eq rightLabel leftKind rightKind same] at shorter
        exact absurd shorter (Nat.lt_irrefl _)
    · intro below
      cases below with
      | value _ _ less => exact .inl less
      | kind _ letter => grind
      | letters letter _ _ => grind

theorem not_below_iff (leftLabel : IsPreLabel left) (rightLabel : IsPreLabel right) :
    (¬ Below left right ∧ ¬ Below right left) ↔ left = right := by
  rw [← compare_eq_lt_iff leftLabel rightLabel, ← compare_eq_lt_iff rightLabel leftLabel,
    ← Identifier.compare_eq_eq_iff, @Std.OrientedCmp.eq_swap _ Identifier.compare _ right,
    Ordering.swap_eq_lt]
  cases Identifier.compare left right <;> decide

theorem compareLists_eq_lt_iff (leftLabels : ∀ identifier ∈ lefts, IsPreLabel identifier)
    (rightLabels : ∀ identifier ∈ rights, IsPreLabel identifier) :
    compareLists lefts rights = .lt ↔ AllBelow lefts rights := by
  induction lefts generalizing rights with
  | nil =>
    cases rights with
    | nil => exact ⟨nofun, nofun⟩
    | cons second others => exact ⟨fun _ => .shorter, fun _ => rfl⟩
  | cons first rest ih =>
    cases rights with
    | nil => exact ⟨nofun, nofun⟩
    | cons second others =>
      obtain ⟨leftLabel, leftLabels⟩ := List.forall_mem_cons.mp leftLabels
      obtain ⟨rightLabel, rightLabels⟩ := List.forall_mem_cons.mp rightLabels
      have tails := ih leftLabels rightLabels
      rw [compareLists] at tails ⊢
      rw [List.compareLex_cons_cons, Ordering.then_eq_lt, tails, Identifier.compare_eq_eq_iff,
        compare_eq_lt_iff leftLabel rightLabel, ← not_below_iff leftLabel rightLabel]
      constructor
      · rintro (below | ⟨⟨notBelow, notAbove⟩, later⟩)
        · exact .here below
        · exact .later notBelow notAbove later
      · intro below
        cases below with
        | here below => exact .inl below
        | later notBelow notAbove later => exact .inr ⟨⟨notBelow, notAbove⟩, later⟩

theorem comparePre_eq_lt_iff (leftLabels : ∀ identifier ∈ lefts, IsPreLabel identifier)
    (rightLabels : ∀ identifier ∈ rights, IsPreLabel identifier) :
    comparePre lefts rights = .lt ↔ lefts ≠ [] ∧ (rights = [] ∨ AllBelow lefts rights) := by
  rw [← compareLists_eq_lt_iff leftLabels rightLabels]
  cases lefts <;> cases rights <;> simp [comparePre]

end Identifiers

section Numbers

variable {left right : VersionNumber}

/-- Comparison without build metadata. -/
def precedence (left right : VersionNumber) : Ordering :=
  (Ord.compare left.major right.major).then <|
  (Ord.compare left.minor right.minor).then <|
  (Ord.compare left.patch right.patch).then <|
  comparePre left.pre right.pre

theorem compare_eq_precedence_then (left right : VersionNumber) :
    compare left right =
      (precedence left right).then (Identifier.compareLists left.build right.build) := by
  simp only [compare, precedence, Ordering.then_assoc]

theorem precedence_swap (left right : VersionNumber) :
    precedence right left = (precedence left right).swap := by
  simp only [precedence, Ordering.swap_then, ← Std.OrientedCmp.eq_swap]

theorem precedence_eq_lt_iff (leftRelease : IsRelease left) (rightRelease : IsRelease right) :
    precedence left right = .lt ↔ Precedes left right := by
  simp only [precedence, Ordering.then_eq_lt, Std.compare_eq_lt, Std.compare_eq_iff_eq,
    comparePre_eq_lt_iff leftRelease.pre rightRelease.pre]
  constructor
  · rintro (less | ⟨sameMajor, less | ⟨sameMinor, less | ⟨samePatch, some, none | below⟩⟩⟩)
    · exact .major less
    · exact .minor sameMajor less
    · exact .patch sameMajor sameMinor less
    · exact .release sameMajor sameMinor samePatch some none
    · exact .pre sameMajor sameMinor samePatch some below
  · intro precedes
    cases precedes with
    | major less => exact .inl less
    | minor sameMajor less => exact .inr ⟨sameMajor, .inl less⟩
    | patch sameMajor sameMinor less => exact .inr ⟨sameMajor, .inr ⟨sameMinor, .inl less⟩⟩
    | release sameMajor sameMinor samePatch some none =>
      exact .inr ⟨sameMajor, .inr ⟨sameMinor, .inr ⟨samePatch, some, .inl none⟩⟩⟩
    | pre sameMajor sameMinor samePatch some below =>
      exact .inr ⟨sameMajor, .inr ⟨sameMinor, .inr ⟨samePatch, some, .inr below⟩⟩⟩

theorem precedence_eq_eq_iff : precedence left right = .eq ↔
    left.major = right.major ∧ left.minor = right.minor ∧ left.patch = right.patch ∧
      left.pre = right.pre := by
  simp only [precedence, Ordering.then_eq_eq, Std.LawfulEqCmp.compare_eq_iff_eq]

/-- The changelog above a number shrinks as the number grows. -/
theorem sublist_changelogSince (channel : Channel) (below : compare left right ≠ .gt) :
    (channel.changelogSince right).Sublist (channel.changelogSince left) := by
  apply List.monotone_filter_right
  intro entry newer
  rw [isNewerThan, beq_iff_eq, Std.OrientedCmp.gt_iff_lt] at newer ⊢
  exact Std.TransCmp.lt_of_isLE_of_lt (Ordering.isLE_iff_ne_gt.mpr below) newer

/-- How comparison places a number beside another one: it is total and antisymmetric, refines
precedence, and leaves the rest to build metadata, where none at all is the least. -/
structure Ranks (left right : VersionNumber) : Prop where
  swapped : compare right left = (compare left right).swap
  total : compare left right ≠ .gt ∨ compare right left ≠ .gt
  same : compare left right = .eq ↔ left = right
  newer : left.isNewerThan right = true ↔ compare right left = .lt
  lower : Precedes left right → compare left right = .lt
  higher : Precedes right left → compare left right = .gt
  level : ¬ Precedes left right → ¬ Precedes right left →
    { left with build := right.build } = right ∧
      compare left right = Identifier.compareLists left.build right.build
  bare : ¬ Precedes left right → ¬ Precedes right left → left.build = [] → right.build ≠ [] →
    compare left right = .lt
  since : compare left right ≠ .gt → ∀ channel : Channel,
    (channel.changelogSince right).Sublist (channel.changelogSince left)

theorem IsRelease.ranks (leftRelease : IsRelease left) (rightRelease : IsRelease right) :
    Ranks left right := by
  have swapped : compare right left = (compare left right).swap :=
    Std.OrientedCmp.eq_swap
  have lower := precedence_eq_lt_iff leftRelease rightRelease
  have higher := precedence_eq_lt_iff rightRelease leftRelease
  rw [precedence_swap, Ordering.swap_eq_lt] at higher
  have level (notBelow : ¬ Precedes left right) (notAbove : ¬ Precedes right left) :
      precedence left right = .eq := by
    cases rank : precedence left right with
    | lt => exact absurd (lower.mp rank) notBelow
    | eq => rfl
    | gt => exact absurd (higher.mp rank) notAbove
  refine ⟨swapped, ?_, Std.LawfulEqCmp.compare_eq_iff_eq, ?_, ?_, ?_, ?_, ?_,
    fun below channel => sublist_changelogSince channel below⟩
  · rw [swapped]
    cases compare left right <;> decide
  · rw [isNewerThan, beq_iff_eq, swapped, Ordering.swap_eq_lt]
  · intro below
    rw [compare_eq_precedence_then, lower.mpr below]
    rfl
  · intro above
    rw [compare_eq_precedence_then, higher.mpr above]
    rfl
  · intro notBelow notAbove
    have rank := level notBelow notAbove
    obtain ⟨major, minor, patch, pre⟩ := precedence_eq_eq_iff.mp rank
    refine ⟨?_, ?_⟩
    · rw [major, minor, patch, pre]
    · rw [compare_eq_precedence_then, rank]
      rfl
  · intro notBelow notAbove bare some
    rw [compare_eq_precedence_then, level notBelow notAbove, bare]
    cases build : right.build with
    | nil => contradiction
    | cons first rest => rfl

end Numbers

theorem compare_trans {first second third : VersionNumber} (below : compare first second ≠ .gt)
    (above : compare second third ≠ .gt) : compare first third ≠ .gt := by
  apply Ordering.isLE_iff_ne_gt.mp
  exact Std.TransCmp.isLE_trans (Ordering.isLE_iff_ne_gt.mpr below)
    (Ordering.isLE_iff_ne_gt.mpr above)

/-- Numbers that were read are linearly ordered by a refinement of precedence. -/
theorem order_refinesPrecedence {x y z : String} {first second third : VersionNumber}
    (readFirst : parse x = .ok first) (readSecond : parse y = .ok second)
    (readThird : parse z = .ok third) :
    Ranks first second ∧ Ranks second third ∧ Ranks first third ∧
      (compare first second ≠ .gt → compare second third ≠ .gt → compare first third ≠ .gt) := by
  have firstRelease := isRelease_of_parse readFirst
  have secondRelease := isRelease_of_parse readSecond
  have thirdRelease := isRelease_of_parse readThird
  exact ⟨firstRelease.ranks secondRelease, secondRelease.ranks thirdRelease,
    firstRelease.ranks thirdRelease, compare_trans⟩

/-- A pre-release, a release and a build of it: numbers of a pre-release go by value, whatever their
length, and a build comes after the bare release. -/
theorem order_of_three :
    ∃ first second third, parse "1.2.3-rc.9.x" = .ok first ∧ parse "v1.2.3-rc.10" = .ok second ∧
      parse " 01.2.3+007 " = .ok third ∧ Ranks first second ∧ Ranks second third ∧
      Ranks first third ∧ compare first second = .lt ∧ compare second third = .lt ∧
      compare first third ≠ .gt := by
  have readFirst : parse "1.2.3-rc.9.x" =
      .ok ⟨1, 2, 3, ["rc".toList, "9".toList, "x".toList], []⟩ := by decide +kernel
  have readSecond : parse "v1.2.3-rc.10" = .ok ⟨1, 2, 3, ["rc".toList, "10".toList], []⟩ := by
    decide +kernel
  have readThird : parse " 01.2.3+007 " = .ok ⟨1, 2, 3, [], ["007".toList]⟩ := by decide +kernel
  obtain ⟨lower, upper, outer, chain⟩ := order_refinesPrecedence readFirst readSecond readThird
  have first : compare ⟨1, 2, 3, ["rc".toList, "9".toList, "x".toList], []⟩
      ⟨1, 2, 3, ["rc".toList, "10".toList], []⟩ = .lt := by decide +kernel
  have second := upper.lower (.release rfl rfl rfl (by simp) rfl)
  exact ⟨_, _, _, readFirst, readSecond, readThird, lower, upper, outer, first, second,
    chain (by rw [first]; decide) (by rw [second]; decide)⟩

end VersionNumber
end ReleaseFeed
