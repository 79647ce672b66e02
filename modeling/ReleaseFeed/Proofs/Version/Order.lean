import ReleaseFeed.Proofs.Text.Digits
import ReleaseFeed.Version.Order

namespace ReleaseFeed

open Std (TransCmp LawfulEqCmp OrientedCmp)

section Keys

variable {α β : Type} (cmp : β → β → Ordering) (key : α → β)

theorem transCmp_on [TransCmp cmp] : TransCmp fun left right => cmp (key left) (key right) where
  eq_swap := OrientedCmp.eq_swap
  isLE_trans := TransCmp.isLE_trans

end Keys

namespace Identifier

/-- Numbers count as smaller than all other identifiers. -/
def kind (identifier : Identifier) : Nat := if isNumeric identifier then 0 else 1

/-- The value of a number; nothing is left of other identifiers. -/
def weight (identifier : Identifier) : Nat := if isNumeric identifier then value identifier else 0

/-- The length of a number; nothing is left of other identifiers. -/
def extent (identifier : Identifier) : Nat :=
  if isNumeric identifier then identifier.length else 0

/-- The characters of an identifier that is no number. -/
def letters (identifier : Identifier) : List Char :=
  if isNumeric identifier then [] else identifier

theorem compare_eq_compareLex : compare =
    compareLex (compareOn kind) (compareLex (compareOn weight) (compareLex (compareOn extent)
      fun left right => List.compareLex Ord.compare (letters left) (letters right))) := by
  funext left right
  have below : Ord.compare 0 1 = Ordering.lt := rfl
  have above : Ord.compare 1 0 = Ordering.gt := rfl
  cases leftKind : isNumeric left <;> cases rightKind : isNumeric right <;>
    simp [compare, compareLex, compareOn, kind, weight, extent, letters, leftKind, rightKind, below,
      above, List.compareLex_nil_nil]

instance : TransCmp compare := by
  have := transCmp_on (List.compareLex (Ord.compare : Char → Char → Ordering)) letters
  rw [compare_eq_compareLex]
  infer_instance

theorem compare_eq_eq_iff {left right : Identifier} : compare left right = .eq ↔ left = right := by
  constructor
  · intro level
    cases leftKind : isNumeric left <;> cases rightKind : isNumeric right <;>
      simp only [compare, leftKind, rightKind, reduceCtorEq] at level
    · exact LawfulEqCmp.eq_of_compare level
    · rw [Ordering.then_eq_eq, Nat.compare_eq_eq, Nat.compare_eq_eq] at level
      exact (Text.eq_of_ofDigitChars_eq level.2 (List.all_eq_true.mp leftKind)
        (List.all_eq_true.mp rightKind) level.1).2
  · rintro rfl
    exact Std.ReflCmp.compare_self

instance : LawfulEqCmp compare where
  eq_of_compare := compare_eq_eq_iff.mp

instance : TransCmp compareLists := inferInstanceAs (TransCmp (List.compareLex compare))

instance : LawfulEqCmp compareLists := inferInstanceAs (LawfulEqCmp (List.compareLex compare))

end Identifier

namespace VersionNumber

/-- Pre-releases are compared by whether there are any, then by their identifiers. -/
theorem comparePre_eq_compareLex :
    comparePre = compareLex (compareOn fun pre => if pre.isEmpty then 1 else 0)
      Identifier.compareLists := by
  funext left right
  cases left <;> cases right <;> rfl

instance : TransCmp comparePre := by
  rw [comparePre_eq_compareLex]
  infer_instance

instance : LawfulEqCmp comparePre where
  eq_of_compare := by
    intro left right level
    rw [comparePre_eq_compareLex, compareLex, Ordering.then_eq_eq] at level
    exact LawfulEqCmp.eq_of_compare level.2

/-- Release numbers are compared by five keys, one after another. -/
theorem compare_eq_compareLex : compare =
    compareLex (compareOn major) (compareLex (compareOn minor) (compareLex (compareOn patch)
      (compareLex (fun left right => comparePre left.pre right.pre)
        fun left right => Identifier.compareLists left.build right.build))) := rfl

instance : TransCmp compare := by
  have := transCmp_on comparePre pre
  have := transCmp_on Identifier.compareLists build
  rw [compare_eq_compareLex]
  infer_instance

instance : LawfulEqCmp compare where
  eq_of_compare := by
    intro left right level
    simp only [compare, Ordering.then_eq_eq] at level
    obtain ⟨major, minor, patch, pre, build⟩ := level
    cases left
    cases right
    rw [mk.injEq]
    exact ⟨LawfulEqCmp.eq_of_compare major, LawfulEqCmp.eq_of_compare minor,
      LawfulEqCmp.eq_of_compare patch, LawfulEqCmp.eq_of_compare pre,
      LawfulEqCmp.eq_of_compare build⟩

instance : Std.TransOrd VersionNumber := inferInstanceAs (TransCmp compare)

instance : Std.LawfulEqOrd VersionNumber := inferInstanceAs (LawfulEqCmp compare)

theorem isNewerThan_iff {number other : VersionNumber} :
    number.isNewerThan other = true ↔ Ord.compare number other = .gt := beq_iff_eq

end VersionNumber
end ReleaseFeed
