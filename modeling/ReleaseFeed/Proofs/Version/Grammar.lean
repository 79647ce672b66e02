import ReleaseFeed.Proofs.Text.Trim
import ReleaseFeed.Version.Parse
/-!
The grammar of release numbers, apart from any reader. Main statement: the first hyphen or plus sign
of a release number ends its components.
-/
namespace ReleaseFeed.VersionNumber

/-- Digits that have the value of a component, so that it fits 64 bits; zeros may stand ahead of
them. -/
structure Denotes (text : List Char) (component : UInt64) : Prop where
  nonempty : text ≠ []
  digits : ∀ c ∈ text, c.isDigit = true
  value : Nat.ofDigitChars 10 text 0 = component.toNat

/-- One to three components with dots between them; those that are missing are zero. -/
inductive IsCore : List Char → UInt64 → UInt64 → UInt64 → Prop
  | major {first : List Char} {major : UInt64} (majorText : Denotes first major) :
      IsCore (dotted [first]) major 0 0
  | minor {first second : List Char} {major minor : UInt64} (majorText : Denotes first major)
      (minorText : Denotes second minor) : IsCore (dotted [first, second]) major minor 0
  | patch {first second third : List Char} {major minor patch : UInt64}
      (majorText : Denotes first major) (minorText : Denotes second minor)
      (patchText : Denotes third patch) : IsCore (dotted [first, second, third]) major minor patch

/-- An identifier: ASCII letters, ASCII digits and hyphens, at least one of them. -/
structure IsLabel (text : Identifier) : Prop where
  nonempty : text ≠ []
  alphabet : ∀ c ∈ text, c.isAlphanum = true ∨ c = '-'

/-- An identifier that starts with zero only if it is zero or no number. -/
structure IsPreLabel (text : Identifier) : Prop extends IsLabel text where
  plain : (∀ c ∈ text, c.isDigit = true) → text.head? = some '0' → text = ['0']

/-- What stands behind the components: a hyphen with pre-release identifiers, a plus sign with build
identifiers, both in this order, or nothing. -/
structure IsSuffix (text : List Char) (pre build : List Identifier) : Prop where
  text_eq : text = announced '-' pre ++ announced '+' build
  pre : ∀ identifier ∈ pre, IsPreLabel identifier
  build : ∀ identifier ∈ build, IsLabel identifier

/-- A text that writes a release number. -/
def Spells (text : List Char) (number : VersionNumber) : Prop :=
  ∃ core suffix, text = core ++ suffix ∧ IsCore core number.major number.minor number.patch ∧
    IsSuffix suffix number.pre number.build

section Characters

variable {c : Char} {text : List Char} {identifiers : List Identifier}

/-- What holds of dots and of all identifiers holds of the identifiers with dots between them. -/
theorem forall_mem_dotted {holds : Char → Prop} (dot : holds '.')
    (inside : ∀ identifier ∈ identifiers, ∀ c ∈ identifier, holds c) :
    ∀ c ∈ dotted identifiers, holds c := by
  induction identifiers with
  | nil => simp [dotted]
  | cons first rest ih =>
    have later := ih fun identifier found => inside identifier (List.mem_cons_of_mem _ found)
    have here := inside first List.mem_cons_self
    cases rest with
    | nil => simpa [dotted] using here
    | cons next others =>
      intro c found
      rw [dotted, List.intercalate_cons_cons, List.append_assoc, List.mem_append] at found
      rcases found with found | found
      · exact here c found
      · rcases List.mem_cons.mp found with rfl | found
        · exact dot
        · exact later c found

theorem Denotes.dot_not_mem {component : UInt64} (denotes : Denotes text component) :
    '.' ∉ text := by
  intro inside
  have digit := denotes.digits '.' inside
  contradiction

theorem IsLabel.dot_not_mem (label : IsLabel text) : '.' ∉ text := by
  intro inside
  have letter := label.alphabet '.' inside
  revert letter
  decide

theorem IsLabel.ne_plus (label : IsLabel text) : ∀ c ∈ text, (c != '+') = true := by
  intro c inside
  have letter := label.alphabet c inside
  rw [bne_iff_ne]
  rintro rfl
  revert letter
  decide

theorem not_startsSuffix_of_isDigit (digit : c.isDigit = true) : startsSuffix c = false := by
  rw [← Bool.not_eq_true, startsSuffix]
  intro starts
  rcases Bool.or_eq_true_iff.mp starts with same | same <;>
    · rw [beq_iff_eq.mp same] at digit
      contradiction

theorem Denotes.not_startsSuffix {component : UInt64} (denotes : Denotes text component) :
    ∀ c ∈ text, startsSuffix c = false :=
  fun c inside => not_startsSuffix_of_isDigit (denotes.digits c inside)

/-- The components hold neither a hyphen nor a plus sign. -/
theorem IsCore.not_startsSuffix {major minor patch : UInt64} (core : IsCore text major minor patch) :
    ∀ c ∈ text, startsSuffix c = false := by
  cases core with
  | major majorText =>
    exact forall_mem_dotted rfl (by simpa using majorText.not_startsSuffix)
  | minor majorText minorText =>
    refine forall_mem_dotted rfl ?_
    simpa using ⟨majorText.not_startsSuffix, minorText.not_startsSuffix⟩
  | patch majorText minorText patchText =>
    refine forall_mem_dotted rfl ?_
    simpa using ⟨majorText.not_startsSuffix, minorText.not_startsSuffix,
      patchText.not_startsSuffix⟩

@[simp]
theorem announced_nil (mark : Char) : announced mark [] = [] := rfl

theorem announced_of_ne_nil {mark : Char} (nonempty : identifiers ≠ []) :
    announced mark identifiers = mark :: dotted identifiers := by
  rw [announced, if_neg (by simpa using nonempty)]

theorem head?_announced (mark : Char) (identifiers : List Identifier) :
    ∀ c ∈ (announced mark identifiers).head?, c = mark := by
  cases identifiers with
  | nil => simp
  | cons first rest => simp [announced_of_ne_nil]

theorem IsSuffix.startsSuffix {pre build : List Identifier} (suffix : IsSuffix text pre build) :
    ∀ c ∈ text.head?, startsSuffix c = true := by
  intro c found
  rw [suffix.text_eq, List.head?_append, Option.mem_def, Option.or_eq_some_iff] at found
  rcases found with found | ⟨_, found⟩
  · rw [head?_announced _ _ c found]
    rfl
  · rw [head?_announced _ _ c found]
    rfl

end Characters

theorem coreOf_append_suffixOf (text : List Char) : coreOf text ++ suffixOf text = text :=
  List.takeWhile_append_dropWhile

theorem startsSuffix_suffixOf (text : List Char) :
    ∀ c ∈ (suffixOf text).head?, startsSuffix c = true := by
  simpa [suffixOf] using Text.head?_dropWhile_stops (fun c => !startsSuffix c) text

section Cut

variable {core suffix : List Char} (plain : ∀ c ∈ core, startsSuffix c = false)
  (starts : ∀ c ∈ suffix.head?, startsSuffix c = true)
include plain starts

theorem coreOf_append : coreOf (core ++ suffix) = core :=
  Text.takeWhile_append_of_stops (by simpa using plain) (by simpa using starts)

theorem suffixOf_append : suffixOf (core ++ suffix) = suffix :=
  Text.dropWhile_append_of_stops (by simpa using plain) (by simpa using starts)

end Cut

/-- The components of a release number are what stands ahead of its first hyphen or plus sign. -/
theorem spells_iff {text : List Char} {number : VersionNumber} :
    Spells text number ↔ IsCore (coreOf text) number.major number.minor number.patch ∧
      IsSuffix (suffixOf text) number.pre number.build := by
  constructor
  · rintro ⟨core, suffix, rfl, isCore, isSuffix⟩
    rw [coreOf_append isCore.not_startsSuffix isSuffix.startsSuffix,
      suffixOf_append isCore.not_startsSuffix isSuffix.startsSuffix]
    exact ⟨isCore, isSuffix⟩
  · rintro ⟨isCore, isSuffix⟩
    exact ⟨coreOf text, suffixOf text, (coreOf_append_suffixOf text).symm, isCore, isSuffix⟩

end ReleaseFeed.VersionNumber
