import ReleaseFeed.Proofs.Text.Digits
import ReleaseFeed.Proofs.Version.Parsing
/-!
Release numbers read back from their written form. Main statement: the written form of a number that
was read is a normal form of every input that it was read from.
-/
namespace ReleaseFeed.VersionNumber

variable {number : VersionNumber}

/-- A number that has a spelling. -/
structure IsRelease (number : VersionNumber) : Prop where
  pre : ∀ identifier ∈ number.pre, IsPreLabel identifier
  build : ∀ identifier ∈ number.build, IsLabel identifier

theorem Spells.isRelease {text : List Char} (spells : Spells text number) : IsRelease number := by
  obtain ⟨core, suffix, _, _, isSuffix⟩ := spells
  exact ⟨isSuffix.pre, isSuffix.build⟩

theorem isRelease_ofComponents (major minor patch : UInt64) :
    IsRelease (ofComponents major minor patch) := by
  constructor <;> intro identifier inside <;> cases inside

theorem IsRelease.spells_display (release : IsRelease number) : Spells number.display number := by
  refine ⟨(ofComponents number.major number.minor number.patch).display,
    announced '-' number.pre ++ announced '+' number.build, ?_, isCore_display _ _ _,
    ⟨rfl, release.pre, release.build⟩⟩
  simp [display, ofComponents]

section Blanks

theorem isBlank_of_isAlphanum {c : Char} (letter : c.isAlphanum = true) :
    Text.isBlank c = false := by
  have upper : c.isUpper = true ↔ 65 ≤ c.toNat ∧ c.toNat ≤ 90 := decide_eq_true_iff
  have lower : c.isLower = true ↔ 97 ≤ c.toNat ∧ c.toNat ≤ 122 :=
    Bool.and_eq_true_iff.trans (and_congr decide_eq_true_iff decide_eq_true_iff)
  have ranges : (c.isUpper || c.isLower || c.isDigit) = true := letter
  rw [Bool.or_eq_true, Bool.or_eq_true, upper, lower, Text.isDigit_iff] at ranges
  rw [← Bool.not_eq_true]
  intro blank
  simp only [Text.isBlank, Bool.or_eq_true, Bool.and_eq_true, decide_eq_true_eq,
    beq_iff_eq] at blank
  omega

theorem IsLabel.not_isBlank {label : Identifier} (isLabel : IsLabel label) :
    ∀ c ∈ label, Text.isBlank c = false := by
  intro c inside
  rcases isLabel.alphabet c inside with letter | rfl
  · exact isBlank_of_isAlphanum letter
  · rfl

theorem not_isBlank_announced {mark : Char} {identifiers : List Identifier}
    (visible : Text.isBlank mark = false)
    (labels : ∀ identifier ∈ identifiers, IsLabel identifier) :
    ∀ c ∈ announced mark identifiers, Text.isBlank c = false := by
  by_cases nothing : identifiers = []
  · simp [nothing]
  · rw [announced_of_ne_nil nothing]
    exact List.forall_mem_cons.mpr ⟨visible, forall_mem_dotted rfl fun identifier inside =>
      (labels identifier inside).not_isBlank⟩

theorem IsRelease.not_isBlank_display (release : IsRelease number) :
    ∀ c ∈ number.display, Text.isBlank c = false := by
  have digits (component : UInt64) : ∀ c ∈ digitsOf component, Text.isBlank c = false :=
    fun c inside => Text.isBlank_of_isDigit ((denotes_digitsOf component).digits c inside)
  have pre : ∀ c ∈ announced '-' number.pre, Text.isBlank c = false :=
    not_isBlank_announced rfl fun identifier inside => (release.pre identifier inside).toIsLabel
  have build : ∀ c ∈ announced '+' number.build, Text.isBlank c = false :=
    not_isBlank_announced rfl release.build
  intro c inside
  simp only [display, List.mem_append, List.mem_cons] at inside
  have dot : Text.isBlank '.' = false := rfl
  grind

end Blanks

/-- Nothing is stripped off a written form: it holds no blank and starts with a digit. -/
theorem IsRelease.strips_display (release : IsRelease number) :
    Strips number.display number.display := by
  have visible := release.not_isBlank_display
  refine .plain ⟨⟨[], [], by simp, by simp, by simp⟩, ?_, ?_⟩ ?_
  · exact fun c found => visible c (List.mem_of_mem_head? found)
  · exact fun c found => visible c (List.mem_of_getLast? found)
  · obtain ⟨first, rest, shape⟩ :=
      List.exists_cons_of_ne_nil (denotes_digitsOf number.major).nonempty
    have digit := (denotes_digitsOf number.major).digits first (by simp [shape])
    intro marked
    simp only [display, shape, List.cons_append, List.head?_cons, Option.some.injEq] at marked
    rw [marked] at digit
    contradiction

theorem IsRelease.parse_toString (release : IsRelease number) :
    parse (toString number) = .ok number := by
  have shown : (toString number).toList = number.display := String.toList_ofList
  have strips := release.strips_display
  rw [← shown] at strips
  exact (reads_iff strips).mpr (.number (shown ▸ release.spells_display))

theorem isRelease_of_parse {input : String} (read : parse input = .ok number) :
    IsRelease number := by
  cases (reads_iff (strips_iff.mpr rfl)).mp read with
  | number spells => exact spells.isRelease

/-- The written form of the number in an input. -/
def normal? (input : String) : Option String := (parse input).toOption.map toString

theorem normal?_eq_some_iff {input text : String} :
    normal? input = some text ↔ ∃ number, parse input = .ok number ∧ toString number = text := by
  rw [normal?]
  cases parse input <;> simp [Except.toOption]

theorem normal?_bind_normal? (input : String) : (normal? input).bind normal? = normal? input := by
  cases found : normal? input with
  | none => rfl
  | some text =>
    obtain ⟨number, read, rfl⟩ := normal?_eq_some_iff.mp found
    rw [Option.bind_some, normal?_eq_some_iff]
    exact ⟨number, (isRelease_of_parse read).parse_toString, rfl⟩

/-- What was read is read back from its written form, which is therefore a normal form. -/
theorem display_isNormalForm :
    (∀ number, (∃ input, parse input = .ok number) ↔ parse (toString number) = .ok number) ∧
    (∀ major minor patch,
      parse (toString (ofComponents major minor patch)) = .ok (ofComponents major minor patch)) ∧
    (∀ input, (normal? input).bind normal? = normal? input) ∧
    ∀ left right first second, parse left = .ok first → parse right = .ok second →
      (first = second ↔ toString first = toString second) := by
  refine ⟨?_, ?_, normal?_bind_normal?, ?_⟩
  · intro number
    constructor
    · rintro ⟨input, read⟩
      exact (isRelease_of_parse read).parse_toString
    · exact fun read => ⟨_, read⟩
  · exact fun major minor patch => (isRelease_ofComponents major minor patch).parse_toString
  · intro left right first second readLeft readRight
    constructor
    · exact fun same => congrArg toString same
    · intro same
      have back := (isRelease_of_parse readLeft).parse_toString
      rw [same, (isRelease_of_parse readRight).parse_toString] at back
      exact (Except.ok.inj back).symm

end ReleaseFeed.VersionNumber
