import ReleaseFeed.Proofs.Traversal
import ReleaseFeed.Proofs.Version.Grammar

namespace ReleaseFeed.VersionNumber

variable {text : List Char} {component major minor patch : UInt64} {number : VersionNumber}

section Components

theorem readComponent_eq_some_iff : readComponent text = some component ↔ Denotes text component := by
  simp only [readComponent, Option.ite_none_right_eq_some, Bool.and_eq_true, Bool.not_eq_true',
    List.isEmpty_eq_false_iff, List.all_eq_true, decide_eq_true_eq, Option.some.injEq]
  constructor
  · rintro ⟨⟨⟨nonempty, digits⟩, small⟩, rfl⟩
    exact ⟨nonempty, digits, (UInt64.toNat_ofNat_of_lt' small).symm⟩
  · rintro ⟨nonempty, digits, value⟩
    refine ⟨⟨⟨nonempty, digits⟩, ?_⟩, ?_⟩
    · rw [value]
      exact component.toNat_lt
    · rw [value, UInt64.ofNat_toNat]

theorem hasLeadingZero_eq_false_iff :
    hasLeadingZero text = false ↔ (text.head? = some '0' → text = ['0']) := by
  cases text with
  | nil => simp [hasLeadingZero]
  | cons first rest =>
    simp only [hasLeadingZero, List.head?_cons, List.length_cons]
    grind

theorem denotes_of_readStrictComponent (read : readStrictComponent text = some component) :
    Denotes text component := by
  rw [readStrictComponent, Option.ite_none_left_eq_some] at read
  exact readComponent_eq_some_iff.mp read.2

theorem head?_toDigits_ne_zero {value : Nat} (positive : 0 < value) :
    (Nat.toDigits 10 value).head? ≠ some '0' := by
  have apart : ∀ digit < 10, 0 < digit → [Nat.digitChar digit].head? ≠ some '0' := by decide
  induction value using Nat.strongRecOn with
  | ind value ih =>
    by_cases small : value < 10
    · rw [Nat.toDigits_of_lt_base small]
      exact apart value small positive
    · have shorter := ih (value / 10) (by omega) (by omega)
      rw [Nat.toDigits_of_base_le (by decide) (by omega), List.head?_append]
      cases head : (Nat.toDigits 10 (value / 10)).head? with
      | none => exact absurd (List.head?_eq_none_iff.mp head) Nat.toDigits_ne_nil
      | some first => rwa [head] at shorter

theorem hasLeadingZero_digitsOf (component : UInt64) : hasLeadingZero (digitsOf component) = false := by
  rw [hasLeadingZero_eq_false_iff]
  intro zero
  by_cases positive : 0 < component.toNat
  · exact absurd zero (head?_toDigits_ne_zero positive)
  · rw [digitsOf, Nat.eq_zero_of_not_pos positive]
    rfl

theorem denotes_digitsOf (component : UInt64) : Denotes (digitsOf component) component where
  nonempty := Nat.toDigits_ne_nil
  digits := fun _ inside => Nat.isDigit_of_mem_toDigits (by decide) (by decide) inside
  value := Nat.ofDigitChars_ten_toDigits

theorem readStrictComponent_digitsOf (component : UInt64) :
    readStrictComponent (digitsOf component) = some component := by
  rw [readStrictComponent, hasLeadingZero_digitsOf]
  exact readComponent_eq_some_iff.mpr (denotes_digitsOf component)

end Components

section Identifiers

variable {identifiers pre build : List Identifier}

theorem isIdentifier_iff : isIdentifier text = true ↔ IsLabel text := by
  simp only [isIdentifier, isIdentifierChar, Bool.and_eq_true, Bool.not_eq_true',
    List.isEmpty_eq_false_iff, List.all_eq_true, Bool.or_eq_true, beq_iff_eq]
  exact ⟨fun ⟨nonempty, alphabet⟩ => ⟨nonempty, alphabet⟩, fun label =>
    ⟨label.nonempty, label.alphabet⟩⟩

theorem isPreIdentifier_iff : isPreIdentifier text = true ↔ IsPreLabel text := by
  have numeric : (!(text.all Char.isDigit && hasLeadingZero text)) = true ↔
      ((∀ c ∈ text, c.isDigit = true) → text.head? = some '0' → text = ['0']) := by
    rw [← hasLeadingZero_eq_false_iff, ← List.all_eq_true]
    cases text.all Char.isDigit <;> simp
  rw [isPreIdentifier, Bool.and_eq_true, isIdentifier_iff, numeric]
  exact ⟨fun ⟨label, plain⟩ => ⟨label, plain⟩, fun label => ⟨label.toIsLabel, label.plain⟩⟩

theorem dotted_splitOn (text : List Char) : dotted (Text.splitOn '.' text) = text :=
  Text.intercalate_splitOn '.' text

theorem splitOn_dotted (nonempty : identifiers ≠ [])
    (noDot : ∀ identifier ∈ identifiers, '.' ∉ identifier) :
    Text.splitOn '.' (dotted identifiers) = identifiers :=
  Text.splitOn_intercalate nonempty noDot

theorem readIdentifiers_eq_some_iff {accepts : List Char → Bool}
    (noDot : ∀ identifier, accepts identifier = true → '.' ∉ identifier) :
    readIdentifiers accepts text = some identifiers ↔
      identifiers ≠ [] ∧ text = dotted identifiers ∧
        ∀ identifier ∈ identifiers, accepts identifier = true := by
  simp only [readIdentifiers, Option.ite_none_right_eq_some, List.all_eq_true, Option.some.injEq]
  constructor
  · rintro ⟨accepted, rfl⟩
    exact ⟨Text.splitBy_ne_nil _ text, (dotted_splitOn text).symm, accepted⟩
  · rintro ⟨nonempty, rfl, accepted⟩
    rw [splitOn_dotted nonempty fun identifier found => noDot identifier (accepted identifier found)]
    exact ⟨accepted, rfl⟩

theorem readBuild_eq_some_iff :
    readBuild text = some build ↔
      text = announced '+' build ∧ ∀ identifier ∈ build, IsLabel identifier := by
  have noDot : ∀ identifier, isIdentifier identifier = true → '.' ∉ identifier :=
    fun _ accepted => (isIdentifier_iff.mp accepted).dot_not_mem
  unfold readBuild
  split
  · constructor
    · intro none
      cases Option.some.inj none
      simp
    · rintro ⟨same, _⟩
      cases build with
      | nil => rfl
      | cons first rest => simp [announced_of_ne_nil] at same
  · rename_i rest
    simp only [readIdentifiers_eq_some_iff noDot, isIdentifier_iff]
    constructor
    · rintro ⟨nonempty, rfl, labels⟩
      exact ⟨(announced_of_ne_nil nonempty).symm, labels⟩
    · rintro ⟨same, labels⟩
      cases build with
      | nil => simp at same
      | cons first later =>
        rw [announced_of_ne_nil (List.cons_ne_nil _ _)] at same
        exact ⟨List.cons_ne_nil _ _, (List.cons.inj same).2, labels⟩
  · rename_i notEmpty notPlus
    rw [iff_false_left (by simp)]
    rintro ⟨rfl, _⟩
    cases build with
    | nil => exact notEmpty rfl
    | cons first rest => exact notPlus _ (announced_of_ne_nil (List.cons_ne_nil _ _))

/-- The pre-release ends at the first plus sign, which no identifier holds. -/
theorem isSuffix_hyphen_iff {rest : List Char} :
    IsSuffix ('-' :: rest) pre build ↔
      readIdentifiers isPreIdentifier (rest.takeWhile (· != '+')) = some pre ∧
        readBuild (rest.dropWhile (· != '+')) = some build := by
  have noDot : ∀ identifier, isPreIdentifier identifier = true → '.' ∉ identifier :=
    fun _ accepted => (isPreIdentifier_iff.mp accepted).dot_not_mem
  simp only [readIdentifiers_eq_some_iff noDot, readBuild_eq_some_iff, isPreIdentifier_iff]
  constructor
  · rintro ⟨same, labels, builds⟩
    have nonempty : pre ≠ [] := by
      -- build identifiers alone start with a plus sign
      rintro rfl
      rw [announced_nil, List.nil_append] at same
      have plus := head?_announced '+' build '-' (by rw [← same]; rfl)
      contradiction
    rw [announced_of_ne_nil nonempty, List.cons_append] at same
    have inside : ∀ c ∈ dotted pre, (c != '+') = true :=
      forall_mem_dotted rfl fun identifier found => (labels identifier found).ne_plus
    have stops : ∀ c ∈ (announced '+' build).head?, (c != '+') = false := by
      intro c found
      simp [head?_announced _ _ c found]
    rw [(List.cons.inj same).2, Text.takeWhile_append_of_stops inside stops,
      Text.dropWhile_append_of_stops inside stops]
    exact ⟨⟨nonempty, rfl, labels⟩, rfl, builds⟩
  · rintro ⟨⟨nonempty, front, labels⟩, back, builds⟩
    refine ⟨?_, labels, builds⟩
    rw [announced_of_ne_nil nonempty, ← front, ← back, List.cons_append,
      List.takeWhile_append_dropWhile]

theorem readSuffix_eq_some_iff :
    readSuffix text = some (pre, build) ↔ IsSuffix text pre build := by
  unfold readSuffix
  split
  · rename_i rest
    rw [isSuffix_hyphen_iff]
    simp [Option.bind_eq_some_iff]
  · rename_i notHyphen
    simp only [Option.bind_eq_bind, Option.bind_eq_some_iff, readBuild_eq_some_iff, Option.pure_def,
      Option.some.injEq, Prod.mk.injEq]
    constructor
    · rintro ⟨_, ⟨same, labels⟩, rfl, rfl⟩
      exact ⟨same, by simp, labels⟩
    · rintro ⟨same, labels, builds⟩
      cases pre with
      | nil => exact ⟨build, ⟨same, builds⟩, rfl, rfl⟩
      | cons first rest =>
        rw [announced_of_ne_nil (List.cons_ne_nil _ _)] at same
        exact absurd same (notHyphen _)

end Identifiers

section Forms

theorem display_ofComponents (major minor patch : UInt64) :
    (ofComponents major minor patch).display =
      dotted [digitsOf major, digitsOf minor, digitsOf patch] := by
  simp [display, ofComponents, dotted, List.intercalate]

theorem isCore_display (major minor patch : UInt64) :
    IsCore (ofComponents major minor patch).display major minor patch := by
  rw [display_ofComponents]
  exact .patch (denotes_digitsOf major) (denotes_digitsOf minor) (denotes_digitsOf patch)

/-- A full form is read as its own components. -/
theorem parseFull_display_append {suffix : List Char}
    (starts : ∀ c ∈ suffix.head?, startsSuffix c = true) :
    parseFull ((ofComponents major minor patch).display ++ suffix) =
      (readSuffix suffix).map fun (pre, build) => ⟨major, minor, patch, pre, build⟩ := by
  have plain := (isCore_display major minor patch).not_startsSuffix
  have pieces : Text.splitOn '.' (ofComponents major minor patch).display =
      [digitsOf major, digitsOf minor, digitsOf patch] := by
    rw [display_ofComponents]
    exact splitOn_dotted (List.cons_ne_nil _ _)
      (by simp [(denotes_digitsOf major).dot_not_mem, (denotes_digitsOf minor).dot_not_mem,
        (denotes_digitsOf patch).dot_not_mem])
  rw [parseFull, coreOf_append plain starts, suffixOf_append plain starts, pieces]
  simp only [readStrictComponent_digitsOf, Option.bind_eq_bind, Option.bind_some]
  cases readSuffix suffix <;> rfl

theorem spells_of_parseFull (read : parseFull text = some number) : Spells text number := by
  unfold parseFull at read
  split at read
  · rename_i first second third pieces
    simp only [Option.bind_eq_bind, Option.bind_eq_some_iff] at read
    obtain ⟨major, majorText, minor, minorText, patch, patchText, ⟨pre, build⟩, suffix, same⟩ := read
    cases Option.some.inj same
    rw [spells_iff, ← dotted_splitOn (coreOf text), pieces]
    exact ⟨.patch (denotes_of_readStrictComponent majorText)
      (denotes_of_readStrictComponent minorText) (denotes_of_readStrictComponent patchText),
      readSuffix_eq_some_iff.mp suffix⟩
  · contradiction

/-- The components of a short form are found in the pieces between its dots. -/
theorem completeShort_of_isCore (core : IsCore (coreOf text) major minor patch) :
    completeShort text = some (completeShort.written text major minor patch) := by
  have pieces {texts : List (List Char)} {components : List UInt64} (nonempty : texts ≠ [])
      (denotes : List.Forall₂ Denotes texts components) :
      (Text.splitOn '.' (dotted texts)).mapM readComponent = some components := by
    have noDot := forall_left_of_forall₂ denotes fun _ _ component => component.dot_not_mem
    rw [splitOn_dotted nonempty noDot, mapM_eq_some_iff]
    exact denotes.imp fun _ _ => readComponent_eq_some_iff.mpr
  unfold completeShort
  generalize coreOf text = front at core
  cases core with
  | major majorText => simp [pieces (List.cons_ne_nil _ _) (.cons majorText .nil)]
  | minor majorText minorText =>
    simp [pieces (List.cons_ne_nil _ _) (.cons majorText (.cons minorText .nil))]
  | patch majorText minorText patchText =>
    simp [pieces (List.cons_ne_nil _ _) (.cons majorText (.cons minorText (.cons patchText .nil)))]

theorem exists_isCore_of_completeShort {full : List Char} (completed : completeShort text = some full) :
    ∃ major minor patch, IsCore (coreOf text) major minor patch ∧
      full = completeShort.written text major minor patch := by
  unfold completeShort at completed
  simp only [Option.bind_eq_bind, Option.bind_eq_some_iff, mapM_eq_some_iff,
    readComponent_eq_some_iff] at completed
  obtain ⟨components, denotes, completed⟩ := completed
  rw [← dotted_splitOn (coreOf text)]
  generalize Text.splitOn '.' (coreOf text) = pieces at denotes
  split at completed
  · obtain _ | ⟨majorText, ⟨⟩⟩ := denotes
    exact ⟨_, _, _, .major majorText, (Option.some.inj completed).symm⟩
  · obtain _ | ⟨majorText, _ | ⟨minorText, ⟨⟩⟩⟩ := denotes
    exact ⟨_, _, _, .minor majorText minorText, (Option.some.inj completed).symm⟩
  · obtain _ | ⟨majorText, _ | ⟨minorText, _ | ⟨patchText, ⟨⟩⟩⟩⟩ := denotes
    exact ⟨_, _, _, .patch majorText minorText patchText, (Option.some.inj completed).symm⟩
  · contradiction

theorem parseShort_eq_some_iff : parseShort text = some number ↔ Spells text number := by
  rw [parseShort, Option.bind_eq_some_iff, spells_iff]
  constructor
  · rintro ⟨full, completed, read⟩
    obtain ⟨major, minor, patch, core, rfl⟩ := exists_isCore_of_completeShort completed
    rw [completeShort.written, parseFull_display_append (startsSuffix_suffixOf text),
      Option.map_eq_some_iff] at read
    obtain ⟨⟨pre, build⟩, suffix, rfl⟩ := read
    exact ⟨core, readSuffix_eq_some_iff.mp suffix⟩
  · rintro ⟨core, suffix⟩
    refine ⟨_, completeShort_of_isCore core, ?_⟩
    rw [completeShort.written, parseFull_display_append suffix.startsSuffix,
      readSuffix_eq_some_iff.mpr suffix]
    rfl

theorem parseEither_eq_some_iff : parseEither text = some number ↔ Spells text number := by
  rw [parseEither, Option.or_eq_some_iff, parseShort_eq_some_iff]
  constructor
  · rintro (read | ⟨_, spells⟩)
    · exact spells_of_parseFull read
    · exact spells
  · intro spells
    -- what the full form reads is spelled too, and a text spells one number
    cases full : parseFull text with
    | none => exact .inr ⟨rfl, spells⟩
    | some other =>
      have same := parseShort_eq_some_iff.mpr (spells_of_parseFull full)
      rw [parseShort_eq_some_iff.mpr spells] at same
      exact .inl same.symm

end Forms

end ReleaseFeed.VersionNumber
