import ReleaseFeed.Proofs.Version.Display
/-!
What completing a short form changes. Main statement: the full form reads exactly those release
numbers that completing leaves as they are, so the short form alone decides what is read.
-/
namespace ReleaseFeed.VersionNumber

variable {text : List Char} {component : UInt64} {number : VersionNumber}

/-- A component without leading zeros is read from its own digits alone. -/
theorem readStrictComponent_eq_some_iff :
    readStrictComponent text = some component ↔ text = digitsOf component := by
  constructor
  · intro read
    have denotes := denotes_of_readStrictComponent read
    rw [readStrictComponent, Option.ite_none_left_eq_some, Bool.not_eq_true] at read
    rw [digitsOf, ← denotes.value, Text.toDigits_ofDigitChars denotes.nonempty denotes.digits
      (hasLeadingZero_eq_false_iff.mp read.1)]
  · rintro rfl
    exact readStrictComponent_digitsOf component

/-- The components of a full form are written as they are written of any number. -/
theorem coreOf_of_parseFull (read : parseFull text = some number) :
    coreOf text = (ofComponents number.major number.minor number.patch).display := by
  unfold parseFull at read
  split at read
  · rename_i first second third pieces
    simp only [Option.bind_eq_bind, Option.bind_eq_some_iff,
      readStrictComponent_eq_some_iff] at read
    obtain ⟨major, rfl, minor, rfl, patch, rfl, ⟨pre, build⟩, -, same⟩ := read
    cases Option.some.inj same
    rw [display_ofComponents, ← pieces, dotted_splitOn]
  · contradiction

theorem completeShort_of_parseFull (read : parseFull text = some number) :
    completeShort text = some text := by
  have core := coreOf_of_parseFull read
  have completed := completeShort_of_isCore (spells_iff.mp (spells_of_parseFull read)).1
  rw [completed, completeShort.written, ← core, coreOf_append_suffixOf]

theorem parseShort_of_parseFull (read : parseFull text = some number) :
    parseShort text = some number :=
  parseShort_eq_some_iff.mpr (spells_of_parseFull read)

/-- A text that completing leaves as it is has a full form. -/
theorem parseFull_iff_completeShort : parseFull text = some number ↔
    parseShort text = some number ∧ completeShort text = some text := by
  constructor
  · exact fun read => ⟨parseShort_of_parseFull read, completeShort_of_parseFull read⟩
  · rintro ⟨short, same⟩
    rwa [parseShort, same, Option.bind_some] at short

theorem display_eq_append (number : VersionNumber) : number.display =
    (ofComponents number.major number.minor number.patch).display ++
      (announced '-' number.pre ++ announced '+' number.build) := by
  simp [display, ofComponents]

/-- The full form is the written form of the number that is read from it. -/
theorem parseFull_eq_some_iff :
    parseFull text = some number ↔ Spells text number ∧ text = number.display := by
  constructor
  · intro read
    have spells := spells_of_parseFull read
    refine ⟨spells, ?_⟩
    calc text = coreOf text ++ suffixOf text := (coreOf_append_suffixOf text).symm
      _ = (ofComponents number.major number.minor number.patch).display ++
          (announced '-' number.pre ++ announced '+' number.build) := by
        rw [coreOf_of_parseFull read, (spells_iff.mp spells).2.text_eq]
      _ = number.display := (display_eq_append number).symm
  · rintro ⟨spells, rfl⟩
    have release := spells.isRelease
    have suffix : IsSuffix (announced '-' number.pre ++ announced '+' number.build)
        number.pre number.build := ⟨rfl, release.pre, release.build⟩
    rw [display_eq_append, parseFull_display_append suffix.startsSuffix,
      readSuffix_eq_some_iff.mpr suffix]
    rfl

theorem parseEither_eq_parseShort (text : List Char) : parseEither text = parseShort text := by
  apply Option.ext
  intro number
  rw [parseEither_eq_some_iff, parseShort_eq_some_iff]

/-- How the short form of a text stands to its full form. -/
structure ExtendsFull (text : List Char) : Prop where
  /-- What the full form reads is read by the short form too, as the same number. -/
  agrees : ∀ number, parseFull text = some number → parseShort text = some number
  /-- The full form is read where completing leaves the text as it is, and nowhere else. -/
  exact : ∀ number, parseFull text = some number ↔
    parseShort text = some number ∧ completeShort text = some text
  /-- Such a text is the written form of its number. -/
  written : ∀ number, parseFull text = some number ↔ Spells text number ∧ text = number.display
  /-- Trying the full form first changes no result. -/
  either : parseEither text = parseShort text
  /-- The short form reads what spells a number. -/
  language : ∀ number, parseShort text = some number ↔ Spells text number
  /-- An input with this text is read as the short form reads the text. -/
  decides : ∀ input : String, Strips input.toList text →
    ∀ number, parse input = .ok number ↔ parseShort text = some number

/-- Of every text, the short form alone decides whether it is read and as which number. -/
theorem shortForm_extendsFull (text : List Char) : ExtendsFull text where
  agrees _ read := parseShort_of_parseFull read
  exact _ := parseFull_iff_completeShort
  written _ := parseFull_eq_some_iff
  either := parseEither_eq_parseShort text
  language _ := parseShort_eq_some_iff
  decides input strips number := by
    rw [reads_iff strips, parseShort_eq_some_iff]
    constructor
    · intro reads
      cases reads with
      | number spells => exact spells
    · exact .number

example : completeShort "18446744073709551615.0.1-a-.0+-01.x".toList =
    some "18446744073709551615.0.1-a-.0+-01.x".toList := by decide +kernel

end ReleaseFeed.VersionNumber
