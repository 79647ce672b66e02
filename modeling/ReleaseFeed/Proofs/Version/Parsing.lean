import ReleaseFeed.Proofs.Version.Reading
/-!
Release numbers in any input. Main statement: an input is read as the number that its text spells,
is empty without a text, and is refused as it stands otherwise.
-/
namespace ReleaseFeed.VersionNumber

/-- The text of an input: what is left between its blanks, without one `v` ahead of it. -/
inductive Strips (input text : List Char) : Prop
  | marked (body : Text.Trims input ('v' :: text))
  | plain (body : Text.Trims input text) (unmarked : text.head? ≠ some 'v')

theorem strips_iff {input text : List Char} :
    Strips input text ↔ text = dropMark (Text.trim input) := by
  constructor
  · rintro (body | ⟨body, unmarked⟩) <;> rw [Text.trim_eq_iff.mpr body]
    · rfl
    · unfold dropMark
      split
      · exact absurd rfl unmarked
      · rfl
  · rintro rfl
    have body := Text.trims_trim input
    unfold dropMark
    split
    · rename_i rest shape
      exact .marked (shape ▸ body)
    · rename_i unmarked
      refine .plain body ?_
      intro head
      obtain ⟨rest, shape⟩ := List.head?_eq_some_iff.mp head
      exact unmarked rest shape

/-- What is read from an input with a given text. -/
inductive Reads (input : String) (text : List Char) : Except ParseError VersionNumber → Prop
  | empty (nothing : text = []) : Reads input text (.error .empty)
  | number {number : VersionNumber} (spells : Spells text number) : Reads input text (.ok number)
  | refused (something : text ≠ []) (spellsNone : ∀ number, ¬ Spells text number) :
      Reads input text (.error (.invalidFormat input))

theorem not_spells_nil {number : VersionNumber} : ¬ Spells [] number := by
  have nothing : parseEither [] = none := rfl
  rw [← parseEither_eq_some_iff, nothing]
  exact nofun

theorem reads_iff {input : String} {text : List Char} {result : Except ParseError VersionNumber}
    (strips : Strips input.toList text) : parse input = result ↔ Reads input text result := by
  obtain rfl := strips_iff.mp strips
  simp only [parse]
  generalize dropMark (Text.trim input.toList) = text
  constructor
  · rintro rfl
    split
    · rename_i nothing
      exact .empty (List.isEmpty_iff.mp nothing)
    · rename_i something
      cases read : parseEither text with
      | some number => exact .number (parseEither_eq_some_iff.mp read)
      | none =>
        refine .refused (by simpa using something) ?_
        intro number spells
        rw [parseEither_eq_some_iff.mpr spells] at read
        contradiction
  · intro reads
    cases reads with
    | empty nothing => simp [nothing]
    | @number number spells =>
      have something : text ≠ [] := by
        rintro rfl
        exact not_spells_nil spells
      rw [if_neg (by simpa using something), parseEither_eq_some_iff.mpr spells]
    | refused something spellsNone =>
      rw [if_neg (by simpa using something)]
      cases read : parseEither text with
      | some number => exact absurd (parseEither_eq_some_iff.mp read) (spellsNone number)
      | none => rfl

/-- Every input has one text, which decides what is read. -/
theorem parse_readsGrammar (input : String) :
    ∃ text, (∀ other, Strips input.toList other ↔ other = text) ∧
      ∀ result, parse input = result ↔ Reads input text result :=
  ⟨dropMark (Text.trim input.toList), fun _ => strips_iff, fun _ => reads_iff (strips_iff.mpr rfl)⟩

example : parse " v01.2-rc.1+007 " =
    .ok ⟨1, 2, 0, ["rc".toList, "1".toList], ["007".toList]⟩ := by decide +kernel

end ReleaseFeed.VersionNumber
