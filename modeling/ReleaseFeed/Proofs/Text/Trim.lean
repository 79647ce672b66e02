import Mathlib.Data.List.TakeWhile
import ReleaseFeed.Proofs.Text.Words

namespace ReleaseFeed.Text

variable {α : Type} {keeps : α → Bool} {front back : List α}

/-- A front is taken up to the first member that stops it. -/
theorem takeWhile_append_of_stops (kept : ∀ member ∈ front, keeps member = true)
    (stops : ∀ member ∈ back.head?, keeps member = false) :
    (front ++ back).takeWhile keeps = front := by
  rw [List.takeWhile_append_of_pos kept]
  cases back with
  | nil => simp
  | cons first rest => simp [stops first rfl]

theorem dropWhile_append_of_stops (kept : ∀ member ∈ front, keeps member = true)
    (stops : ∀ member ∈ back.head?, keeps member = false) :
    (front ++ back).dropWhile keeps = back := by
  rw [List.dropWhile_append_of_pos kept]
  cases back with
  | nil => rfl
  | cons first rest => simp [stops first rfl]

theorem head?_dropWhile_stops (keeps : α → Bool) (text : List α) :
    ∀ member ∈ (text.dropWhile keeps).head?, keeps member = false := by
  intro member found
  have stops := List.head?_dropWhile_not keeps text
  rw [Option.mem_def.mp found] at stops
  exact stops

/-- The text that is left between the blanks at either end. -/
structure Trims (text body : List Char) : Prop where
  blanks : ∃ before behind, text = before ++ body ++ behind ∧
    (∀ c ∈ before, isBlank c = true) ∧ ∀ c ∈ behind, isBlank c = true
  first : ∀ c ∈ body.head?, isBlank c = false
  last : ∀ c ∈ body.getLast?, isBlank c = false

theorem trims_trim (text : List Char) : Trims text (trim text) := by
  have whole := List.takeWhile_append_dropWhile (p := isBlank) (l := (trimStart text).reverse)
  have ends : trimStart text = trim text ++ ((trimStart text).reverse.takeWhile isBlank).reverse := by
    rw [trim, trimEnd, ← List.reverse_append, whole, List.reverse_reverse]
  refine ⟨⟨text.takeWhile isBlank, ((trimStart text).reverse.takeWhile isBlank).reverse, ?_, ?_, ?_⟩,
    ?_, ?_⟩
  · rw [List.append_assoc, ← ends]
    exact List.takeWhile_append_dropWhile.symm
  · exact fun c inside => List.mem_takeWhile_imp inside
  · exact fun c inside => List.mem_takeWhile_imp (List.mem_reverse.mp inside)
  · intro c found
    refine head?_dropWhile_stops isBlank text c ?_
    rw [← trimStart, ends, List.head?_append, Option.mem_def.mp found]
    rfl
  · intro c found
    refine head?_dropWhile_stops isBlank (trimStart text).reverse c ?_
    rwa [trim, trimEnd, List.getLast?_reverse] at found

theorem trim_eq_iff {text body : List Char} : trim text = body ↔ Trims text body := by
  constructor
  · rintro rfl
    exact trims_trim text
  · rintro ⟨⟨before, behind, rfl, blankBefore, blankBehind⟩, first, last⟩
    have starts : trimStart (before ++ (body ++ behind)) = trimStart (body ++ behind) :=
      List.dropWhile_append_of_pos blankBefore
    rw [trim, List.append_assoc, starts]
    cases body with
    | nil =>
      -- nothing parts the two runs of blanks
      have nothing : trimStart behind = [] := trimStart_eq_nil_iff.mpr blankBehind
      simp [nothing, trimEnd]
    | cons head tail =>
      have stays : trimStart (head :: tail ++ behind) = head :: tail ++ behind :=
        List.dropWhile_cons_of_neg (by simpa using first head rfl)
      rw [stays, trimEnd, List.reverse_append, dropWhile_append_of_stops, List.reverse_reverse]
      · exact fun c inside => blankBehind c (List.mem_reverse.mp inside)
      · rwa [List.head?_reverse]

end ReleaseFeed.Text
