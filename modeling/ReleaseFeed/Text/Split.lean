namespace ReleaseFeed.Text

variable {α : Type}

/-- The pieces between the members that satisfy `separates`; a list without one is one piece. -/
def splitBy (separates : α → Bool) (text : List α) : List (List α) :=
  text.foldr (fun member pieces =>
    if separates member then [] :: pieces
    else (member :: pieces.headD []) :: pieces.tail) [[]]

/-- The pieces between the places where `separator` stands. -/
def splitOn [DecidableEq α] (separator : α) (text : List α) : List (List α) :=
  splitBy (fun member => decide (member = separator)) text

@[simp]
theorem splitBy_nil (separates : α → Bool) : splitBy separates [] = [[]] := rfl

theorem splitBy_cons (separates : α → Bool) (member : α) (rest : List α) :
    splitBy separates (member :: rest) =
      if separates member then [] :: splitBy separates rest
      else (member :: (splitBy separates rest).headD []) :: (splitBy separates rest).tail := rfl

theorem splitBy_ne_nil (separates : α → Bool) (text : List α) : splitBy separates text ≠ [] := by
  cases text with
  | nil => simp
  | cons member rest =>
    rw [splitBy_cons]
    split <;> simp

theorem not_separates_of_mem_splitBy {separates : α → Bool} {text piece : List α}
    (found : piece ∈ splitBy separates text) : ∀ member ∈ piece, separates member = false := by
  induction text generalizing piece with
  | nil => simp_all
  | cons head rest ih =>
    rw [splitBy_cons] at found
    split at found
    · rcases List.mem_cons.1 found with rfl | later
      · simp
      · exact ih later
    · rename_i plain
      obtain ⟨first, others, shape⟩ := List.exists_cons_of_ne_nil (splitBy_ne_nil separates rest)
      simp only [shape, List.headD_cons, List.tail_cons, List.mem_cons] at found
      rcases found with rfl | later
      · have firstPlain := @ih first (by simp [shape])
        intro member inside
        rcases List.mem_cons.1 inside with rfl | deeper
        · simpa using plain
        · exact firstPlain member deeper
      · exact ih (by simp [shape, later])

theorem not_mem_of_mem_splitOn [DecidableEq α] {separator : α} {text piece : List α}
    (found : piece ∈ splitOn separator text) : separator ∉ piece := by
  intro inside
  simpa using not_separates_of_mem_splitBy found separator inside

theorem mem_of_mem_splitBy {separates : α → Bool} {text piece : List α} {member : α}
    (found : piece ∈ splitBy separates text) (inside : member ∈ piece) : member ∈ text := by
  induction text generalizing piece with
  | nil => simp_all
  | cons head rest ih =>
    rw [splitBy_cons] at found
    split at found
    · rcases List.mem_cons.1 found with rfl | later
      · cases inside
      · exact List.mem_cons_of_mem _ (ih later inside)
    · obtain ⟨first, others, shape⟩ := List.exists_cons_of_ne_nil (splitBy_ne_nil separates rest)
      simp only [shape, List.headD_cons, List.tail_cons, List.mem_cons] at found
      rcases found with rfl | later
      · rcases List.mem_cons.1 inside with rfl | deeper
        · exact List.mem_cons_self
        · exact List.mem_cons_of_mem _ (ih (by simp [shape]) deeper)
      · exact List.mem_cons_of_mem _ (ih (by simp [shape, later]) inside)

theorem splitBy_append_cons {separates : α → Bool} {separator : α}
    (cuts : separates separator = true) (before behind : List α) :
    splitBy separates (before ++ separator :: behind) =
      splitBy separates before ++ splitBy separates behind := by
  induction before with
  | nil => simp [splitBy_cons, cuts]
  | cons member rest ih =>
    obtain ⟨first, others, shape⟩ := List.exists_cons_of_ne_nil (splitBy_ne_nil separates rest)
    rw [List.cons_append, splitBy_cons, splitBy_cons, ih, shape]
    split <;> simp

theorem splitOn_append_cons [DecidableEq α] (separator : α) (before behind : List α) :
    splitOn separator (before ++ separator :: behind) =
      splitOn separator before ++ splitOn separator behind :=
  splitBy_append_cons (by simp) before behind

theorem flatten_splitBy (separates : α → Bool) (text : List α) :
    (splitBy separates text).flatten = text.filter (fun member => !separates member) := by
  induction text with
  | nil => rfl
  | cons member rest ih =>
    obtain ⟨first, others, shape⟩ := List.exists_cons_of_ne_nil (splitBy_ne_nil separates rest)
    rw [splitBy_cons, List.filter_cons, ← ih, shape]
    cases separates member <;> simp

theorem splitOn_of_not_mem [DecidableEq α] {separator : α} {text : List α}
    (absent : separator ∉ text) : splitOn separator text = [text] := by
  induction text with
  | nil => rfl
  | cons member rest ih =>
    simp only [List.mem_cons, not_or] at absent
    have later : splitBy (fun m => decide (m = separator)) rest = [rest] := ih absent.2
    simp [splitOn, splitBy_cons, later, Ne.symm absent.1]

theorem splitOn_intercalate [DecidableEq α] {separator : α} {pieces : List (List α)}
    (nonempty : pieces ≠ []) (absent : ∀ piece ∈ pieces, separator ∉ piece) :
    splitOn separator ([separator].intercalate pieces) = pieces := by
  induction pieces with
  | nil => exact absurd rfl nonempty
  | cons first rest ih =>
    have alone := splitOn_of_not_mem (absent first List.mem_cons_self)
    cases rest with
    | nil => simpa [List.intercalate] using alone
    | cons next later =>
      have rest := ih (List.cons_ne_nil _ _) fun piece member =>
        absent piece (List.mem_cons_of_mem _ member)
      have joined : [separator].intercalate (first :: next :: later) =
          first ++ separator :: [separator].intercalate (next :: later) := by
        simp [List.intercalate]
      rw [joined, splitOn_append_cons, alone, rest]
      rfl

theorem intercalate_splitOn [DecidableEq α] (separator : α) (text : List α) :
    [separator].intercalate (splitOn separator text) = text := by
  induction text with
  | nil => rfl
  | cons member rest ih =>
    obtain ⟨first, others, shape⟩ :=
      List.exists_cons_of_ne_nil (splitBy_ne_nil (fun m => decide (m = separator)) rest)
    simp only [splitOn] at ih ⊢
    rw [splitBy_cons]
    rw [shape] at ih ⊢
    by_cases same : member = separator
    · subst same
      rw [← ih]
      simp [List.intercalate]
    · rw [← ih]
      cases others with
      | nil => simp [same, List.intercalate, List.intersperse]
      | cons next later => simp [same, List.intercalate, List.intersperse]

end ReleaseFeed.Text
