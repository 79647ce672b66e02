import ReleaseFeed.Text.Blank

namespace ReleaseFeed.Text

variable {α : Type}

theorem intercalate_append {separator : α} {left right : List (List α)} (some : left ≠ [])
    (more : right ≠ []) :
    [separator].intercalate (left ++ right) =
      [separator].intercalate left ++ separator :: [separator].intercalate right := by
  induction left with
  | nil => exact absurd rfl some
  | cons first rest ih =>
    cases rest with
    | nil => simp [List.intercalate_cons_of_ne_nil more]
    | cons next later =>
      rw [List.cons_append, List.cons_append, List.intercalate_cons_cons,
        List.intercalate_cons_cons, ← List.cons_append, ih (List.cons_ne_nil _ _)]
      simp

theorem intercalate_concat {separator : α} {left : List (List α)} (some : left ≠ [])
    (last : List α) :
    [separator].intercalate (left ++ [last]) = [separator].intercalate left ++ separator :: last := by
  rw [intercalate_append some (List.cons_ne_nil _ _), List.intercalate_singleton]

theorem head?_intercalate_cons {separator : α} {first : List α} (filled : first ≠ [])
    (rest : List (List α)) : ([separator].intercalate (first :: rest)).head? = first.head? := by
  obtain ⟨head, tail, rfl⟩ := List.exists_cons_of_ne_nil filled
  cases rest with
  | nil => rw [List.intercalate_singleton]
  | cons next later => rw [List.intercalate_cons_cons, List.append_assoc, List.cons_append]; rfl

theorem intercalate_flatMap {β : Type} {separator : α} {groups : β → List (List α)}
    {members : List β} (filled : ∀ member ∈ members, groups member ≠ []) :
    [separator].intercalate (members.flatMap groups) =
      [separator].intercalate (members.map fun member => [separator].intercalate (groups member)) := by
  induction members with
  | nil => rfl
  | cons first rest ih =>
    have later := ih fun member found => filled member (List.mem_cons_of_mem _ found)
    cases rest with
    | nil => simp
    | cons next others =>
      have more : (next :: others).flatMap groups ≠ [] := by
        rw [List.flatMap_cons]
        exact List.append_ne_nil_of_left_ne_nil (filled next (by simp)) _
      rw [List.flatMap_cons, intercalate_append (filled first (by simp)) more, later]
      simp

/-- A separator that is dropped does not show between the lists that it joins. -/
theorem filter_intercalate {separator : α} {keeps : α → Bool} (dropped : keeps separator = false)
    (lists : List (List α)) :
    ([separator].intercalate lists).filter keeps = lists.flatten.filter keeps := by
  induction lists with
  | nil => rfl
  | cons first rest ih =>
    cases rest with
    | nil => simp
    | cons next later =>
      rw [List.intercalate_cons_cons, List.filter_append, List.filter_append, ih,
        List.flatten_cons, List.filter_append]
      simp [dropped]

theorem words_cons_of_blank {c : Char} (blank : isBlank c = true) (rest : List Char) :
    words (c :: rest) = words rest := by
  simp [words, splitBy_cons, blank]

theorem words_concat_of_blank {c : Char} (blank : isBlank c = true) (text : List Char) :
    words (text ++ [c]) = words text := by
  simp [words, splitBy_append_cons blank]

theorem words_append_cons_of_blank {c : Char} (blank : isBlank c = true)
    (before behind : List Char) : words (before ++ c :: behind) = words before ++ words behind := by
  rw [words, splitBy_append_cons blank, List.filter_append, ← words, ← words]

theorem words_intercalate {c : Char} (blank : isBlank c = true) (lines : List (List Char)) :
    words ([c].intercalate lines) = lines.flatMap words := by
  induction lines with
  | nil => rfl
  | cons first rest ih =>
    cases rest with
    | nil => rw [List.intercalate_singleton, List.flatMap_singleton]
    | cons next later =>
      rw [List.intercalate_cons_cons, List.append_assoc, List.singleton_append,
        words_append_cons_of_blank blank, ih]
      rfl

theorem words_of_not_blank {word : List Char} (filled : word ≠ [])
    (letters : ∀ c ∈ word, isBlank c = false) : words word = [word] := by
  have one : splitBy isBlank word = [word] := by
    clear filled
    induction word with
    | nil => rfl
    | cons c rest ih =>
      rw [List.forall_mem_cons] at letters
      simp [splitBy_cons, letters.1, ih letters.2]
  simpa [words, one] using filled

theorem words_append_of_blank {indent : List Char} (blank : ∀ c ∈ indent, isBlank c = true)
    (text : List Char) : words (indent ++ text) = words text := by
  induction indent with
  | nil => rfl
  | cons c rest ih =>
    rw [List.forall_mem_cons] at blank
    rw [List.cons_append, words_cons_of_blank blank.1, ih blank.2]

theorem words_trimStart (text : List Char) : words (trimStart text) = words text := by
  induction text with
  | nil => rfl
  | cons c rest ih =>
    by_cases blank : isBlank c = true
    · rw [words_cons_of_blank blank, ← ih, trimStart, List.dropWhile_cons_of_pos blank, trimStart]
    · rw [trimStart, List.dropWhile_cons_of_neg blank]

theorem flatten_words (text : List Char) :
    (words text).flatten = text.filter (fun c => !isBlank c) := by
  rw [words, List.flatten_filter_not_isEmpty, flatten_splitBy]

theorem trimStart_eq_nil_iff {text : List Char} :
    trimStart text = [] ↔ ∀ c ∈ text, isBlank c = true := by
  induction text with
  | nil => simp [trimStart]
  | cons c rest ih =>
    by_cases blank : isBlank c = true
    · rw [trimStart, List.dropWhile_cons_of_pos blank, ← trimStart]
      simpa [blank] using ih
    · simp [trimStart, blank]

end ReleaseFeed.Text
