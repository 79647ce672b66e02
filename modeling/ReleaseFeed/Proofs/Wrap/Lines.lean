import Mathlib.Data.List.TakeWhile
import ReleaseFeed.Proofs.Wrap.Rows

namespace ReleaseFeed.Wrap

open Text

variable {room : Nat} {source : List Char}

theorem mem_of_mem_dropReturn {c : Char} (inside : c ∈ dropReturn source) : c ∈ source := by
  unfold dropReturn at inside
  split at inside
  · exact (List.dropLast_sublist _).subset inside
  · exact inside

/-- The body of a source line holds nothing but characters of the line. -/
theorem mem_of_mem_body {c : Char} (inside : c ∈ trimStart (dropReturn source)) : c ∈ source :=
  mem_of_mem_dropReturn ((List.dropWhile_sublist _).subset inside)

/-- The indentation that is kept consists of blanks of the line. -/
theorem mem_indent {c : Char} (inside : c ∈ (marginOf room (dropReturn source)).indent) :
    isBlank c = true ∧ c ∈ source := by
  simp only [marginOf] at inside
  split at inside
  · exact ⟨List.mem_takeWhile_imp inside,
      mem_of_mem_dropReturn ((List.takeWhile_sublist _).subset inside)⟩
  · cases inside

theorem column_lt_room (positive : 0 < room) (line : List Char) :
    (marginOf room line).column < room := by
  simp only [marginOf, Margin.column]
  split
  · assumption
  · exact positive

/-- A row of a source line holds nothing but characters of the line and spaces. -/
theorem mem_row {rows : List Row} {row : Row} {c : Char}
    (lays : (marginOf room (dropReturn source)).Lays (words (trimStart (dropReturn source))) rows)
    (member : row ∈ rows) (inside : c ∈ row.text) :
    c = ' ' ∨ (isBlank c = false ∧ c ∈ source) := by
  refine (lays.mem_text member inside).imp_right ?_
  rintro ⟨word, found, deeper⟩
  exact ⟨not_isBlank_of_mem_words found c deeper, mem_of_mem_body (mem_of_mem_words found deeper)⟩

theorem lineFeed_not_mem (single : '\n' ∉ source) {line : List Char}
    (member : line ∈ wrapLine room source) : '\n' ∉ line := by
  by_cases notBlank : trimStart (dropReturn source) = []
  · simp only [wrapLine, notBlank, List.isEmpty_nil, if_true, List.mem_singleton] at member
    simp [member]
  · obtain ⟨rows, lays, same⟩ := wrapLine_eq_render room notBlank
    rw [same] at member
    obtain ⟨row, found, rfl⟩ := List.mem_map.mp member
    intro feed
    rcases List.mem_append.mp feed with indented | written
    · exact single (mem_indent indented).2
    · rcases mem_row lays found written with space | ⟨_, shown⟩
      · cases space
      · exact single shown

theorem wrapLine_ne_nil (room : Nat) (source : List Char) : wrapLine room source ≠ [] := by
  by_cases notBlank : trimStart (dropReturn source) = []
  · simp [wrapLine, notBlank]
  · obtain ⟨rows, lays, same⟩ := wrapLine_eq_render room notBlank
    rw [same]
    simpa using lays.ne_nil (words_trimStart_ne_nil notBlank)

theorem splitOn_wrapText (text : List Char) (positive : 0 < room) :
    splitOn '\n' (wrapText text room) = (splitOn '\n' text).flatMap (wrapLine room) := by
  rw [wrapText, if_neg (Nat.ne_of_gt positive)]
  apply splitOn_intercalate
  · obtain ⟨first, rest, shape⟩ := List.exists_cons_of_ne_nil
      (splitBy_ne_nil (fun c => decide (c = '\n')) text)
    rw [splitOn, shape, List.flatMap_cons]
    exact List.append_ne_nil_of_left_ne_nil (wrapLine_ne_nil room first) _
  · intro line member
    obtain ⟨source, found, produced⟩ := List.mem_flatMap.mp member
    exact lineFeed_not_mem (not_mem_of_mem_splitOn found) produced

end ReleaseFeed.Wrap
