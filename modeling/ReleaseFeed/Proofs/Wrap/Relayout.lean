import ReleaseFeed.Proofs.Wrap.Fragments
import ReleaseFeed.Proofs.Wrap.Lines
/-!
What wrapping keeps of a text. Main statement: each source line is wrapped on its own, its words are
set in order behind its indentation, and nothing but blanks is added or dropped.
-/
namespace ReleaseFeed.Wrap

open Text

variable {room : Nat} {source : List Char}

/-- The indentation of a source line, if that leaves room on a line. -/
def keptIndent (room : Nat) (source : List Char) : List Char :=
  if width (source.takeWhile isBlank) < room then source.takeWhile isBlank else []

theorem dropReturn_cases (source : List Char) :
    dropReturn source = source ∨ source = dropReturn source ++ ['\r'] := by
  unfold dropReturn
  split
  · rename_i ends
    obtain ⟨front, rfl⟩ := List.getLast?_eq_some_iff.mp ends
    exact .inr (by rw [List.dropLast_concat])
  · exact .inl rfl

theorem words_dropReturn (source : List Char) : words (dropReturn source) = words source := by
  rcases dropReturn_cases source with same | ends
  · rw [same]
  · conv => rhs; rw [ends]
    exact (words_concat_of_blank (by decide) _).symm

/-- A carriage return at the end does not make a line visible. -/
theorem trimStart_dropReturn_eq_nil_iff :
    trimStart (dropReturn source) = [] ↔ ∀ c ∈ source, isBlank c = true := by
  rw [trimStart_eq_nil_iff]
  constructor
  · intro blank c inside
    rcases dropReturn_cases source with same | ends
    · exact blank c (same.symm ▸ inside)
    · rw [ends, List.mem_append, List.mem_singleton] at inside
      rcases inside with before | rfl
      · exact blank c before
      · decide
  · exact fun blank c inside => blank c (mem_of_mem_dropReturn inside)

theorem trimStart_dropReturn_ne_nil_iff :
    trimStart (dropReturn source) ≠ [] ↔ ∃ c ∈ source, isBlank c = false := by
  rw [Ne, trimStart_dropReturn_eq_nil_iff]
  simp

/-- The margin of a visible line has the indentation of the line itself. -/
theorem indent_marginOf (visible : trimStart (dropReturn source) ≠ []) :
    (marginOf room (dropReturn source)).indent = keptIndent room source := by
  have same : (dropReturn source).takeWhile isBlank = source.takeWhile isBlank := by
    rcases dropReturn_cases source with same | ends
    · rw [same]
    · have stops : (dropReturn source).takeWhile isBlank ≠ dropReturn source := by
        intro all
        apply visible
        rw [trimStart_eq_nil_iff, ← all]
        exact fun c inside => List.mem_takeWhile_imp inside
      conv => rhs; rw [ends]
      rw [List.takeWhile_append, if_neg]
      exact fun long => stops ((List.takeWhile_prefix _).eq_of_length long)
  simp only [marginOf, keptIndent, same]

theorem isBlank_of_mem_keptIndent {c : Char} (inside : c ∈ keptIndent room source) :
    isBlank c = true := by
  unfold keptIndent at inside
  split at inside
  · exact List.mem_takeWhile_imp inside
  · cases inside

/-- The output line of a row of fragments. -/
def lineFor (room : Nat) (source : List Char) (row : List Fragment) : List Char :=
  keptIndent room source ++ Fragment.lineOf row

/-- A visible source line becomes rows of fragments that set its words. -/
theorem exists_sets_wrapLine (room : Nat) (visible : trimStart (dropReturn source) ≠ []) :
    ∃ rows cuts, Sets (keptIndent room source) room (words source) rows cuts ∧
      wrapLine room source = rows.map (lineFor room source) := by
  obtain ⟨greedy, lays, same⟩ := wrapLine_eq_render room visible
  obtain ⟨rows, cuts, sets, texts, _⟩ := lays.exists_sets fun word => ne_nil_of_mem_words
  rw [words_trimStart, words_dropReturn, indent_marginOf visible] at sets
  refine ⟨rows, cuts, sets, same.trans ?_⟩
  have lines : greedy.map (marginOf room (dropReturn source)).render =
      (greedy.map Row.text).map (keptIndent room source ++ ·) := by
    rw [List.map_map, ← indent_marginOf visible]
    rfl
  rw [lines, ← texts, List.map_map]
  rfl

theorem wrapText_eq (positive : 0 < room) (text : List Char) :
    wrapText text room = ['\n'].intercalate ((splitOn '\n' text).flatMap (wrapLine room)) := by
  rw [wrapText, if_neg (Nat.ne_of_gt positive)]

theorem wrapText_of_line (positive : 0 < room) (single : '\n' ∉ source) :
    wrapText source room = ['\n'].intercalate (wrapLine room source) := by
  rw [wrapText_eq positive, splitOn_of_not_mem single, List.flatMap_singleton]

theorem splitOn_wrapText_of_line (positive : 0 < room) (single : '\n' ∉ source) :
    splitOn '\n' (wrapText source room) = wrapLine room source := by
  rw [splitOn_wrapText source positive, splitOn_of_not_mem single, List.flatMap_singleton]

/-- A line break of the text parts what is wrapped. -/
theorem wrapText_append_lineFeed (positive : 0 < room) (text behind : List Char) :
    wrapText (text ++ '\n' :: behind) room =
      wrapText text room ++ '\n' :: wrapText behind room := by
  have nonempty (text : List Char) : (splitOn '\n' text).flatMap (wrapLine room) ≠ [] := by
    rw [← splitOn_wrapText text positive]
    exact splitBy_ne_nil _ _
  rw [wrapText_eq positive, splitOn_append_cons, List.flatMap_append,
    intercalate_append (nonempty text) (nonempty behind), ← wrapText_eq positive,
    ← wrapText_eq positive]

theorem wrapLine_of_blank (blank : trimStart (dropReturn source) = []) :
    wrapLine room source = [[]] := by
  simp [wrapLine, blank]

theorem not_isBlank_of_getLast {line : List Char} (member : line ∈ wrapLine room source) :
    ∀ c ∈ line.getLast?, isBlank c = false := by
  intro c ends
  by_cases blank : trimStart (dropReturn source) = []
  · rw [wrapLine_of_blank blank, List.mem_singleton] at member
    simp [member] at ends
  · obtain ⟨rows, cuts, sets, same⟩ := exists_sets_wrapLine room blank
    rw [same] at member
    obtain ⟨row, found, rfl⟩ := List.mem_map.mp member
    have shown : ∀ fragment ∈ row, fragment.text ≠ [] :=
      fun fragment inside => (sets.fragment_of_mem found inside).1
    obtain ⟨last, inside, closes⟩ := Fragment.exists_getLast_lineOf (sets.filled row found) shown
    obtain ⟨word, source, letters⟩ := (sets.fragment_of_mem found inside).2
    have nonempty : Fragment.lineOf row ≠ [] := by
      intro none
      rw [none] at closes
      exact shown last inside (List.getLast?_eq_none_iff.mp closes.symm)
    rw [lineFor, List.getLast?_append_of_ne_nil _ nonempty, closes] at ends
    exact not_isBlank_of_mem_words source c (letters c (List.mem_of_getLast? ends))

theorem filter_flatten_wrapLine (room : Nat) (source : List Char) :
    (wrapLine room source).flatten.filter (fun c => !isBlank c) =
      source.filter (fun c => !isBlank c) := by
  by_cases blank : trimStart (dropReturn source) = []
  · have hidden := trimStart_dropReturn_eq_nil_iff.mp blank
    rw [wrapLine_of_blank blank, eq_comm]
    simpa using hidden
  · obtain ⟨rows, cuts, sets, same⟩ := exists_sets_wrapLine room blank
    have line (row : List Fragment) : (lineFor room source row).filter (fun c => !isBlank c) =
        (row.map Fragment.text).flatten.filter (fun c => !isBlank c) := by
      have indent : (keptIndent room source).filter (fun c => !isBlank c) = [] := by
        simpa using fun c inside => isBlank_of_mem_keptIndent inside
      rw [lineFor, List.filter_append, indent, Fragment.lineOf, filter_intercalate (by decide)]
      rfl
    calc (wrapLine room source).flatten.filter (fun c => !isBlank c)
      _ = (rows.map fun row => (row.map Fragment.text).flatten).flatten.filter
            (fun c => !isBlank c) := by
        rw [same, List.filter_flatten, List.filter_flatten, List.map_map, List.map_map]
        exact congrArg List.flatten (List.map_congr_left fun row _ => line row)
      _ = (words source).flatten.filter (fun c => !isBlank c) := by
        rw [← sets.flatten_words, List.map_flatten, List.flatten_flatten, List.map_map]
        rfl
      _ = source.filter (fun c => !isBlank c) := by
        rw [flatten_words, List.filter_filter]
        simp

/-- A wrapped text shows the visible characters of the text, in order. -/
theorem filter_wrapText (positive : 0 < room) (text : List Char) :
    (wrapText text room).filter (fun c => !isBlank c) = text.filter (fun c => !isBlank c) := by
  have joined := congrArg (List.filter fun c => !isBlank c) (intercalate_splitOn '\n' text)
  rw [filter_intercalate (by decide)] at joined
  rw [wrapText_eq positive, filter_intercalate (by decide), ← joined, List.flatMap_def,
    List.flatten_flatten, List.filter_flatten, List.filter_flatten, List.map_map, List.map_map]
  exact congrArg List.flatten
    (List.map_congr_left fun source _ => filter_flatten_wrapLine room source)

/-- What wrapping does to a text, and no more. -/
structure KeepsText (text : List Char) (room : Nat) : Prop where
  /-- Every source line is wrapped on its own. -/
  byLine : wrapText text room = ['\n'].intercalate ((splitOn '\n' text).map (wrapText · room))
  atBreak : ∀ behind,
    wrapText (text ++ '\n' :: behind) room = wrapText text room ++ '\n' :: wrapText behind room
  atEnd : wrapText (text ++ ['\n']) room = wrapText text room ++ ['\n']
  blank : ∀ source ∈ splitOn '\n' text, (∀ c ∈ source, isBlank c = true) →
    splitOn '\n' (wrapText source room) = [[]]
  /-- The output lines of any other source line set its words behind the indentation. -/
  sets : ∀ source ∈ splitOn '\n' text, (∃ c ∈ source, isBlank c = false) →
    ∃ rows cuts, rows ≠ [] ∧ Sets (keptIndent room source) room (words source) rows cuts ∧
      splitOn '\n' (wrapText source room) = rows.map (lineFor room source)
  trimmed : ∀ line ∈ splitOn '\n' (wrapText text room), ∀ c ∈ line.getLast?, isBlank c = false
  /-- What is visible stays, in its order. -/
  visible : (wrapText text room).filter (fun c => !isBlank c) = text.filter (fun c => !isBlank c)

theorem keepsText (text : List Char) (positive : 0 < room) : KeepsText text room := by
  refine ⟨?_, wrapText_append_lineFeed positive text, ?_, ?_, ?_, ?_, filter_wrapText positive text⟩
  · rw [wrapText_eq positive, intercalate_flatMap fun source _ => wrapLine_ne_nil room source]
    congr 1
    exact List.map_congr_left fun source found =>
      (wrapText_of_line positive (not_mem_of_mem_splitOn found)).symm
  · rw [wrapText_append_lineFeed positive, wrapText_eq positive []]
    rfl
  · intro source found blank
    rw [splitOn_wrapText_of_line positive (not_mem_of_mem_splitOn found),
      wrapLine_of_blank (trimStart_dropReturn_eq_nil_iff.mpr blank)]
  · intro source found visible
    obtain ⟨rows, cuts, sets, same⟩ :=
      exists_sets_wrapLine room (trimStart_dropReturn_ne_nil_iff.mpr visible)
    refine ⟨rows, cuts, ?_, sets, ?_⟩
    · rintro rfl
      exact wrapLine_ne_nil room source same
    · rw [splitOn_wrapText_of_line positive (not_mem_of_mem_splitOn found), same]
  · intro line member
    rw [splitOn_wrapText text positive] at member
    obtain ⟨source, _, produced⟩ := List.mem_flatMap.mp member
    exact not_isBlank_of_getLast produced

/-- A text whose first line is indented and ends with a carriage return, at a width that cuts a
word of it. -/
theorem keepsText_of_cut_word :
    0 < 4 ∧ KeepsText [' ', 'a', ' ', 'b', 'c', 'd', 'e', '\r', '\n', 'f'] 4 ∧
      wrapText [' ', 'a', ' ', 'b', 'c', 'd', 'e', '\r', '\n', 'f'] 4 =
        [' ', 'a', '\n', ' ', 'b', 'c', 'd', '\n', ' ', 'e', '\n', 'f'] :=
  ⟨by decide, keepsText _ (by decide), by decide +kernel⟩

end ReleaseFeed.Wrap
