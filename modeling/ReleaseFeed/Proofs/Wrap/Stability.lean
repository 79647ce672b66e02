import ReleaseFeed.Proofs.Text.Trim
import ReleaseFeed.Proofs.Wrap.Greedy
/-!
Wrapping a wrapped text again. Main statement: a wrapped text stays as it is if every part of its
words is as wide as its characters one by one.
-/
namespace ReleaseFeed.Wrap

open Text

/-- Whether every part of a word is as wide as its characters one by one. -/
def AddsUp (word : List Char) : Prop :=
  ∀ piece, piece <:+: word → width piece = (piece.map charWidth).sum

/-- The parts of a word are the beginnings of its ends. -/
theorem addsUp_iff {word : List Char} : AddsUp word ↔
    ∀ rest ∈ word.tails, ∀ piece ∈ rest.inits, width piece = (piece.map charWidth).sum := by
  simp only [AddsUp, List.infix_iff_prefix_suffix, List.mem_tails, List.mem_inits]
  grind

instance (word : List Char) : Decidable (AddsUp word) := decidable_of_iff _ addsUp_iff.symm

/-- The words that a row would have as a source line: a piece of a word counts as one. -/
def Row.texts (row : Row) : List (List Char) := row.first.text :: row.behind

variable {margin : Margin} {room : Nat} {source : List Char} {rows : List Row} {row : Row}

theorem Margin.Lays.infix_of_mem {words : List (List Char)} (lays : margin.Lays words rows)
    (shown : ∀ word ∈ words, word ≠ []) (member : row ∈ rows) :
    ∀ part ∈ row.texts, part ≠ [] ∧ ∃ word ∈ words, part <:+: word := by
  have weaken {part last : List Char} {words : List (List Char)}
      (known : part ≠ [] ∧ ∃ word ∈ words, part <:+: word) :
      part ≠ [] ∧ ∃ word ∈ words ++ [last], part <:+: word :=
    ⟨known.1, known.2.imp fun word found => ⟨List.mem_append_left _ found.1, found.2⟩⟩
  induction lays generalizing row with
  | nil => cases member
  | @join words rows last word before fits ih =>
    rw [List.forall_mem_append, List.forall_mem_singleton] at shown
    rcases List.mem_append.mp member with earlier | new
    · exact fun part inside => weaken (ih shown.1 (by simp [earlier]) part inside)
    · obtain rfl := List.mem_singleton.mp new
      intro part inside
      rcases List.mem_append.mp (show part ∈ last.texts ++ [word] from inside) with old | added
      · exact weaken (ih shown.1 (by simp) part old)
      · obtain rfl := List.mem_singleton.mp added
        exact ⟨shown.2, part, by simp, List.infix_refl part⟩
  | @fresh words rows word before full fits ih =>
    rw [List.forall_mem_append, List.forall_mem_singleton] at shown
    rcases List.mem_append.mp member with earlier | new
    · exact fun part inside => weaken (ih shown.1 earlier part inside)
    · obtain rfl := List.mem_singleton.mp new
      intro part inside
      obtain rfl : part = word := List.mem_singleton.mp inside
      exact ⟨shown.2, part, by simp, List.infix_refl part⟩
  | @cut words pieces rows word before full wide cuts ih =>
    rw [List.forall_mem_append, List.forall_mem_singleton] at shown
    rcases List.mem_append.mp member with earlier | new
    · exact fun part inside => weaken (ih shown.1 earlier part inside)
    · obtain ⟨piece, found, rfl⟩ := List.mem_map.mp new
      intro part inside
      obtain rfl : part = piece := List.mem_singleton.mp inside
      refine ⟨cuts.shown part found, word, by simp, ?_⟩
      exact cuts.flatten ▸ List.infix_of_mem_flatten found

/-- Texts that can stand as words: not empty, and without a blank. -/
def Row.Shown (row : Row) : Prop := ∀ part ∈ row.texts, part ≠ [] ∧ ∀ c ∈ part, isBlank c = false

theorem Margin.Lays.shown (lays : margin.Lays (words source) rows) (member : row ∈ rows) :
    row.Shown := by
  intro part inside
  obtain ⟨filled, word, listed, within⟩ :=
    lays.infix_of_mem (fun word => ne_nil_of_mem_words) member part inside
  exact ⟨filled, fun c letter => not_isBlank_of_mem_words listed c (within.subset letter)⟩

theorem Row.Shown.starts (shown : row.Shown) : ∀ c ∈ row.text.head?, isBlank c = false := by
  have first := shown row.first.text List.mem_cons_self
  rw [Row.text_eq_intercalate, head?_intercalate_cons first.1]
  exact fun c begins => first.2 c (List.mem_of_head? begins)

/-- The texts of a row are the words of its output line. -/
theorem words_line (shown : row.Shown) :
    words (keptIndent room source ++ row.text) = row.texts := by
  have one : ∀ part ∈ row.texts, words part = [part] := fun part inside =>
    words_of_not_blank (shown part inside).1 (shown part inside).2
  rw [words_append_of_blank (fun c => isBlank_of_mem_keptIndent), Row.text_eq_intercalate,
    ← Row.texts, words_intercalate (by decide), List.flatMap_congr one]
  simp

/-- An output line keeps the indentation of its source line. -/
theorem keptIndent_line (positive : 0 < room) (shown : row.Shown) :
    keptIndent room (keptIndent room source ++ row.text) = keptIndent room source := by
  have leaves : width (keptIndent room source) < room := by
    unfold keptIndent
    split
    · assumption
    · exact positive
  have taken : (keptIndent room source ++ row.text).takeWhile isBlank = keptIndent room source :=
    takeWhile_append_of_stops (fun c => isBlank_of_mem_keptIndent) shown.starts
  rw [keptIndent, taken, if_pos leaves]

theorem oneLine_line (positive : 0 < room) (shown : row.Shown) :
    oneLine room (keptIndent room source ++ row.text) = keptIndent room source ++ row.text := by
  rw [oneLine, keptIndent_line positive shown, words_line shown, Row.texts,
    ← Row.text_eq_intercalate]

theorem visible_line (shown : row.Shown) :
    trimStart (dropReturn (keptIndent room source ++ row.text)) ≠ [] := by
  obtain ⟨c, rest, begins⟩ := List.exists_cons_of_ne_nil (shown row.first.text List.mem_cons_self).1
  have letter : c ∈ row.first.text := by simp [begins]
  refine trimStart_dropReturn_ne_nil_iff.mpr ⟨c, ?_, (shown _ List.mem_cons_self).2 c letter⟩
  exact List.mem_append_right _ (List.mem_append_left _ letter)

/-- A single character stands behind the indentation, whether it fits or not. -/
theorem Margin.lines_putWord_singleton (margin : Margin) (c : Char) :
    (margin.putWord margin.start [c]).lines = [margin.indent ++ [c]] := by
  by_cases fits : margin.column + width [c] ≤ margin.room
  · exact (congrArg Layout.lines (if_pos fits)).trans rfl
  · exact (congrArg Layout.lines (if_neg fits)).trans rfl

theorem wrapLine_of_singleton (visible : trimStart (dropReturn source) ≠ []) {c : Char}
    (single : words source = [[c]]) : wrapLine room source = [oneLine room source] := by
  have alone : words (trimStart (dropReturn source)) = [[c]] := by
    rw [words_trimStart, words_dropReturn, single]
  rw [wrapLine, List.isEmpty_eq_false_iff.mpr visible, alone, oneLine, single,
    List.intercalate_singleton, ← indent_marginOf visible]
  exact Margin.lines_putWord_singleton _ c

/-- A row is counted as wide as its text if what it begins with adds up. -/
theorem Row.width_text_eq_cost (adds : width row.first.text = (row.first.text.map charWidth).sum) :
    width row.text = row.cost := by
  rw [Row.width_text, Row.cost]
  cases first : row.first with
  | whole word => rfl
  | piece text =>
    rw [first] at adds
    rw [adds]
    rfl

/-- An output line with words that add up is wrapped to itself. -/
theorem wrapLine_line (positive : 0 < room) (single : '\n' ∉ source)
    (addsUp : ∀ word ∈ words source, AddsUp word) {line : List Char}
    (member : line ∈ wrapLine room source) : wrapLine room line = [line] := by
  have whole : '\n' ∉ line := lineFeed_not_mem single member
  by_cases visible : trimStart (dropReturn source) = []
  · rw [wrapLine_of_blank visible, List.mem_singleton] at member
    subst member
    rfl
  · obtain ⟨rows, lays, same⟩ := exists_lays_wrapLine room visible
    rw [same] at member
    obtain ⟨row, found, rfl⟩ := List.mem_map.mp member
    have shown := lays.shown found
    have line : oneLine room (keptIndent room source ++ row.text) =
        keptIndent room source ++ row.text := oneLine_line positive shown
    rcases lays.counted row found with fits | ⟨c, rfl, _⟩
    · obtain ⟨_, word, listed, within⟩ :=
        lays.infix_of_mem (fun word => ne_nil_of_mem_words) found row.first.text List.mem_cons_self
      have wide := Row.width_text_eq_cost (addsUp word listed row.first.text within)
      rw [wrapLine_of_fits (visible_line shown) whole, line]
      rw [width_oneLine whole, keptIndent_line positive shown, words_line shown, Row.texts,
        ← Row.text_eq_intercalate, wide]
      exact fits
    · rw [wrapLine_of_singleton (visible_line shown) (words_line shown), line]

/-- Wrapping does not change what was wrapped already, if the words of the text add up. -/
theorem wrapText_wrapText (text : List Char) (room : Nat)
    (addsUp : ∀ word ∈ words text, AddsUp word) :
    wrapText (wrapText text room) room = wrapText text room := by
  by_cases none : room = 0
  · simp [wrapText, none]
  · have positive := Nat.pos_of_ne_zero none
    have lines : words text = (splitOn '\n' text).flatMap words := by
      have feed : isBlank '\n' = true := by decide
      rw [← words_intercalate feed, intercalate_splitOn]
    have stable : ∀ line ∈ (splitOn '\n' text).flatMap (wrapLine room),
        wrapLine room line = [line] := by
      intro line member
      obtain ⟨source, found, produced⟩ := List.mem_flatMap.mp member
      refine wrapLine_line positive (not_mem_of_mem_splitOn found) (fun word listed => ?_) produced
      exact addsUp word (lines ▸ List.mem_flatMap.mpr ⟨source, found, listed⟩)
    rw [wrapText_eq positive (wrapText text room), splitOn_wrapText text positive,
      List.flatMap_congr stable, wrapText_eq positive]
    simp

/-- A wide character, a mark without a column, and a word that is cut behind its indentation. -/
theorem wrapText_wrapText_of_cut_word :
    (∀ word ∈ words [' ', '漢', 'e', '\u0301', 'a', 'b', '\t', 'c', '\r', '\n', 'd', ' '],
        AddsUp word) ∧
      wrapText
          (wrapText [' ', '漢', 'e', '\u0301', 'a', 'b', '\t', 'c', '\r', '\n', 'd', ' '] 4) 4 =
        wrapText [' ', '漢', 'e', '\u0301', 'a', 'b', '\t', 'c', '\r', '\n', 'd', ' '] 4 ∧
      wrapText [' ', '漢', 'e', '\u0301', 'a', 'b', '\t', 'c', '\r', '\n', 'd', ' '] 4 =
        [' ', '漢', 'e', '\u0301', '\n', ' ', 'a', 'b', '\n', ' ', 'c', '\n', 'd'] := by
  have addsUp : ∀ word ∈ words
      [' ', '漢', 'e', '\u0301', 'a', 'b', '\t', 'c', '\r', '\n', 'd', ' '], AddsUp word := by
    decide +kernel
  exact ⟨addsUp, wrapText_wrapText _ 4 addsUp, by decide +kernel⟩

end ReleaseFeed.Wrap
