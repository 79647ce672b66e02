import Mathlib
import ReleaseFeed.Wrap.Basic

namespace ReleaseFeed.Wrap

open Text

/-- What a line begins with: a whole word, or a piece of a word that is cut. -/
inductive Part where
  | whole (word : List Char)
  | piece (text : List Char)

namespace Part

def text : Part → List Char
  | whole word => word
  | piece text => text

/-- The columns that are counted: a word is measured as a text, a piece character by character. -/
def cost : Part → Nat
  | whole word => width word
  | piece text => (text.map charWidth).sum

end Part

/-- A line behind its indentation. Pieces of words are never put behind other text. -/
structure Row where
  first : Part
  behind : List (List Char)

namespace Row

def ofWord (word : List Char) : Row := ⟨.whole word, []⟩

def ofPiece (piece : List Char) : Row := ⟨.piece piece, []⟩

def add (row : Row) (word : List Char) : Row := { row with behind := row.behind ++ [word] }

def text (row : Row) : List Char := row.first.text ++ row.behind.flatMap (' ' :: ·)

/-- The columns that are counted for a row, with a column for every space. -/
def cost (row : Row) : Nat := row.first.cost + (row.behind.map fun word => 1 + width word).sum

theorem text_add (row : Row) (word : List Char) :
    (row.add word).text = row.text ++ ' ' :: word := by
  simp [text, add]

theorem cost_add (row : Row) (word : List Char) :
    (row.add word).cost = row.cost + 1 + width word := by
  simp only [cost, add, List.map_append, List.map_singleton, List.sum_append, List.sum_singleton]
  omega

end Row

variable {margin : Margin}

namespace Margin

def render (margin : Margin) (row : Row) : List Char := margin.indent ++ row.text

/-- The columns that are counted for a line. -/
def cost (margin : Margin) (row : Row) : Nat := margin.column + row.cost

/-- A word does not fit behind the last row. -/
def Full (margin : Margin) (rows : List Row) (word : List Char) : Prop :=
  ∀ row ∈ rows.getLast?, margin.room < margin.cost row + 1 + width word

/-- Pieces of a word, each of them as long as the room of a line allows. -/
inductive Cuts (margin : Margin) : List Char → List (List Char) → Prop where
  | first (c : Char) : Cuts margin [c] [[c]]
  | extend {word piece : List Char} {pieces : List (List Char)} {c : Char}
      (before : Cuts margin word (pieces ++ [piece]))
      (fits : margin.cost (.ofPiece piece) + charWidth c ≤ margin.room) :
      Cuts margin (word ++ [c]) (pieces ++ [piece ++ [c]])
  | cut {word piece : List Char} {pieces : List (List Char)} {c : Char}
      (before : Cuts margin word (pieces ++ [piece]))
      (full : margin.room < margin.cost (.ofPiece piece) + charWidth c) :
      Cuts margin (word ++ [c]) (pieces ++ [piece] ++ [[c]])

theorem Cuts.ne_nil {word : List Char} {pieces : List (List Char)}
    (cuts : margin.Cuts word pieces) : pieces ≠ [] := by
  cases cuts <;> simp

/-- Rows that take words in order, each of them as many as the room of a line allows. -/
inductive Lays (margin : Margin) : List (List Char) → List Row → Prop where
  | nil : Lays margin [] []
  | join {words : List (List Char)} {rows : List Row} {row : Row} {word : List Char}
      (before : Lays margin words (rows ++ [row]))
      (fits : margin.cost row + 1 + width word ≤ margin.room) :
      Lays margin (words ++ [word]) (rows ++ [row.add word])
  | fresh {words : List (List Char)} {rows : List Row} {word : List Char}
      (before : Lays margin words rows) (full : margin.Full rows word)
      (fits : margin.column + width word ≤ margin.room) :
      Lays margin (words ++ [word]) (rows ++ [.ofWord word])
  | cut {words pieces : List (List Char)} {rows : List Row} {word : List Char}
      (before : Lays margin words rows) (full : margin.Full rows word)
      (wide : margin.room < margin.column + width word) (cuts : margin.Cuts word pieces) :
      Lays margin (words ++ [word]) (rows ++ pieces.map .ofPiece)

/-- The layout that begins a line behind finished rows. -/
def fresh (margin : Margin) (rows : List Row) : Layout :=
  ⟨(rows.map margin.render).reverse, margin.indent, margin.column, false⟩

/-- The layout whose last line is not finished. -/
def filling (margin : Margin) (rows : List Row) (row : Row) : Layout :=
  ⟨(rows.map margin.render).reverse, margin.render row, margin.cost row, true⟩

def layout (margin : Margin) (rows : List Row) : Layout :=
  match rows.getLast? with
  | none => margin.fresh []
  | some row => margin.filling rows.dropLast row

@[simp]
theorem layout_concat (rows : List Row) (row : Row) :
    margin.layout (rows ++ [row]) = margin.filling rows row := by
  simp [layout]

theorem breakLine_filling (rows : List Row) (row : Row) :
    margin.breakLine (margin.filling rows row) = margin.fresh (rows ++ [row]) := by
  simp [breakLine, filling, fresh]

theorem separate_of_full {rows : List Row} {word : List Char} (full : margin.Full rows word) :
    margin.separate (margin.layout rows) word = margin.fresh rows := by
  induction rows using List.reverseRecOn with
  | nil => rfl
  | append_singleton rows row _ =>
    have wide : margin.room < margin.cost row + 1 + width word := full row (by simp)
    rw [layout_concat, ← breakLine_filling]
    exact if_neg (Nat.not_le.mpr wide)

/-- A space separates a word that fits from the text before it. -/
theorem separate_of_room {row : Row} {word : List Char}
    (fits : margin.cost row + 1 + width word ≤ margin.room) (rows : List Row) :
    margin.separate (margin.filling rows row) word =
      ⟨(rows.map margin.render).reverse, margin.render row ++ [' '], margin.cost row + 1, true⟩ :=
  if_pos fits

theorem putChar_fresh (rows : List Row) (c : Char) :
    margin.putChar (margin.fresh rows) c = margin.filling rows (.ofPiece [c]) := by
  simp [putChar, fresh, filling, render, cost, Row.ofPiece, Row.text, Row.cost, Part.text,
    Part.cost]

/-- A character of a cut word stands behind the piece before it if it fits. -/
theorem putChar_of_room {piece : List Char} {c : Char}
    (fits : margin.cost (.ofPiece piece) + charWidth c ≤ margin.room) (rows : List Row) :
    margin.putChar (margin.filling rows (.ofPiece piece)) c =
      margin.filling rows (.ofPiece (piece ++ [c])) := by
  have stays : ((margin.filling rows (.ofPiece piece)).hasText && decide (margin.room <
      (margin.filling rows (.ofPiece piece)).column + charWidth c)) = false := by
    simp only [filling, Bool.true_and]
    exact decide_eq_false (Nat.not_lt.mpr fits)
  simp only [putChar, stays, Bool.false_eq_true, if_false]
  simp [filling, render, cost, Row.ofPiece, Row.text, Row.cost, Part.text, Part.cost,
    Nat.add_assoc]

theorem putChar_of_full {piece : List Char} {c : Char}
    (full : margin.room < margin.cost (.ofPiece piece) + charWidth c) (rows : List Row) :
    margin.putChar (margin.filling rows (.ofPiece piece)) c =
      margin.filling (rows ++ [.ofPiece piece]) (.ofPiece [c]) := by
  rw [← putChar_fresh, ← breakLine_filling]
  have leaves : ((margin.filling rows (.ofPiece piece)).hasText && decide (margin.room <
      (margin.filling rows (.ofPiece piece)).column + charWidth c)) = true := by
    simp only [filling, Bool.true_and]
    exact decide_eq_true full
  simp only [putChar, leaves, if_true]
  rfl

/-- The loop over the characters cuts a word. -/
theorem exists_cuts (rows : List Row) {word : List Char} (nonempty : word ≠ []) :
    ∃ pieces, margin.Cuts word pieces ∧
      word.foldl margin.putChar (margin.fresh rows) =
        margin.layout (rows ++ pieces.map .ofPiece) := by
  induction word using List.reverseRecOn with
  | nil => exact absurd rfl nonempty
  | append_singleton word c ih =>
    rw [List.foldl_append, List.foldl_cons, List.foldl_nil]
    by_cases first : word = []
    · subst first
      exact ⟨[[c]], .first c, by simp [putChar_fresh]⟩
    · obtain ⟨pieces, cuts, same⟩ := ih first
      obtain ⟨before, piece, rfl⟩ := pieces.eq_nil_or_concat.resolve_left cuts.ne_nil
      simp only [List.concat_eq_append] at cuts same
      rw [same, List.map_append, List.map_singleton, ← List.append_assoc, layout_concat]
      by_cases fits : margin.cost (.ofPiece piece) + charWidth c ≤ margin.room
      · exact ⟨before ++ [piece ++ [c]], .extend cuts fits, by
          rw [putChar_of_room fits, List.map_append, List.map_singleton, ← List.append_assoc,
            layout_concat]⟩
      · have full := Nat.lt_of_not_le fits
        exact ⟨before ++ [piece] ++ [[c]], .cut cuts full, by
          rw [putChar_of_full full, List.map_append, List.map_append, List.map_singleton,
            List.map_singleton, ← List.append_assoc, ← List.append_assoc, layout_concat]⟩

theorem exists_lays_putWord {words : List (List Char)} {rows : List Row} {word : List Char}
    (before : margin.Lays words rows) (nonempty : word ≠ []) :
    ∃ more, margin.Lays (words ++ [word]) more ∧
      margin.putWord (margin.layout rows) word = margin.layout more := by
  by_cases full : margin.Full rows word
  · unfold putWord
    rw [separate_of_full full]
    by_cases fits : margin.column + width word ≤ margin.room
    · refine ⟨_, .fresh before full fits, (if_pos fits).trans ?_⟩
      simp [fresh, filling, render, cost, Row.ofWord, Row.text, Row.cost, Part.text, Part.cost]
    · obtain ⟨pieces, cuts, same⟩ : ∃ pieces, margin.Cuts word pieces ∧ _ :=
        exists_cuts rows nonempty
      refine ⟨_, .cut before full (Nat.lt_of_not_le fits) cuts, ?_⟩
      rw [← same]
      exact if_neg fits
  · simp only [Full, not_forall, Nat.not_lt] at full
    obtain ⟨row, last, fits⟩ := full
    obtain ⟨others, rfl⟩ := List.getLast?_eq_some_iff.mp last
    refine ⟨_, .join before fits, ?_⟩
    rw [layout_concat, layout_concat]
    unfold putWord
    rw [separate_of_room fits]
    refine (if_pos fits).trans ?_
    simp [filling, render, cost, Row.text_add, Row.cost_add, Nat.add_assoc]

/-- All words of a line are laid out. -/
theorem exists_lays (words : List (List Char)) (nonempty : ∀ word ∈ words, word ≠ []) :
    ∃ rows, margin.Lays words rows ∧
      words.foldl margin.putWord margin.start = margin.layout rows := by
  induction words using List.reverseRecOn with
  | nil => exact ⟨[], .nil, rfl⟩
  | append_singleton words word ih =>
    obtain ⟨rows, before, same⟩ := ih fun other member => nonempty other (by simp [member])
    obtain ⟨more, lays, next⟩ := exists_lays_putWord before (nonempty word (by simp))
    refine ⟨more, lays, ?_⟩
    rw [List.foldl_append, same, ← next]
    rfl

theorem Lays.ne_nil {words : List (List Char)} {rows : List Row} (lays : margin.Lays words rows)
    (nonempty : words ≠ []) : rows ≠ [] := by
  cases lays with
  | nil => exact absurd rfl nonempty
  | join before fits => simp
  | fresh before full fits => simp
  | cut before full wide cuts => simp [cuts.ne_nil]

theorem lines_layout {rows : List Row} (nonempty : rows ≠ []) :
    (margin.layout rows).lines = rows.map margin.render := by
  obtain ⟨before, row, rfl⟩ := rows.eq_nil_or_concat.resolve_left nonempty
  simp [filling, Layout.lines]

theorem Cuts.flatten {word : List Char} {pieces : List (List Char)}
    (cuts : margin.Cuts word pieces) : pieces.flatten = word := by
  induction cuts with
  | first c => rfl
  | extend before fits ih => simp [← ih]
  | cut before full ih => simp [← ih]

/-- The rows hold nothing but characters of the words and the spaces between them. -/
theorem Lays.mem_text {words : List (List Char)} {rows : List Row} (lays : margin.Lays words rows)
    {row : Row} (member : row ∈ rows) {c : Char} (inside : c ∈ row.text) :
    c = ' ' ∨ ∃ word ∈ words, c ∈ word := by
  have weaken {words : List (List Char)} {word : List Char}
      (known : c = ' ' ∨ ∃ other ∈ words, c ∈ other) :
      c = ' ' ∨ ∃ other ∈ words ++ [word], c ∈ other :=
    known.imp_right fun ⟨other, found, deeper⟩ => ⟨other, by simp [found], deeper⟩
  induction lays generalizing row with
  | nil => cases member
  | @join words rows last word before fits ih =>
    rcases List.mem_append.mp member with earlier | new
    · exact weaken (ih (by simp [earlier]) inside)
    · obtain rfl := List.mem_singleton.mp new
      rw [Row.text_add, List.mem_append, List.mem_cons] at inside
      rcases inside with older | space | newer
      · exact weaken (ih (by simp) older)
      · exact .inl space
      · exact .inr ⟨word, by simp, newer⟩
  | @fresh words rows word before full fits ih =>
    rcases List.mem_append.mp member with earlier | new
    · exact weaken (ih earlier inside)
    · obtain rfl := List.mem_singleton.mp new
      exact .inr ⟨word, by simp, by simpa [Row.ofWord, Row.text, Part.text] using inside⟩
  | @cut words pieces rows word before full wide cuts ih =>
    rcases List.mem_append.mp member with earlier | new
    · exact weaken (ih earlier inside)
    · obtain ⟨piece, found, rfl⟩ := List.mem_map.mp new
      have deeper : c ∈ piece := by simpa [Row.ofPiece, Row.text, Part.text] using inside
      exact .inr ⟨word, by simp, cuts.flatten ▸ List.mem_flatten.mpr ⟨piece, found, deeper⟩⟩

end Margin

/-- A source line that is not blank is laid out in rows. -/
theorem wrapLine_eq_render (room : Nat) {source : List Char}
    (notBlank : trimStart (dropReturn source) ≠ []) :
    ∃ rows, (marginOf room (dropReturn source)).Lays (words (trimStart (dropReturn source))) rows ∧
      wrapLine room source = rows.map (marginOf room (dropReturn source)).render := by
  obtain ⟨rows, lays, same⟩ : ∃ rows, (marginOf room (dropReturn source)).Lays _ rows ∧ _ :=
    Margin.exists_lays (words (trimStart (dropReturn source))) fun word => ne_nil_of_mem_words
  have nonempty := lays.ne_nil (words_trimStart_ne_nil notBlank)
  refine ⟨rows, lays, ?_⟩
  rw [← Margin.lines_layout nonempty, ← same]
  simp [wrapLine, notBlank]

end ReleaseFeed.Wrap
