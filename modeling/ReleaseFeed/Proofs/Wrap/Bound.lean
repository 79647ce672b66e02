import ReleaseFeed.Proofs.Text.Measure
import ReleaseFeed.Proofs.Wrap.Lines
/-!
The width of wrapped lines. Main statement: what is counted for a line never exceeds the room, but
for a single character that no line holds, so that a line is too wide exactly when it begins with a
piece of a word that is wider as a text than its characters one by one.
-/
namespace ReleaseFeed.Wrap

open Text

variable {margin : Margin} {room : Nat}

namespace Margin

/-- Whether a line keeps to the room, or holds one character only that does not fit behind the
indentation. -/
def Admits (margin : Margin) (line : List Char) : Prop :=
  width line ≤ margin.room ∨
    ∃ c, line = margin.indent ++ [c] ∧ margin.room < margin.column + width [c]

/-- Whether what is measured for the first part of a row exceeds what is counted for it by no more
than the row leaves free. -/
def Absorbs (margin : Margin) (row : Row) : Prop :=
  width row.first.text ≤ row.first.cost + (margin.room - margin.cost row)

/-- What is counted for a row keeps to the room, but for a single character. -/
def Counted (margin : Margin) (row : Row) : Prop :=
  margin.cost row ≤ margin.room ∨
    ∃ c, row = .ofPiece [c] ∧ margin.room < margin.column + charWidth c

theorem cost_ofPiece_singleton (c : Char) :
    margin.cost (.ofPiece [c]) = margin.column + charWidth c := by
  simp [cost, Row.ofPiece, Row.cost, Part.cost]

theorem counted_singleton (c : Char) : margin.Counted (.ofPiece [c]) := by
  by_cases fits : margin.column + charWidth c ≤ margin.room
  · exact .inl (by rwa [cost_ofPiece_singleton])
  · exact .inr ⟨c, rfl, Nat.lt_of_not_le fits⟩

theorem Cuts.counted {word : List Char} {pieces : List (List Char)}
    (cuts : margin.Cuts word pieces) : ∀ piece ∈ pieces, margin.Counted (.ofPiece piece) := by
  induction cuts with
  | first c => simpa using counted_singleton c
  | @extend word piece pieces c before fits ih =>
    intro other member
    rcases List.mem_append.mp member with earlier | new
    · exact ih other (by simp [earlier])
    · obtain rfl := List.mem_singleton.mp new
      refine .inl (Nat.le_trans (Nat.le_of_eq ?_) fits)
      simp [cost, Row.ofPiece, Row.cost, Part.cost, Nat.add_assoc]
  | @cut word piece pieces c before full ih =>
    intro other member
    rcases List.mem_append.mp member with earlier | new
    · exact ih other earlier
    · obtain rfl := List.mem_singleton.mp new
      exact counted_singleton c

/-- No row is counted wider than the room, but for a single character. -/
theorem Lays.counted {words : List (List Char)} {rows : List Row} (lays : margin.Lays words rows) :
    ∀ row ∈ rows, margin.Counted row := by
  induction lays with
  | nil => simp
  | @join words rows last word before fits ih =>
    intro row member
    rcases List.mem_append.mp member with earlier | new
    · exact ih row (by simp [earlier])
    · obtain rfl := List.mem_singleton.mp new
      refine .inl (Nat.le_trans (Nat.le_of_eq ?_) fits)
      simp only [cost, Row.cost_add]
      omega
  | @fresh words rows word before full fits ih =>
    intro row member
    rcases List.mem_append.mp member with earlier | new
    · exact ih row earlier
    · obtain rfl := List.mem_singleton.mp new
      exact .inl (by simpa [cost, Row.ofWord, Row.cost, Part.cost] using fits)
  | @cut words pieces rows word before full wide cuts ih =>
    intro row member
    rcases List.mem_append.mp member with earlier | new
    · exact ih row earlier
    · obtain ⟨piece, found, rfl⟩ := List.mem_map.mp new
      exact cuts.counted piece found

end Margin

/-- A row is as wide as its first part and the words behind it, each with a space. -/
theorem Row.width_text (row : Row) :
    width row.text = width row.first.text + (row.behind.map fun word => 1 + width word).sum := by
  obtain ⟨first, behind⟩ := row
  induction behind using List.reverseRecOn with
  | nil => simp [Row.text]
  | append_singleton behind word ih =>
    have longer : Row.mk first (behind ++ [word]) = (Row.mk first behind).add word := rfl
    rw [longer, Row.text_add, width_append_space, ih]
    simp [Row.add]
    omega

/-- A row of a single character is not wider than it is counted, but for a control. -/
theorem Row.width_of_singleton {row : Row} {c : Char} (single : row.text = [c]) :
    width [c] ≤ row.cost ∨ width [c] = 1 := by
  have whole := row.width_text
  rw [single] at whole
  obtain ⟨first, behind⟩ := row
  cases first with
  | whole word => exact .inl (Nat.le_of_eq whole)
  | piece text =>
    cases text with
    | nil => exact .inl (Nat.le_of_eq whole)
    | cons head tail =>
      simp only [Row.text, Part.text, List.cons_append, List.cons.injEq,
        List.append_eq_nil_iff] at single
      obtain ⟨rfl, rfl, _⟩ := single
      rw [width_singleton]
      rcases charWidth_cases head with same | ⟨_, _, one⟩
      · exact .inl (by simp [Row.cost, Part.cost, same])
      · exact .inr one

/-- A line is admitted exactly when its row absorbs what its first part is wider than counted. -/
theorem Margin.admits_iff_absorbs {row : Row} (counted : margin.Counted row)
    (indented : margin.column < margin.room)
    (split : width (margin.render row) = margin.column + width row.text) :
    margin.Admits (margin.render row) ↔ margin.Absorbs row := by
  rcases counted with fits | ⟨c, rfl, wide⟩
  · have measured := row.width_text
    have within : margin.Absorbs row ↔ width (margin.render row) ≤ margin.room := by
      simp only [Absorbs, cost, Row.cost] at fits ⊢
      omega
    rw [within]
    refine or_iff_left ?_
    rintro ⟨c, same, beyond⟩
    have single : row.text = [c] := List.append_cancel_left same
    have narrow := Row.width_of_singleton single
    simp only [cost] at fits
    omega
  · have shown : charWidth c = width [c] := by
      rw [width_singleton]
      rcases charWidth_cases c with same | ⟨_, none, _⟩
      · exact same
      · omega
    refine iff_of_true (.inr ⟨c, rfl, shown ▸ wide⟩) ?_
    have counted : (Row.ofPiece [c]).first.cost = charWidth c := by
      simp [Row.ofPiece, Part.cost]
    have alone : width (Row.ofPiece [c]).first.text = charWidth c := shown.symm
    simp only [Absorbs, counted, alone]
    omega

section Bound

variable {source : List Char} {rows : List Row} {row : Row}

/-- The end of the indentation cuts the width of an output line in two. -/
theorem width_render (single : '\n' ∉ source)
    (lays : (marginOf room (dropReturn source)).Lays (words (trimStart (dropReturn source))) rows)
    (member : row ∈ rows) :
    width ((marginOf room (dropReturn source)).render row) =
      (marginOf room (dropReturn source)).column + width row.text := by
  apply width_append_of_blank
  · intro c inside
    exact (mem_indent inside).1
  · intro feed
    exact single (mem_indent feed).2
  · intro feed
    rcases mem_row lays member (List.mem_of_head? feed) with space | ⟨_, shown⟩
    · cases space
    · exact single shown

/-- A row without controls and selectors absorbs what its first part is wider than counted. -/
theorem absorbs_of_steady
    (lays : (marginOf room (dropReturn source)).Lays (words (trimStart (dropReturn source))) rows)
    (member : row ∈ rows)
    (steady : ∀ c ∈ source, isBlank c = false → stretches c = false) :
    (marginOf room (dropReturn source)).Absorbs row := by
  have none : row.first.text.countP stretches = 0 := by
    rw [List.countP_eq_zero]
    intro c inside
    rcases mem_row lays member (List.mem_append_left _ inside) with rfl | ⟨visible, shown⟩
    · decide
    · simp [steady c shown visible]
  have bound : width row.first.text ≤ row.first.cost := by
    cases first : row.first with
    | whole word => exact Nat.le_refl _
    | piece text =>
      have wide := width_le text
      simp only [first, Part.text] at none
      simp only [Part.text, Part.cost]
      omega
  exact Nat.le_trans bound (Nat.le_add_right _ _)

end Bound

/-- What is known of the lines of a wrapped text. -/
structure WidthBound (text : List Char) (room : Nat) : Prop where
  lines : splitOn '\n' (wrapText text room) = (splitOn '\n' text).flatMap (wrapLine room)
  /-- A line is admitted exactly when what its first part is wider than counted fits into the
  columns that are left free. -/
  exact : ∀ source ∈ splitOn '\n' text,
    (trimStart (dropReturn source) = [] ∧ wrapLine room source = [[]]) ∨
      ∃ rows,
        (marginOf room (dropReturn source)).Lays (words (trimStart (dropReturn source))) rows ∧
          wrapLine room source = rows.map (marginOf room (dropReturn source)).render ∧
            ∀ row ∈ rows,
              (marginOf room (dropReturn source)).Admits
                  ((marginOf room (dropReturn source)).render row) ↔
                (marginOf room (dropReturn source)).Absorbs row
  /-- All lines are admitted of a source line whose words are free of controls and of the selectors
  of emoji and wide quotation marks. -/
  steady : ∀ source ∈ splitOn '\n' text,
    (∀ c ∈ source, isBlank c = false → stretches c = false) →
      ∀ line ∈ wrapLine room source, (marginOf room (dropReturn source)).Admits line

/-- The width of the lines of a wrapped text is bounded where its words are counted as wide as they
are. -/
theorem widthBound (text : List Char) (positive : 0 < room) : WidthBound text room := by
  have admits {source : List Char} {rows : List Row} {row : Row}
      (found : source ∈ splitOn '\n' text)
      (lays : (marginOf room (dropReturn source)).Lays (words (trimStart (dropReturn source))) rows)
      (member : row ∈ rows) :
      (marginOf room (dropReturn source)).Admits
          ((marginOf room (dropReturn source)).render row) ↔
        (marginOf room (dropReturn source)).Absorbs row :=
    Margin.admits_iff_absorbs (lays.counted row member) (column_lt_room positive _)
      (width_render (not_mem_of_mem_splitOn found) lays member)
  refine ⟨splitOn_wrapText text positive, ?_, ?_⟩
  · intro source found
    by_cases notBlank : trimStart (dropReturn source) = []
    · exact .inl ⟨notBlank, by simp [wrapLine, notBlank]⟩
    · obtain ⟨rows, lays, same⟩ := wrapLine_eq_render room notBlank
      exact .inr ⟨rows, lays, same, fun row => admits found lays⟩
  · intro source found steady line member
    by_cases notBlank : trimStart (dropReturn source) = []
    · simp only [wrapLine, notBlank, List.isEmpty_nil, if_true, List.mem_singleton] at member
      exact .inl (by simp [member, width, measureAll])
    · obtain ⟨rows, lays, same⟩ := wrapLine_eq_render room notBlank
      rw [same] at member
      obtain ⟨row, inside, rfl⟩ := List.mem_map.mp member
      exact (admits found lays inside).mpr (absorbs_of_steady lays inside steady)

/-- Three hearts of two columns each, counted with one column each, stay on a line of four. -/
theorem not_admits_hearts :
    ¬ ∀ line ∈ splitOn '\n'
        (wrapText ['\u2764', '\uFE0F', '\u2764', '\uFE0F', '\u2764', '\uFE0F'] 4),
      (marginOf 4 ['\u2764', '\uFE0F', '\u2764', '\uFE0F', '\u2764', '\uFE0F']).Admits line := by
  have lines : splitOn '\n'
      (wrapText ['\u2764', '\uFE0F', '\u2764', '\uFE0F', '\u2764', '\uFE0F'] 4) =
        [['\u2764', '\uFE0F', '\u2764', '\uFE0F', '\u2764', '\uFE0F']] := by decide +kernel
  have wide : width ['\u2764', '\uFE0F', '\u2764', '\uFE0F', '\u2764', '\uFE0F'] = 6 := by
    decide +kernel
  have indent : (marginOf 4 ['\u2764', '\uFE0F', '\u2764', '\uFE0F', '\u2764', '\uFE0F']).indent =
      [] := by decide +kernel
  intro admitted
  rcases admitted _ (lines ▸ List.mem_singleton_self _) with fits | ⟨c, single, _⟩
  · rw [wide] at fits
    exact absurd fits (by decide)
  · rw [indent] at single
    cases single

/-- The words of a plain text at a width that cuts one of them. -/
theorem widthBound_of_cut_word :
    0 < 4 ∧ WidthBound ['a', 'b', ' ', 'a', 'b', 'c', 'd', 'e', 'f'] 4 :=
  ⟨by decide, widthBound _ (by decide)⟩

end ReleaseFeed.Wrap
