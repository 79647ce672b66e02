import ReleaseFeed.Proofs.Text.Words
import ReleaseFeed.Proofs.Wrap.Rows

namespace ReleaseFeed.Wrap

open Text

/-- A word, or a part of one that is cut. -/
structure Fragment where
  text : List Char
  /-- Whether its word ends with it. -/
  closes : Bool

/-- The fragments of a word that is cut into pieces. -/
def fragments : List (List Char) → List Fragment
  | [] => []
  | [piece] => [⟨piece, true⟩]
  | piece :: next :: rest => ⟨piece, false⟩ :: fragments (next :: rest)

def Fragment.lineOf (row : List Fragment) : List Char :=
  [' '].intercalate (row.map Fragment.text)

/-- Rows that set words behind an indentation; `cuts` holds the pieces of each word. -/
structure Sets (indent : List Char) (room : Nat) (words : List (List Char))
    (rows : List (List Fragment)) (cuts : List (List (List Char))) : Prop where
  /-- The pieces of each word make up the word. -/
  words : cuts.map List.flatten = words
  shown : ∀ pieces ∈ cuts, ∀ piece ∈ pieces, piece ≠ []
  /-- A word that fits behind the indentation is whole. -/
  forced : ∀ pieces ∈ cuts, 1 < pieces.length → room < width indent + width pieces.flatten
  /-- The rows hold the fragments of the words in order. -/
  inOrder : rows.flatten = cuts.flatMap fragments
  filled : ∀ row ∈ rows, row ≠ []
  /-- A part of a word that does not end it ends its line. -/
  ending : ∀ row ∈ rows, ∀ fragment ∈ row.dropLast, fragment.closes = true

theorem map_text_fragments (pieces : List (List Char)) :
    (fragments pieces).map Fragment.text = pieces := by
  fun_induction fragments pieces with
  | case1 => rfl
  | case2 piece => rfl
  | case3 piece next rest ih => rw [List.map_cons, ih]

theorem fragments_ne_nil {pieces : List (List Char)} (some : pieces ≠ []) :
    fragments pieces ≠ [] := by
  intro none
  rw [← map_text_fragments pieces, none] at some
  exact some rfl

theorem closes_getLast_fragments (pieces : List (List Char)) :
    ∀ fragment ∈ (fragments pieces).getLast?, fragment.closes = true := by
  fun_induction fragments pieces with
  | case1 => simp
  | case2 piece => simp
  | case3 piece next rest ih =>
    obtain ⟨first, others, shape⟩ :=
      List.exists_cons_of_ne_nil (fragments_ne_nil (List.cons_ne_nil next rest))
    rw [shape] at ih ⊢
    rwa [List.getLast?_cons_cons]

namespace Fragment

theorem lineOf_singleton (fragment : Fragment) : lineOf [fragment] = fragment.text := by
  simp [lineOf]

theorem lineOf_concat {row : List Fragment} (filled : row ≠ []) (fragment : Fragment) :
    lineOf (row ++ [fragment]) = lineOf row ++ ' ' :: fragment.text := by
  rw [lineOf, List.map_append, List.map_singleton, intercalate_concat (by simpa using filled),
    ← lineOf]

/-- A row of one fragment for each piece of a word. -/
theorem map_lineOf_fragments (pieces : List (List Char)) :
    ((fragments pieces).map fun fragment => [fragment]).map lineOf = pieces := by
  conv => rhs; rw [← map_text_fragments pieces]
  rw [List.map_map]
  exact List.map_congr_left fun fragment _ => lineOf_singleton fragment

end Fragment

variable {margin : Margin}

theorem text_ofPiece (piece : List Char) : (Row.ofPiece piece).text = piece := by
  simp [Row.ofPiece, Row.text, Part.text]

theorem text_ofWord (word : List Char) : (Row.ofWord word).text = word := by
  simp [Row.ofWord, Row.text, Part.text]

theorem Margin.Cuts.shown {word : List Char} {pieces : List (List Char)}
    (cuts : margin.Cuts word pieces) : ∀ piece ∈ pieces, piece ≠ [] := by
  induction cuts with
  | first c => simp
  | @extend word piece pieces c before fits ih =>
    rw [List.forall_mem_append, List.forall_mem_singleton] at ih ⊢
    exact ⟨ih.1, by simp⟩
  | @cut word piece pieces c before full ih =>
    rw [List.forall_mem_append, List.forall_mem_singleton]
    exact ⟨ih, by simp⟩

namespace Sets

variable {indent : List Char} {room : Nat} {words : List (List Char)}
  {rows : List (List Fragment)} {cuts : List (List (List Char))}

theorem nil : Sets indent room [] [] [] where
  words := rfl
  shown := by simp
  forced := by simp
  inOrder := rfl
  filled := by simp
  ending := by simp

theorem append (sets : Sets indent room words rows cuts) {word : List Char}
    {pieces : List (List Char)} (joined : pieces.flatten = word)
    (shown : ∀ piece ∈ pieces, piece ≠ [])
    (forced : 1 < pieces.length → room < width indent + width word) :
    Sets indent room (words ++ [word])
      (rows ++ (fragments pieces).map fun fragment => [fragment]) (cuts ++ [pieces]) where
  words := by simp [sets.words, joined]
  shown := by
    rw [List.forall_mem_append, List.forall_mem_singleton]
    exact ⟨sets.shown, shown⟩
  forced := by
    rw [List.forall_mem_append, List.forall_mem_singleton, joined]
    exact ⟨sets.forced, forced⟩
  inOrder := by
    have alone : ((fragments pieces).map fun fragment => [fragment]).flatten = fragments pieces :=
      by simp [← List.flatMap_def]
    simp [sets.inOrder, alone]
  filled := by
    rw [List.forall_mem_append, List.forall_mem_map]
    exact ⟨sets.filled, fun _ _ => List.cons_ne_nil _ _⟩
  ending := by
    rw [List.forall_mem_append, List.forall_mem_map]
    exact ⟨sets.ending, by simp⟩

/-- One more word behind a row of which every fragment closes its word. -/
theorem add {row : List Fragment} (sets : Sets indent room words (rows ++ [row]) cuts)
    (closed : ∀ fragment ∈ row, fragment.closes = true) {word : List Char} (shown : word ≠ []) :
    Sets indent room (words ++ [word]) (rows ++ [row ++ [⟨word, true⟩]]) (cuts ++ [[word]]) where
  words := by simp [sets.words]
  shown := by
    rw [List.forall_mem_append, List.forall_mem_singleton]
    exact ⟨sets.shown, by simpa using shown⟩
  forced := by
    rw [List.forall_mem_append, List.forall_mem_singleton]
    exact ⟨sets.forced, fun several => absurd several (Nat.lt_irrefl 1)⟩
  inOrder := by
    have before := sets.inOrder
    simp only [List.flatten_append, List.flatten_singleton, List.flatMap_append] at before ⊢
    rw [← List.append_assoc, before]
    rfl
  filled := by
    have before := sets.filled
    rw [List.forall_mem_append, List.forall_mem_singleton] at before ⊢
    exact ⟨before.1, by simp⟩
  ending := by
    have before := sets.ending
    rw [List.forall_mem_append, List.forall_mem_singleton] at before ⊢
    exact ⟨before.1, by simpa only [List.dropLast_concat] using closed⟩

theorem flatten_words (sets : Sets indent room words rows cuts) :
    (rows.flatten.map Fragment.text).flatten = words.flatten := by
  have pieces : (cuts.flatMap fragments).map Fragment.text = cuts.flatten := by
    rw [List.map_flatMap, List.flatten_eq_flatMap]
    exact congrArg (List.flatMap · cuts) (funext map_text_fragments)
  rw [sets.inOrder, pieces, ← sets.words, List.flatten_flatten]

/-- A fragment is a part of one of the words, and is not empty. -/
theorem fragment_of_mem (sets : Sets indent room words rows cuts) {row : List Fragment}
    (member : row ∈ rows) {fragment : Fragment} (inside : fragment ∈ row) :
    fragment.text ≠ [] ∧ ∃ word ∈ words, ∀ c ∈ fragment.text, c ∈ word := by
  have listed : fragment ∈ cuts.flatMap fragments :=
    sets.inOrder ▸ List.mem_flatten_of_mem member inside
  obtain ⟨pieces, cut, found⟩ := List.mem_flatMap.mp listed
  have piece : fragment.text ∈ pieces :=
    map_text_fragments pieces ▸ List.mem_map_of_mem found
  refine ⟨sets.shown pieces cut _ piece, pieces.flatten, ?_, ?_⟩
  · exact sets.words ▸ List.mem_map_of_mem cut
  · intro c letter
    exact List.mem_flatten_of_mem piece letter

end Sets

theorem Fragment.exists_getLast_lineOf {row : List Fragment} (filled : row ≠ [])
    (shown : ∀ fragment ∈ row, fragment.text ≠ []) :
    ∃ fragment ∈ row, (lineOf row).getLast? = fragment.text.getLast? := by
  obtain ⟨front, last, rfl⟩ := row.eq_nil_or_concat.resolve_left filled
  simp only [List.concat_eq_append] at shown ⊢
  refine ⟨last, by simp, ?_⟩
  by_cases alone : front = []
  · subst alone
    exact congrArg List.getLast? (lineOf_singleton last)
  · rw [lineOf_concat alone, List.getLast?_append_of_ne_nil _ (List.cons_ne_nil _ _),
      List.getLast?_cons_of_ne_nil (shown last (by simp))]

/-- Greedy rows are rows of fragments, of which the last row holds nothing but ends of words. -/
theorem Margin.Lays.exists_sets {words : List (List Char)} {rows : List Row}
    (lays : margin.Lays words rows) (shown : ∀ word ∈ words, word ≠ []) :
    ∃ set cuts, Sets margin.indent margin.room words set cuts ∧
      set.map Fragment.lineOf = rows.map Row.text ∧
        ∀ row ∈ set.getLast?, ∀ fragment ∈ row, fragment.closes = true := by
  -- a word joins the last row only if that row ends no word halfway, hence the last conjunct
  induction lays with
  | nil => exact ⟨[], [], .nil, rfl, by simp⟩
  | @join words rows row word before fits ih =>
    obtain ⟨set, cuts, sets, same, closed⟩ := ih fun other member => shown other (by simp [member])
    obtain ⟨earlier, last, rfl⟩ := set.eq_nil_or_concat.resolve_left (by rintro rfl; simp at same)
    simp only [List.concat_eq_append] at sets same closed
    have closing : ∀ fragment ∈ last, fragment.closes = true := closed last (by simp)
    refine ⟨_, _, sets.add closing (shown word (by simp)), ?_, ?_⟩
    · have filled := sets.filled last (by simp)
      simp only [List.map_append, List.map_singleton] at same ⊢
      obtain ⟨front, back⟩ := List.append_inj' same rfl
      rw [front, Fragment.lineOf_concat filled, List.singleton_inj.mp back, Row.text_add]
    · intro row member fragment inside
      obtain rfl : last ++ [⟨word, true⟩] = row := by simpa using member
      rcases List.mem_append.mp inside with older | newer
      · exact closing fragment older
      · rw [List.mem_singleton.mp newer]
  | @fresh words rows word before full fits ih =>
    obtain ⟨set, cuts, sets, same, _⟩ := ih fun other member => shown other (by simp [member])
    have whole : [word].flatten = word := by simp
    refine ⟨_, _, sets.append whole (by simpa using shown word (by simp)) (by simp), ?_, ?_⟩
    · rw [List.map_append, List.map_append, same, Fragment.map_lineOf_fragments,
        List.map_singleton, text_ofWord]
    · simp [fragments]
  | @cut words pieces rows word before full wide cut ih =>
    obtain ⟨set, cuts, sets, same, _⟩ := ih fun other member => shown other (by simp [member])
    refine ⟨_, _, sets.append cut.flatten cut.shown (fun _ => wide), ?_, ?_⟩
    · rw [List.map_append, List.map_append, same, Fragment.map_lineOf_fragments, List.map_map]
      congr 1
      exact ((List.map_congr_left fun piece _ => text_ofPiece piece).trans (List.map_id _)).symm
    · intro row member fragment inside
      have some := fragments_ne_nil cut.ne_nil
      rw [List.getLast?_append_of_ne_nil _ (by simpa using some), List.getLast?_map] at member
      obtain ⟨last, found, rfl⟩ := Option.map_eq_some_iff.mp member
      rw [List.mem_singleton.mp inside]
      exact closes_getLast_fragments pieces last found

end ReleaseFeed.Wrap
