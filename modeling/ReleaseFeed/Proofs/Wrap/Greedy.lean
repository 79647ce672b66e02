import ReleaseFeed.Proofs.Wrap.Bound
import ReleaseFeed.Proofs.Wrap.Relayout
/-!
Where wrapping breaks lines. Main statement: no line is counted wider than the room but for a single
character, a line is broken only ahead of what does not fit behind it, and a word is cut only if it
does not fit a line of its own.
-/
namespace ReleaseFeed.Wrap

open Text

/-- What one line holds of a word. -/
structure Share where
  word : List Char
  /-- What the lines before hold of the word. -/
  before : List Char
  part : Part

namespace Share

def text (share : Share) : List Char := share.part.text

/-- The share of a word that is not cut. -/
def ofWord (word : List Char) : Share := ⟨word, [], .whole word⟩

/-- The shares of a word that is cut into pieces, behind those that hold `before`. -/
def ofPieces (word : List Char) : List Char → List (List Char) → List Share
  | _, [] => []
  | before, piece :: rest => ⟨word, before, .piece piece⟩ :: ofPieces word (before ++ piece) rest

/-- All shares of a word: the word itself, or pieces that make it up. -/
inductive Covers : List Char → List Share → Prop where
  | whole (word : List Char) : Covers word [ofWord word]
  | cut {word : List Char} {pieces : List (List Char)} (joined : pieces.flatten = word)
      (some : pieces ≠ []) (shown : ∀ piece ∈ pieces, piece ≠ []) :
      Covers word (ofPieces word [] pieces)

def lineOf (row : List Share) : List Char := [' '].intercalate (row.map text)

/-- The columns that are counted for a row behind an indentation, with one for every space. -/
def lineCost (indent : List Char) (row : List Share) : Nat :=
  width indent + (row.map fun share => share.part.cost).sum + (row.length - 1)

/-- What the next line begins with does not fit behind a row: a word with a space ahead of it, or
a character inside a word. -/
structure Forced (indent : List Char) (room : Nat) (row next : List Share) : Prop where
  word : ∀ share ∈ next.head?, share.before = [] →
    room < lineCost indent row + 1 + width share.word
  inside : ∀ share ∈ next.head?, share.before ≠ [] →
    ∀ c ∈ share.text.head?, room < lineCost indent row + charWidth c

end Share

/-- Rows that hold words behind an indentation, as many on each as the room allows. -/
structure Greedy (indent : List Char) (room : Nat) (words : List (List Char))
    (rows : List (List Share)) : Prop where
  /-- The rows hold the shares of the words in order. -/
  inOrder : ∃ shares, List.Forall₂ Share.Covers words shares ∧ rows.flatten = shares.flatten
  filled : ∀ row ∈ rows, row ≠ []
  /-- No row is counted wider than the room, but for a single character. -/
  bounded : ∀ row ∈ rows, Share.lineCost indent row ≤ room ∨ ∃ c, Share.lineOf row = [c]
  forced : rows.IsChain (Share.Forced indent room)
  /-- The words that are cut are those that do not fit a line of their own. -/
  cut : ∀ row ∈ rows, ∀ share ∈ row,
    (∃ piece, share.part = .piece piece) ↔ room < width indent + width share.word
  /-- A piece of a word stands directly behind the indentation. -/
  leading : ∀ row ∈ rows, ∀ share ∈ row.tail, share = .ofWord share.word

def Row.parts (row : Row) : List Part := row.first :: row.behind.map .whole

theorem Row.parts_add (row : Row) (word : List Char) :
    (row.add word).parts = row.parts ++ [.whole word] := by
  simp [parts, add]

/-- A row joins its first part and the words behind it by spaces. -/
theorem Row.text_eq_intercalate (row : Row) :
    row.text = [' '].intercalate (row.first.text :: row.behind) := by
  obtain ⟨first, behind⟩ := row
  induction behind using List.reverseRecOn with
  | nil => simp [text]
  | append_singleton behind word ih =>
    have longer : Row.mk first (behind ++ [word]) = (Row.mk first behind).add word := rfl
    rw [longer, text_add, ih, ← intercalate_concat (List.cons_ne_nil _ _)]
    rfl

/-- The row of words that stand on one line. -/
def Row.ofWords : List (List Char) → List Row
  | [] => []
  | word :: rest => [⟨.whole word, rest⟩]

theorem Row.cost_of_whole (word : List Char) (rest : List (List Char)) :
    Row.cost ⟨.whole word, rest⟩ = width ([' '].intercalate (word :: rest)) := by
  have text := Row.text_eq_intercalate ⟨.whole word, rest⟩
  exact (Row.width_text _).symm.trans (congrArg width text)

section Parts

variable {row : Row} {shares : List Share} {indent : List Char}

theorem Share.lineOf_of_parts (same : shares.map Share.part = row.parts) :
    Share.lineOf shares = row.text := by
  have texts : shares.map Share.text = row.parts.map Part.text := by
    rw [← same, List.map_map]
    rfl
  have words : (row.behind.map Part.whole).map Part.text = row.behind := by
    simp [Function.comp_def, Part.text]
  rw [lineOf, texts, Row.parts, List.map_cons, words, Row.text_eq_intercalate]

theorem Share.map_lineOf_of_parts {set : List (List Share)} {rows : List Row}
    (same : set.map (·.map Share.part) = rows.map Row.parts) :
    set.map Share.lineOf = rows.map Row.text := by
  induction set generalizing rows with
  | nil =>
    obtain rfl : rows = [] := by simpa using same.symm
    rfl
  | cons shares set ih =>
    cases rows with
    | nil => cases same
    | cons row rows =>
      obtain ⟨first, rest⟩ := List.cons.inj same
      rw [List.map_cons, List.map_cons, lineOf_of_parts first, ih rest]

theorem Share.lineCost_of_parts (same : shares.map Share.part = row.parts) :
    Share.lineCost indent shares = width indent + row.cost := by
  have costs : (shares.map fun share => share.part.cost) = row.parts.map Part.cost := by
    rw [← same, List.map_map]
    rfl
  have length : shares.length = row.behind.length + 1 := by
    simpa [Row.parts] using congrArg List.length same
  have spaces : (row.behind.map fun word => 1 + width word).sum =
      row.behind.length + (row.behind.map width).sum := by
    simp [List.sum_map_add]
  have words : (row.behind.map Part.whole).map Part.cost = row.behind.map width := by
    simp [Part.cost]
  rw [lineCost, costs, Row.cost, spaces, Row.parts, List.map_cons, List.sum_cons, words, length]
  omega

end Parts

namespace Margin

variable {margin : Margin} {words : List (List Char)} {rows : List Row}

theorem cost_ofPiece (piece : List Char) :
    margin.cost (.ofPiece piece) = margin.column + (piece.map charWidth).sum := by
  simp [cost, Row.ofPiece, Row.cost, Part.cost]

/-- The next piece of a word begins with a character that does not fit behind the piece before. -/
theorem Cuts.isChain {word : List Char} {pieces : List (List Char)}
    (cuts : margin.Cuts word pieces) :
    pieces.IsChain fun piece next =>
      ∀ c ∈ next.head?, margin.room < margin.cost (.ofPiece piece) + charWidth c := by
  induction cuts with
  | first c => exact .singleton _
  | @extend word piece pieces c before fits ih =>
    have begun : piece ≠ [] := before.shown piece (by simp)
    rw [List.isChain_append] at ih ⊢
    refine ⟨ih.1, .singleton _, ?_⟩
    simpa [List.head?_append_of_ne_nil _ begun] using ih.2.2
  | @cut word piece pieces c before full ih =>
    rw [List.isChain_append]
    refine ⟨ih, .singleton _, ?_⟩
    simpa using full

end Margin

namespace Share

variable {indent word : List Char} {room : Nat} {pieces : List (List Char)} {shares : List Share}

theorem lineCost_singleton (share : Share) :
    lineCost indent [share] = width indent + share.part.cost := by
  simp [lineCost]

theorem lineCost_concat {row : List Share} (filled : row ≠ []) (share : Share) :
    lineCost indent (row ++ [share]) = lineCost indent row + 1 + share.part.cost := by
  have length := List.length_pos_iff.mpr filled
  simp [lineCost]
  omega

theorem map_part_ofPieces (word before : List Char) (pieces : List (List Char)) :
    (ofPieces word before pieces).map part = pieces.map .piece := by
  induction pieces generalizing before with
  | nil => rfl
  | cons piece rest ih => rw [ofPieces, List.map_cons, List.map_cons, ih]

theorem word_of_mem_ofPieces {before : List Char} {share : Share}
    (member : share ∈ ofPieces word before pieces) :
    share.word = word ∧ ∃ piece, share.part = .piece piece := by
  induction pieces generalizing before with
  | nil => cases member
  | cons piece rest ih =>
    rcases List.mem_cons.mp member with rfl | later
    · exact ⟨rfl, piece, rfl⟩
    · exact ih later

theorem before_head_ofPieces : ∀ share ∈ (ofPieces word [] pieces).head?, share.before = [] := by
  cases pieces <;> simp [ofPieces]

/-- The pieces of a cut word force the breaks between them. -/
theorem isChain_ofPieces (shown : ∀ piece ∈ pieces, piece ≠ [])
    (chain : pieces.IsChain fun piece next =>
      ∀ c ∈ next.head?, room < width indent + (piece.map charWidth).sum + charWidth c)
    (before : List Char) :
    ((ofPieces word before pieces).map fun share => [share]).IsChain (Forced indent room) := by
  induction pieces generalizing before with
  | nil => exact .nil
  | cons piece rest ih =>
    cases rest with
    | nil => exact .singleton _
    | cons next later =>
      have filled : piece ≠ [] := shown piece (by simp)
      rw [List.isChain_cons_cons] at chain
      have behind := ih (fun other member => shown other (List.mem_cons_of_mem _ member)) chain.2
        (before ++ piece)
      refine List.isChain_cons_cons.mpr ⟨⟨?_, ?_⟩, behind⟩
      · intro share first begins
        obtain rfl : (⟨word, before ++ piece, .piece next⟩ : Share) = share := by simpa using first
        simp [filled] at begins
      · intro share first _ c starts
        obtain rfl : (⟨word, before ++ piece, .piece next⟩ : Share) = share := by simpa using first
        rw [lineCost_singleton]
        exact chain.1 c starts

end Share

namespace Greedy

open Share (Covers lineCost lineOf ofWord)

variable {indent word : List Char} {room : Nat} {words : List (List Char)}
  {rows : List (List Share)} {row shares : List Share}

theorem nil : Greedy indent room [] [] where
  inOrder := ⟨[], .nil, rfl⟩
  filled := by simp
  bounded := by simp
  forced := .nil
  cut := by simp
  leading := by simp

theorem add (greedy : Greedy indent room words (rows ++ [row]))
    (fits : lineCost indent row + 1 + width word ≤ room) :
    Greedy indent room (words ++ [word]) (rows ++ [row ++ [ofWord word]]) := by
  have filled : row ≠ [] := greedy.filled row (by simp)
  refine ⟨?_, ?_, ?_, ?_, ?_, ?_⟩
  · obtain ⟨shares, covers, same⟩ := greedy.inOrder
    refine ⟨shares ++ [[ofWord word]], List.rel_append covers (.cons (.whole word) .nil), ?_⟩
    simp only [List.flatten_append, List.flatten_singleton] at same ⊢
    rw [← List.append_assoc, same]
  · have before := greedy.filled
    rw [List.forall_mem_append, List.forall_mem_singleton] at before ⊢
    exact ⟨before.1, by simp⟩
  · have before := greedy.bounded
    rw [List.forall_mem_append, List.forall_mem_singleton] at before ⊢
    exact ⟨before.1, .inl ((Share.lineCost_concat filled _).trans_le fits)⟩
  · -- the row begins as before, so the break ahead of it is forced as before
    have before := greedy.forced
    rw [List.isChain_append] at before ⊢
    refine ⟨before.1, .singleton _, ?_⟩
    intro last member next first
    obtain rfl : row ++ [ofWord word] = next := by simpa using first
    have forced := before.2.2 last member row (by simp)
    have same : (row ++ [ofWord word]).head? = row.head? := List.head?_append_of_ne_nil _ filled
    exact ⟨same ▸ forced.word, same ▸ forced.inside⟩
  · have before := greedy.cut
    rw [List.forall_mem_append, List.forall_mem_singleton] at before ⊢
    refine ⟨before.1, ?_⟩
    rw [List.forall_mem_append, List.forall_mem_singleton]
    refine ⟨before.2, iff_of_false (by simp [ofWord]) ?_⟩
    simp only [lineCost] at fits
    simp only [ofWord]
    omega
  · have before := greedy.leading
    rw [List.forall_mem_append, List.forall_mem_singleton] at before ⊢
    rw [List.tail_append_of_ne_nil filled, List.forall_mem_append, List.forall_mem_singleton]
    exact ⟨before.1, before.2, rfl⟩

theorem append (greedy : Greedy indent room words rows) (covers : Covers word shares)
    (full : ∀ row ∈ rows.getLast?, room < lineCost indent row + 1 + width word)
    (bounded : ∀ share ∈ shares, lineCost indent [share] ≤ room ∨ ∃ c, share.text = [c])
    (forced : (shares.map fun share => [share]).IsChain (Share.Forced indent room))
    (cut : ∀ share ∈ shares,
      (∃ piece, share.part = .piece piece) ↔ room < width indent + width word) :
    Greedy indent room (words ++ [word]) (rows ++ shares.map fun share => [share]) := by
  have named : ∀ share ∈ shares, share.word = word := by
    intro share member
    cases covers with
    | whole => simp_all [ofWord]
    | cut => exact (Share.word_of_mem_ofPieces member).1
  have first : ∀ share ∈ shares.head?, share.before = [] := by
    cases covers with
    | whole => simp [ofWord]
    | cut => exact Share.before_head_ofPieces
  have alone : (shares.map fun share => [share]).flatten = shares := by simp [← List.flatMap_def]
  refine ⟨?_, ?_, ?_, ?_, ?_, ?_⟩
  · obtain ⟨before, covered, same⟩ := greedy.inOrder
    refine ⟨before ++ [shares], List.rel_append covered (.cons covers .nil), ?_⟩
    rw [List.flatten_append, List.flatten_append, same, alone, List.flatten_singleton]
  · rw [List.forall_mem_append, List.forall_mem_map]
    exact ⟨greedy.filled, fun _ _ => List.cons_ne_nil _ _⟩
  · rw [List.forall_mem_append, List.forall_mem_map]
    refine ⟨greedy.bounded, ?_⟩
    simpa [lineOf] using bounded
  · rw [List.isChain_append]
    refine ⟨greedy.forced, forced, ?_⟩
    intro last member next begins
    obtain ⟨share, head, rfl⟩ : ∃ share, shares.head? = some share ∧ [share] = next := by
      simpa using begins
    have begun := first share head
    refine ⟨?_, ?_⟩
    · intro other same _
      obtain rfl : share = other := by simpa using same
      rw [named share (List.mem_of_head? head)]
      exact full last member
    · intro other same continues
      obtain rfl : share = other := by simpa using same
      exact absurd begun continues
  · rw [List.forall_mem_append, List.forall_mem_map]
    refine ⟨greedy.cut, ?_⟩
    intro share member other inside
    obtain rfl := List.mem_singleton.mp inside
    rw [named other member]
    exact cut other member
  · rw [List.forall_mem_append, List.forall_mem_map]
    exact ⟨greedy.leading, by simp⟩

end Greedy

namespace Margin

variable {margin : Margin} {words : List (List Char)} {rows : List Row}

/-- The next word is forced off the last row of shares as it is off the row that they fill. -/
theorem Full.shares {set : List (List Share)} {word : List Char} (full : margin.Full rows word)
    (same : set.map (·.map Share.part) = rows.map Row.parts) :
    ∀ shares ∈ set.getLast?,
      margin.room < Share.lineCost margin.indent shares + 1 + width word := by
  intro shares member
  have ends := congrArg List.getLast? same
  rw [List.getLast?_map, List.getLast?_map, Option.mem_def.mp member] at ends
  obtain ⟨row, found, parts⟩ := Option.map_eq_some_iff.mp ends.symm
  rw [Share.lineCost_of_parts parts.symm]
  exact full row found

/-- A piece of a word fits a line of its own, or is a single character. -/
theorem Cuts.bounded {word : List Char} {pieces : List (List Char)}
    (cuts : margin.Cuts word pieces) : ∀ share ∈ Share.ofPieces word [] pieces,
      Share.lineCost margin.indent [share] ≤ margin.room ∨ ∃ c, share.text = [c] := by
  intro share member
  have piece : share.part ∈ pieces.map Part.piece := by
    rw [← Share.map_part_ofPieces word []]
    exact List.mem_map_of_mem member
  obtain ⟨text, found, part⟩ := List.mem_map.mp piece
  rw [Share.lineCost_singleton, Share.text, ← part]
  rcases cuts.counted text found with fits | ⟨c, single, _⟩
  · exact .inl ((cost_ofPiece text).symm.trans_le fits)
  · exact .inr ⟨c, congrArg (·.first.text) single⟩

/-- The greedy layout puts the shares of the words on its rows. -/
theorem Lays.exists_greedy (lays : margin.Lays words rows) :
    ∃ set, Greedy margin.indent margin.room words set ∧
      set.map (·.map Share.part) = rows.map Row.parts := by
  induction lays with
  | nil => exact ⟨[], .nil, rfl⟩
  | @join words rows row word before fits ih =>
    obtain ⟨set, greedy, same⟩ := ih
    obtain ⟨earlier, shares, rfl⟩ := set.eq_nil_or_concat.resolve_left (by rintro rfl; simp at same)
    simp only [List.concat_eq_append, List.map_append, List.map_singleton] at greedy same
    obtain ⟨front, back⟩ := List.append_inj' same rfl
    have parts : shares.map Share.part = row.parts := List.singleton_inj.mp back
    refine ⟨_, greedy.add ?_, ?_⟩
    · rw [Share.lineCost_of_parts parts]
      exact fits
    · simp [front, parts, Row.parts_add, Share.ofWord]
  | @fresh words rows word before full fits ih =>
    obtain ⟨set, greedy, same⟩ := ih
    refine ⟨_, greedy.append (.whole word) (full.shares same) ?_ (.singleton _) ?_, ?_⟩
    · rw [List.forall_mem_singleton, Share.lineCost_singleton]
      exact .inl fits
    · rw [List.forall_mem_singleton]
      exact iff_of_false (by simp [Share.ofWord]) (Nat.not_lt.mpr fits)
    · simp [same, Share.ofWord, Row.ofWord, Row.parts]
  | @cut words pieces rows word before full wide cuts ih =>
    obtain ⟨set, greedy, same⟩ := ih
    refine ⟨_, greedy.append (.cut cuts.flatten cuts.ne_nil cuts.shown) (full.shares same)
      cuts.bounded (Share.isChain_ofPieces cuts.shown ?_ []) ?_, ?_⟩
    · simpa only [cost_ofPiece, column] using cuts.isChain
    · intro share member
      exact iff_of_true (Share.word_of_mem_ofPieces member).2 wide
    · have parts := congrArg (List.map fun part => [part]) (Share.map_part_ofPieces word [] pieces)
      rw [List.map_map, List.map_map] at parts
      rw [List.map_append, List.map_append, same, List.map_map, List.map_map]
      exact congrArg (rows.map Row.parts ++ ·) parts

theorem Lays.rows_eq_nil (lays : margin.Lays words rows) (none : words = []) : rows = [] := by
  cases lays <;> simp_all

/-- Words that fit a line together, with a space between any two, are laid out on one line. -/
theorem Lays.eq_ofWords (lays : margin.Lays words rows)
    (fits : margin.column + width ([' '].intercalate words) ≤ margin.room) :
    rows = Row.ofWords words := by
  have longer {words : List (List Char)} {word : List Char} (filled : words ≠ []) :
      width ([' '].intercalate (words ++ [word])) =
        width ([' '].intercalate words) + 1 + width word := by
    rw [intercalate_concat filled, width_append_space]
  induction lays with
  | nil => rfl
  | @join words rows row word before room ih =>
    cases words with
    | nil => simpa using before.rows_eq_nil rfl
    | cons first rest =>
      rw [longer (List.cons_ne_nil _ _)] at fits
      have one := ih (by omega)
      obtain ⟨rfl, rfl⟩ : rows = [] ∧ row = ⟨.whole first, rest⟩ := by
        simpa [Row.ofWords, List.append_eq_singleton_iff] using one
      rfl
  | @fresh words rows word before full room ih =>
    cases words with
    | nil =>
      rw [before.rows_eq_nil rfl]
      rfl
    | cons first rest =>
      rw [longer (List.cons_ne_nil _ _)] at fits
      have one := ih (by omega)
      have beyond := full ⟨.whole first, rest⟩ (by simp [one, Row.ofWords])
      rw [cost, Row.cost_of_whole] at beyond
      omega
  | @cut words pieces rows word before full wide cuts ih =>
    cases words with
    | nil =>
      rw [List.nil_append, List.intercalate_singleton] at fits
      omega
    | cons first rest =>
      rw [longer (List.cons_ne_nil _ _)] at fits
      omega

end Margin

section Source

variable {room : Nat} {source : List Char}

/-- A source line on one line: its words behind its indentation, with a space between any two. -/
def oneLine (room : Nat) (source : List Char) : List Char :=
  keptIndent room source ++ [' '].intercalate (words source)

/-- The greedy layout of a visible source line, with the margin that the line itself has. -/
theorem exists_lays_wrapLine (room : Nat) (visible : trimStart (dropReturn source) ≠ []) :
    ∃ rows, Margin.Lays ⟨keptIndent room source, room⟩ (words source) rows ∧
      wrapLine room source = rows.map (keptIndent room source ++ ·.text) := by
  obtain ⟨rows, lays, same⟩ := wrapLine_eq_render room visible
  have margin : marginOf room (dropReturn source) = ⟨keptIndent room source, room⟩ := by
    rw [← indent_marginOf visible]
    rfl
  rw [margin] at lays same
  rw [words_trimStart, words_dropReturn] at lays
  exact ⟨rows, lays, same⟩

/-- A visible source line becomes rows that are as full as the room allows. -/
theorem exists_greedy_wrapLine (room : Nat) (visible : trimStart (dropReturn source) ≠ []) :
    ∃ rows, Greedy (keptIndent room source) room (words source) rows ∧
      wrapLine room source = rows.map (keptIndent room source ++ Share.lineOf ·) := by
  obtain ⟨laid, lays, same⟩ := exists_lays_wrapLine room visible
  obtain ⟨rows, greedy, parts⟩ := lays.exists_greedy
  refine ⟨rows, greedy, ?_⟩
  have texts := congrArg (List.map (keptIndent room source ++ ·)) (Share.map_lineOf_of_parts parts)
  rw [List.map_map, List.map_map] at texts
  exact same.trans texts.symm

theorem lineFeed_not_mem_keptIndent (single : '\n' ∉ source) : '\n' ∉ keptIndent room source := by
  intro feed
  unfold keptIndent at feed
  split at feed
  · exact single ((List.takeWhile_sublist _).subset feed)
  · cases feed

theorem isBlank_head_intercalate_words (source : List Char) :
    ∀ c ∈ ([' '].intercalate (words source)).head?, isBlank c = false := by
  cases shape : words source with
  | nil => simp
  | cons first rest =>
    have listed : first ∈ words source := by simp [shape]
    rw [head?_intercalate_cons (ne_nil_of_mem_words listed)]
    exact fun c starts => not_isBlank_of_mem_words listed c (List.mem_of_head? starts)

theorem width_oneLine (single : '\n' ∉ source) : width (oneLine room source) =
    width (keptIndent room source) + width ([' '].intercalate (words source)) := by
  apply width_append_of_blank
  · exact fun c => isBlank_of_mem_keptIndent
  · exact lineFeed_not_mem_keptIndent single
  · intro feed
    cases isBlank_head_intercalate_words source '\n' feed

/-- A visible source line that fits on one line stays on one. -/
theorem wrapLine_of_fits (visible : trimStart (dropReturn source) ≠ []) (single : '\n' ∉ source)
    (fits : width (oneLine room source) ≤ room) : wrapLine room source = [oneLine room source] := by
  obtain ⟨rows, lays, same⟩ := exists_lays_wrapLine room visible
  have filled : words source ≠ [] := by
    rw [← words_dropReturn, ← words_trimStart]
    exact words_trimStart_ne_nil visible
  obtain ⟨first, rest, shape⟩ := List.exists_cons_of_ne_nil filled
  rw [width_oneLine single] at fits
  rw [same, lays.eq_ofWords fits, oneLine, shape, Row.ofWords, List.map_singleton,
    Row.text_eq_intercalate]
  rfl

/-- Where the lines of a wrapped text are broken. -/
structure BreaksGreedily (text : List Char) (room : Nat) : Prop where
  /-- The lines of each source line are those that it has alone. -/
  lines : splitOn '\n' (wrapText text room) =
    (splitOn '\n' text).flatMap fun source => splitOn '\n' (wrapText source room)
  /-- A blank source line becomes an empty line. -/
  blank : ∀ source ∈ splitOn '\n' text, (∀ c ∈ source, isBlank c = true) →
    splitOn '\n' (wrapText source room) = [[]]
  /-- Any other source line becomes rows that are as full as the room allows. -/
  greedy : ∀ source ∈ splitOn '\n' text, (∃ c ∈ source, isBlank c = false) →
    ∃ rows, Greedy (keptIndent room source) room (words source) rows ∧
      splitOn '\n' (wrapText source room) =
        rows.map (keptIndent room source ++ Share.lineOf ·)
  /-- It is not broken at all if it fits on one line. -/
  fits : ∀ source ∈ splitOn '\n' text, (∃ c ∈ source, isBlank c = false) →
    width (oneLine room source) ≤ room →
      splitOn '\n' (wrapText source room) = [oneLine room source]

theorem breaksGreedily (text : List Char) (positive : 0 < room) : BreaksGreedily text room := by
  have alone {source : List Char} (found : source ∈ splitOn '\n' text) :
      splitOn '\n' (wrapText source room) = wrapLine room source :=
    splitOn_wrapText_of_line positive (not_mem_of_mem_splitOn found)
  refine ⟨?_, ?_, ?_, ?_⟩
  · rw [splitOn_wrapText text positive]
    exact (List.flatMap_congr fun source found => alone found).symm
  · intro source found blank
    rw [alone found, wrapLine_of_blank (trimStart_dropReturn_eq_nil_iff.mpr blank)]
  · intro source found visible
    rw [alone found]
    exact exists_greedy_wrapLine room (trimStart_dropReturn_ne_nil_iff.mpr visible)
  · intro source found visible fits
    rw [alone found]
    exact wrapLine_of_fits (trimStart_dropReturn_ne_nil_iff.mpr visible)
      (not_mem_of_mem_splitOn found) fits

/-- A wide character that no line holds, a word that is cut and words behind its last piece. -/
theorem breaksGreedily_of_wide_character :
    0 < 2 ∧ BreaksGreedily ['\t', '漢', 'a', 'b', 'c', ' ', 'd', '\n', ' ', 'e'] 2 ∧
      wrapText ['\t', '漢', 'a', 'b', 'c', ' ', 'd', '\n', ' ', 'e'] 2 =
        ['\t', '漢', '\n', '\t', 'a', '\n', '\t', 'b', '\n', '\t', 'c', '\n', '\t', 'd', '\n', ' ',
          'e'] :=
  ⟨by decide, breaksGreedily _ (by decide), by decide +kernel⟩

end Source

end ReleaseFeed.Wrap
