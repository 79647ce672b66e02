import ReleaseFeed.App.Journal
import ReleaseFeed.Proofs.Files.Rewriting
/-!
What is left of a log that is trimmed. Main statement: a log above its limit keeps whole lines,
those behind the line that covers its middle; the last line is among them exactly when it is shorter
than all lines before it together, and otherwise nothing is kept.
-/
namespace ReleaseFeed

namespace Log

structure Line where
  body : List UInt8
  unbroken : newline ∉ body
deriving DecidableEq

def Line.bytes (line : Line) : List UInt8 := line.body ++ [newline]

def contentOf (lines : List Line) : List UInt8 := lines.flatMap Line.bytes

variable {limit place : Nat} {front kept lines : List Line} {cut last : Line}

@[simp]
theorem contentOf_nil : contentOf [] = [] := rfl

@[simp]
theorem contentOf_cons (line : Line) (rest : List Line) :
    contentOf (line :: rest) = line.bytes ++ contentOf rest := rfl

@[simp]
theorem contentOf_append (front back : List Line) :
    contentOf (front ++ back) = contentOf front ++ contentOf back := List.flatMap_append

theorem Line.length_pos (line : Line) : 0 < line.bytes.length := by simp [bytes]

theorem contentOf_eq_nil_iff : contentOf lines = [] ↔ lines = [] := by
  cases lines with
  | nil => exact iff_of_true rfl rfl
  | cons line rest =>
    refine iff_of_false (fun empty => ?_) nofun
    have none := congrArg List.length empty
    have some := line.length_pos
    simp only [contentOf_cons, List.length_append, List.length_nil] at none
    omega

/-- Every place in a log is covered by one of its lines. -/
theorem exists_line_at (inside : place < (contentOf lines).length) :
    ∃ front cut kept, lines = front ++ cut :: kept ∧ (contentOf front).length ≤ place ∧
      place < (contentOf front).length + cut.bytes.length := by
  induction lines generalizing place with
  | nil => exact absurd inside (Nat.not_lt_zero place)
  | cons line rest ih =>
    by_cases early : place < line.bytes.length
    · exact ⟨[], line, rest, rfl, Nat.zero_le place, by simpa using early⟩
    · have behind : place - line.bytes.length < (contentOf rest).length := by
        rw [contentOf_cons, List.length_append] at inside
        omega
      obtain ⟨front, cut, kept, rfl, starts, ends⟩ := ih behind
      refine ⟨line :: front, cut, kept, rfl, ?_, ?_⟩ <;>
        simp only [contentOf_cons, List.length_append] <;> omega

theorem fromNextLine_append {before : List UInt8} (unbroken : newline ∉ before)
    (rest : List UInt8) : fromNextLine (before ++ newline :: rest) = rest := by
  have skipped : (before ++ newline :: rest).dropWhile (· != newline) = newline :: rest := by
    rw [List.dropWhile_append_of_pos fun byte member =>
      bne_iff_ne.mpr (ne_of_mem_of_not_mem member unbroken)]
    rfl
  rw [fromNextLine, skipped]

/-- Behind a place inside a line, or where it begins, the next line is the one after it. -/
theorem fromNextLine_drop (starts : (contentOf front).length ≤ place)
    (ends : place < (contentOf front).length + cut.bytes.length) :
    fromNextLine ((contentOf (front ++ cut :: kept)).drop place) = contentOf kept := by
  have short : place - (contentOf front).length ≤ cut.body.length := by
    rw [Line.bytes, List.length_append, List.length_singleton] at ends
    omega
  have split : (contentOf (front ++ cut :: kept)).drop place =
      cut.body.drop (place - (contentOf front).length) ++ newline :: contentOf kept := by
    rw [contentOf_append, List.drop_append, List.drop_eq_nil_of_le starts, List.nil_append,
      contentOf_cons, Line.bytes, List.append_assoc, List.drop_append_of_le_length short]
    rfl
  rw [split]
  exact fromNextLine_append (fun member => cut.unbroken (List.mem_of_mem_drop member)) _

/-- A log above its limit loses the line that covers its middle and the lines before that one. -/
theorem exists_kept (long : limit < (contentOf lines).length) :
    ∃ front cut kept, lines = front ++ cut :: kept ∧
      (contentOf front).length ≤ (contentOf lines).length / 2 ∧
      (contentOf lines).length / 2 < (contentOf front).length + cut.bytes.length ∧
      trim limit (contentOf lines) = contentOf kept := by
  have inside : (contentOf lines).length / 2 < (contentOf lines).length := by omega
  obtain ⟨front, cut, kept, rfl, starts, ends⟩ := exists_line_at inside
  refine ⟨front, cut, kept, rfl, starts, ends, ?_⟩
  rw [trim, if_neg (by omega)]
  exact fromNextLine_drop starts ends

/-- What is kept are the last lines of a log, with its very last one. -/
def KeepsRecent (limit : Nat) (lines : List Line) : Prop :=
  ∃ kept, kept <:+ lines ∧ kept ≠ [] ∧ trim limit (contentOf lines) = contentOf kept

/-- The last line is kept if it is shorter than what stands before it. -/
theorem keepsRecent_of_lt (long : limit < (contentOf (front ++ [last])).length)
    (shorter : last.bytes.length < (contentOf front).length) :
    KeepsRecent limit (front ++ [last]) := by
  obtain ⟨dropped, cut, kept, parts, starts, -, left⟩ := exists_kept long
  refine ⟨kept, ?_, ?_, left⟩
  · rw [parts]
    exact (List.suffix_cons cut kept).trans (List.suffix_append dropped _)
  · rintro rfl
    -- the line in the middle would be the last one, which begins behind the middle
    obtain ⟨rfl, -⟩ := List.append_inj' parts rfl
    simp only [contentOf_append, contentOf_cons, contentOf_nil, List.append_nil,
      List.length_append] at starts
    omega

/-- Nothing is kept if the last line is at least as long as what stands before it. -/
theorem trim_eq_nil_of_le (long : limit < (contentOf (front ++ [last])).length)
    (longest : (contentOf front).length ≤ last.bytes.length) :
    trim limit (contentOf (front ++ [last])) = [] := by
  have length : (contentOf (front ++ [last])).length =
      (contentOf front).length + last.bytes.length := by simp
  have positive := last.length_pos
  rw [trim, if_neg (by omega)]
  exact fromNextLine_drop (by omega) (by omega)

/-- The last line is kept exactly if it is shorter than what stands before it. -/
theorem keepsRecent_iff (long : limit < (contentOf (front ++ [last])).length) :
    KeepsRecent limit (front ++ [last]) ↔ last.bytes.length < (contentOf front).length := by
  refine ⟨fun keeps => ?_, keepsRecent_of_lt long⟩
  by_contra longest
  obtain ⟨kept, -, some, left⟩ := keeps
  rw [trim_eq_nil_of_le long (Nat.not_lt.mp longest)] at left
  exact some (contentOf_eq_nil_iff.mp left.symm)

end Log

open Files (Path Tree)
open Log (Line contentOf trim KeepsRecent)

/-- What is trimmed in a file is what is read from it afterwards. -/
theorem App.Journal.read_trimFile {path : Path} {tree : Tree} {content : List UInt8}
    (held : tree.read path = .ok content) (limit : Nat) :
    (trimFile path limit tree).read path = .ok (trim limit content) := by
  rw [trimFile, held]
  by_cases small : content.length ≤ limit
  · simp only [if_pos small, Log.trim_of_length_le small, held]
  · rcases Tree.read_eq_ok_iff.mp held with ⟨id, found⟩ | ⟨-, rfl⟩
    · obtain ⟨after, written, reads⟩ := Tree.read_write found (trim limit content)
      simp only [if_neg small, written]
      exact reads
    · exact absurd (Nat.zero_le limit) small

namespace Log

variable {limit : Nat} {lines : List Line}

/-- How a log of whole lines is trimmed. -/
structure TrimsLines (limit : Nat) (lines : List Line) : Prop where
  /-- The file then holds what is kept of its content. -/
  file : ∀ path tree, tree.read path = .ok (contentOf lines) →
    (App.Journal.trimFile path limit tree).read path = .ok (trim limit (contentOf lines))
  /-- Whole lines are kept, those behind the line that covers the middle of the log. -/
  whole : ∃ front cut kept, lines = front ++ cut :: kept ∧
    (contentOf front).length ≤ (contentOf lines).length / 2 ∧
    (contentOf lines).length / 2 < (contentOf front).length + cut.bytes.length ∧
    trim limit (contentOf lines) = contentOf kept
  /-- The last line is kept exactly if it is shorter than what stands before it. -/
  exact : ∀ front last, lines = front ++ [last] →
    (KeepsRecent limit lines ↔ last.bytes.length < (contentOf front).length)
  /-- Otherwise nothing is kept. -/
  emptied : ¬ KeepsRecent limit lines → trim limit (contentOf lines) = []

/-- A log of any lines that is above its limit keeps the lines behind its middle. -/
theorem trimsLines (long : limit < (contentOf lines).length) : TrimsLines limit lines where
  file _ _ held := App.Journal.read_trimFile held limit
  whole := exists_kept long
  exact front last parts := by
    subst parts
    exact keepsRecent_iff long
  emptied loses := by
    rcases List.eq_nil_or_concat lines with rfl | ⟨front, last, rfl⟩
    · exact absurd long (Nat.not_lt_zero limit)
    · rw [List.concat_eq_append] at *
      exact trim_eq_nil_of_le long (Nat.not_lt.mp (mt (keepsRecent_of_lt long) loses))

theorem trimsLines_of_three : 4 < (contentOf [⟨[0x61], by decide⟩, ⟨[0x62], by decide⟩,
      ⟨[0x63], by decide⟩]).length ∧
    TrimsLines 4 [⟨[0x61], by decide⟩, ⟨[0x62], by decide⟩, ⟨[0x63], by decide⟩] :=
  ⟨by decide, trimsLines (by decide)⟩

/-- Of two lines of the same length the second one begins at the middle, and both are lost. -/
theorem recentLine_is_lost :
    5 < (contentOf [⟨[0x61, 0x62], by decide⟩, ⟨[0x63, 0x64], by decide⟩]).length ∧
      ¬ KeepsRecent 5 [⟨[0x61, 0x62], by decide⟩, ⟨[0x63, 0x64], by decide⟩] := by
  refine ⟨by decide, ?_⟩
  rintro ⟨kept, -, some, left⟩
  exact some (contentOf_eq_nil_iff.mp left.symm)

end Log
end ReleaseFeed
