import Mathlib.Algebra.Group.Nat.Defs
import Mathlib.Data.Nat.Log
import Mathlib.Logic.Function.Iterate
import ReleaseFeed.Proofs.Log.Removal
import ReleaseFeed.Proofs.Log.Trimming
/-!
A log that is trimmed again and again. Main statement: a log above its limit is cut down to half of
it or less, so that after a few starts of the program it is within its limit and stays as it is.
-/
namespace ReleaseFeed.Log

open Files (Tree)
open App (Journal)

variable {limit starts later : Nat} {content : List UInt8}

/-! ### One trim -/

theorem length_trim_le_half (long : limit < content.length) :
    (trim limit content).length ≤ (content.length + 1) / 2 := by
  have kept : (trim limit content).length ≤ (content.drop (content.length / 2)).length := by
    rw [trim, if_neg (Nat.not_le.mpr long)]
    exact (fromNextLine_suffix _).length_le
  rw [List.length_drop] at kept
  omega

/-- A limit of nothing at all would leave a single byte as it is. -/
theorem length_trim_lt (positive : 1 ≤ limit) (long : limit < content.length) :
    (trim limit content).length < content.length := by
  have half := length_trim_le_half long
  omega

/-- The first line end of the second half is the last byte that is lost. -/
theorem exists_lost (long : limit < content.length)
    (ends : newline ∈ content.drop (content.length / 2)) :
    ∃ cut, newline ∉ cut ∧
      content = content.take (content.length / 2) ++ cut ++ newline :: trim limit content := by
  obtain ⟨cut, kept, split, unbroken⟩ := List.eq_append_cons_of_mem ends
  refine ⟨cut, unbroken, ?_⟩
  have left : trim limit content = kept := by
    rw [trim, if_neg (Nat.not_le.mpr long), split, fromNextLine_append unbroken]
  rw [left, List.append_assoc, ← split, List.take_append_drop]

/-- Without a line end in it, the second half is kept as it is. -/
theorem trim_of_newline_not_mem (long : limit < content.length)
    (endless : newline ∉ content.drop (content.length / 2)) :
    trim limit content = content.drop (content.length / 2) := by
  have skipped : (content.drop (content.length / 2)).dropWhile (· != newline) = [] := by
    rw [List.dropWhile_eq_nil_iff]
    exact fun byte inside => bne_iff_ne.mpr (ne_of_mem_of_not_mem inside endless)
  rw [trim, if_neg (Nat.not_le.mpr long), fromNextLine, skipped]

/-! ### Trims in a row -/

theorem iterate_trim_suffix (limit : Nat) (content : List UInt8) (starts : Nat) :
    (trim limit)^[starts] content <:+ content := by
  induction starts generalizing content with
  | zero => exact List.suffix_rfl
  | succ starts ih =>
    rw [Function.iterate_succ_apply]
    exact (ih (trim limit content)).trans (trim_suffix limit content)

/-- Each trim halves what the next ones have to deal with. -/
theorem length_iterate_trim_le (small : content.length ≤ limit * 2 ^ starts) :
    ((trim limit)^[starts] content).length ≤ limit := by
  induction starts generalizing content with
  | zero => simpa using small
  | succ starts ih =>
    rw [Function.iterate_succ_apply]
    apply ih
    by_cases long : limit < content.length
    · have half := length_trim_le_half long
      rw [pow_succ, ← Nat.mul_assoc] at small
      omega
    · have fits := Nat.not_lt.mp long
      rw [trim_of_length_le fits]
      exact fits.trans (Nat.le_mul_of_pos_right limit (Nat.two_pow_pos starts))

theorem iterate_trim_of_le (small : ((trim limit)^[starts] content).length ≤ limit)
    (further : starts ≤ later) : (trim limit)^[later] content = (trim limit)^[starts] content := by
  obtain ⟨more, rfl⟩ := Nat.exists_eq_add_of_le' further
  rw [Function.iterate_add_apply]
  exact Function.iterate_fixed (trim_of_length_le small) more

end ReleaseFeed.Log

/-! ### Starts of the program -/

namespace ReleaseFeed

open Files (Tree)
open App (Journal)
open Log (trim newline)

variable {paths : AppPaths} {limit : Nat} {content : List UInt8} {tree : Tree}

theorem AppPaths.grows_ensure (paths : AppPaths) (tree : Tree) :
    tree.Grows (paths.ensure tree).2 := by
  unfold ensure
  split
  · exact .refl tree
  · rename_i first made
    split
    · exact Tree.grows_makeDirectories made
    · rename_i second madeToo
      exact (Tree.grows_makeDirectories made).trans (Tree.grows_makeDirectories madeToo)

/-- A start of the program trims its log and opens it. -/
theorem App.Journal.read_openIn (held : tree.read paths.logFile = .ok content)
    (isEnabled : Bool) :
    (openIn paths isEnabled limit tree).2.read paths.logFile = .ok (trim limit content) := by
  have trimmed := read_trimFile ((paths.grows_ensure tree).read held) limit
  rw [openIn]
  split
  · rename_i opens
    exact (Tree.grows_openFile (Log.openAt_eq_ok_iff.mp opens).2).read trimmed
  · exact trimmed

/-- The files after starts of the program, with logging enabled or not in each of them. -/
def App.Journal.afterStarts (paths : AppPaths) (limit : Nat) (tree : Tree)
    (enabled : List Bool) : Tree :=
  enabled.foldl (fun tree isEnabled => (openIn paths isEnabled limit tree).2) tree

theorem App.Journal.read_afterStarts (held : tree.read paths.logFile = .ok content)
    (enabled : List Bool) : (afterStarts paths limit tree enabled).read paths.logFile =
      .ok ((trim limit)^[enabled.length] content) := by
  induction enabled generalizing tree content with
  | nil => exact held
  | cons isEnabled rest ih => exact ih (read_openIn held isEnabled)

namespace Log

/-- How a log is trimmed again and again under one limit. -/
structure Converges (limit : Nat) (content : List UInt8) : Prop where
  /-- A log within its limit stays as it is. -/
  small : content.length ≤ limit → trim limit content = content
  /-- A log above its limit becomes shorter, and no more than half of it is kept. -/
  shrinks : limit < content.length → trim limit content <:+ content ∧
    (trim limit content).length < content.length ∧
    (trim limit content).length ≤ (content.length + 1) / 2
  /-- If a line ends in the second half, what is kept starts behind the first line end there. -/
  line : limit < content.length → newline ∈ content.drop (content.length / 2) →
    ∃ cut, newline ∉ cut ∧
      content = content.take (content.length / 2) ++ cut ++ newline :: trim limit content
  /-- If none does, what is kept is the second half. -/
  endless : limit < content.length → newline ∉ content.drop (content.length / 2) →
    trim limit content = content.drop (content.length / 2)
  /-- As many trims as the length can be halved bring the log within its limit. -/
  reaches : ∀ starts, Nat.clog 2 content.length ≤ starts →
    (trim limit)^[starts] content <:+ content ∧ ((trim limit)^[starts] content).length ≤ limit
  /-- Fewer are enough if the limit is not small. -/
  reachesEarly : ∀ starts, content.length ≤ limit * 2 ^ starts →
    ((trim limit)^[starts] content).length ≤ limit
  /-- A log that was brought within its limit stays as it is. -/
  rests : ∀ starts later, ((trim limit)^[starts] content).length ≤ limit → starts ≤ later →
    (trim limit)^[later] content = (trim limit)^[starts] content
  /-- The log file of the program is trimmed once at each start. -/
  program : ∀ paths tree, tree.read paths.logFile = .ok content → ∀ enabled,
    (Journal.afterStarts paths limit tree enabled).read paths.logFile =
      .ok ((trim limit)^[enabled.length] content)

/-- A limit that leaves room for a byte is reached from every log. -/
theorem trim_converges (positive : 1 ≤ limit) (content : List UInt8) :
    Converges limit content where
  small := trim_of_length_le
  shrinks long :=
    ⟨trim_suffix limit content, length_trim_lt positive long, length_trim_le_half long⟩
  line := exists_lost
  endless := trim_of_newline_not_mem
  reaches starts enough := by
    refine ⟨iterate_trim_suffix limit content starts, length_iterate_trim_le ?_⟩
    calc content.length ≤ 2 ^ starts := Nat.clog_le_iff_le_pow (by decide) |>.mp enough
      _ ≤ limit * 2 ^ starts := Nat.le_mul_of_pos_left _ positive
  reachesEarly _ := length_iterate_trim_le
  rests _ _ := iterate_trim_of_le
  program _ _ held := Journal.read_afterStarts held

theorem trim_converges_of_seven :
    1 ≤ 1 ∧ Converges 1 [0x61, 0x0A, 0x62, 0x63, 0x64, 0x65, 0x66] :=
  ⟨by decide, trim_converges (by decide) _⟩

/-- Two trims are not enough for seven bytes whose only line end stands in the first half. -/
example : (trim 1)^[2] [0x61, 0x0A, 0x62, 0x63, 0x64, 0x65, 0x66] = [0x65, 0x66] := by decide

end Log
end ReleaseFeed
