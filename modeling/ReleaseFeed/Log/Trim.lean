/-!
Keeping a log small. A log above its limit loses its older half, and the line that the cut would
fall into. What is kept always is the end of what was there.
-/
namespace ReleaseFeed.Log

def newline : UInt8 := 0x0A

/-- What stands behind the first line end; everything if there is none. -/
def fromNextLine (content : List UInt8) : List UInt8 :=
  match content.dropWhile (· != newline) with
  | _ :: rest => rest
  | [] => content

/-- The part of a log that is kept under a limit in bytes. -/
def trim (limit : Nat) (content : List UInt8) : List UInt8 :=
  if content.length ≤ limit then content else fromNextLine (content.drop (content.length / 2))

theorem fromNextLine_suffix (content : List UInt8) : fromNextLine content <:+ content := by
  unfold fromNextLine
  split
  · rename_i rest shape
    exact (List.suffix_cons _ rest).trans (shape ▸ List.dropWhile_suffix _)
  · exact List.suffix_rfl

theorem trim_suffix (limit : Nat) (content : List UInt8) : trim limit content <:+ content := by
  unfold trim
  split
  · exact List.suffix_rfl
  · exact (fromNextLine_suffix _).trans (List.drop_suffix _ content)

theorem trim_of_length_le {limit : Nat} {content : List UInt8} (small : content.length ≤ limit) :
    trim limit content = content := if_pos small

end ReleaseFeed.Log
