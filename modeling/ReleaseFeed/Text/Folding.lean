import ReleaseFeed.Text.CodePoint
import ReleaseFeed.Text.CodePoint.Folding
import ReleaseFeed.Text.CodePoint.Spelling

namespace ReleaseFeed.Text

/-- The code points that a code point is spelled in, if it counts as several. -/
def spelling? (code : Nat) : Option (List Nat) :=
  ((spelledSigns ++ spelledEnclosed ++ spelledLigatures).find? fun (spelled, _) =>
    spelled = code).map (·.2)

/-- The code point that a code point counts as, if it counts as one other. -/
def replacement? (code : Nat) : Option Nat :=
  ((merged.find? fun (first, last, _) => first ≤ code && code ≤ last).map (·.2.2)).or
    ((shifted.find? fun (first, last, step, _) =>
      first ≤ code && code ≤ last && (code - first) % step = 0).map
        fun (first, _, _, image) => image + (code - first))

/-- What a character counts as. An ideograph always counts as itself. -/
def fold (c : Char) : List Char :=
  if c.toNat < 0x80 then [c.toLower]
  else
    (((spelling? c.toNat).or ((replacement? c.toNat).map ([·]))).getD [c.toNat]).map Char.ofNat

/-- Whether a character counts as itself and is no variant of an ideograph. -/
def isFolded (c : Char) : Bool := fold c == [c] && !liesIn c.toNat variantIdeograph

end ReleaseFeed.Text
