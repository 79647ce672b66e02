import ReleaseFeed.Text.CodePoint
import ReleaseFeed.Text.CodePoint.Direction

namespace ReleaseFeed.Text

/-- The direction of a character, where digits and marks have ways of their own. -/
inductive Direction where
  | leftToRight
  | rightToLeft
  | arabicNumber
  | europeanNumber
  | undirected
  | mark
deriving DecidableEq

def direction (c : Char) : Direction :=
  if isNonspacingMark c then if liesIn c.toNat directedMark then .leftToRight else .mark
  else if liesIn c.toNat rightToLeft then .rightToLeft
  else if liesIn c.toNat arabicNumber then .arabicNumber
  else if liesIn c.toNat europeanNumber then .europeanNumber
  else if liesIn c.toNat undirected then .undirected
  else .leftToRight

end ReleaseFeed.Text
