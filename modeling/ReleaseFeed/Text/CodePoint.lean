import ReleaseFeed.Text.CodePoint.Columns
import ReleaseFeed.Text.CodePoint.Emoji
import ReleaseFeed.Text.CodePoint.GraphemeExtend
import ReleaseFeed.Text.CodePoint.Marks
import ReleaseFeed.Text.CodePoint.Unprintable

namespace ReleaseFeed.Text

/-- Whether a code point lies in one of the ranges, which are in ascending order. -/
def liesIn (code : Nat) : List (Nat × Nat) → Bool
  | [] => false
  | (first, last) :: rest => if code < first then false else code ≤ last || liesIn code rest

/-- A mark that extends the character before it. -/
def isGraphemeExtend (c : Char) : Bool := liesIn c.toNat graphemeExtend

/-- A mark that takes no place of its own. -/
def isNonspacingMark (c : Char) : Bool :=
  isGraphemeExtend c && !liesIn c.toNat spacingMark && c.toNat ≠ 0x200C

def isMark (c : Char) : Bool := isNonspacingMark c || liesIn c.toNat spacingMark

/-- A character that shows as itself. -/
def isPrintable (c : Char) : Bool := c == ' ' || !liesIn c.toNat unprintable

/-- A control character, which has no width of its own. -/
def isControl (c : Char) : Bool := c.toNat < 0x20 || (0x7F ≤ c.toNat && c.toNat < 0xA0)

end ReleaseFeed.Text
