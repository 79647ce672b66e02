import ReleaseFeed.Text.Canonical
import ReleaseFeed.Text.CodePoint.Joining
import ReleaseFeed.Text.Direction
import ReleaseFeed.Text.Folding
import ReleaseFeed.Text.Punycode
import ReleaseFeed.Text.Split
/-!
Names of hosts in any script. A name counts in a form in which case, width and ligatures make no
difference, and a label behind `xn--` stands for the text that it encodes. A label may not begin
with a mark, hold a joiner that its script has no use for, or mix directions.
-/
namespace ReleaseFeed.HostName

open Text (liesIn splitOn)

/-! ## Characters -/

/-- ASCII characters that no name has. -/
def isDelimiter (c : Char) : Bool :=
  c.toNat ≤ 0x20 || c.toNat == 0x7F || "\"#%/:<>?@[\\]^\x60\x7b|\x7d".toList.contains c

/-- Printable code points that no name has, most of them since they count as several, with a
delimiter or a dot among them. -/
def refused : List (Nat × Nat) :=
  [(0xA8, 0xA8), (0xAF, 0xAF), (0xB4, 0xB4), (0xB8, 0xB8), (0x2D8, 0x2DD), (0x37A, 0x37A),
    (0x384, 0x385), (0x1FBD, 0x1FBD), (0x1FBF, 0x1FC1), (0x1FCD, 0x1FCF), (0x1FDD, 0x1FDF),
    (0x1FED, 0x1FEF), (0x1FFD, 0x1FFE), (0x2017, 0x2017), (0x2024, 0x2026), (0x203E, 0x203E),
    (0x2047, 0x2049), (0x2100, 0x2101), (0x2105, 0x2106), (0x2488, 0x249B), (0x2A74, 0x2A74),
    (0x2FF0, 0x2FFF), (0x309B, 0x309C), (0x31EF, 0x31EF), (0x33C2, 0x33C2), (0x33C7, 0x33C7),
    (0x33D8, 0x33D8), (0xFC5E, 0xFC63), (0xFDFA, 0xFDFB), (0xFE12, 0xFE13), (0xFE16, 0xFE16),
    (0xFE19, 0xFE19), (0xFE30, 0xFE30), (0xFE37, 0xFE38), (0xFE47, 0xFE4C), (0xFE52, 0xFE52),
    (0xFE55, 0xFE56), (0xFE5B, 0xFE5C), (0xFE5F, 0xFE5F), (0xFE64, 0xFE65), (0xFE68, 0xFE68),
    (0xFE6A, 0xFE70), (0xFE72, 0xFE72), (0xFE74, 0xFE76), (0xFE78, 0xFE78), (0xFE7A, 0xFE7A),
    (0xFE7C, 0xFE7C), (0xFE7E, 0xFE7E), (0xFF02, 0xFF03), (0xFF05, 0xFF05), (0xFF0F, 0xFF0F),
    (0xFF1A, 0xFF1A), (0xFF1C, 0xFF1C), (0xFF1E, 0xFF20), (0xFF3B, 0xFF3E), (0xFF40, 0xFF40),
    (0xFF5B, 0xFF5D), (0xFFE3, 0xFFE3), (0xFFFC, 0xFFFD), (0x1F100, 0x1F100)]

/-- Code points that count for nothing. -/
def ignored : List (Nat × Nat) :=
  [(0xAD, 0xAD), (0x34F, 0x34F), (0x115F, 0x1160), (0x17B4, 0x17B5), (0x180B, 0x180F),
    (0x200B, 0x200B), (0x2060, 0x2064), (0x206A, 0x206F), (0x3164, 0x3164), (0xFE00, 0xFE0F),
    (0xFEFF, 0xFEFF), (0xFFA0, 0xFFA0), (0x1BCA0, 0x1BCA3), (0x1D173, 0x1D17A), (0xE0020, 0xE007F),
    (0xE0100, 0xE01EF)]

/-- A code point that counts as a dot. -/
def isDot (code : Nat) : Bool := code == 0x3002 || code == 0xFF0E || code == 0xFF61

/-- A character that makes letters join, or keeps them from it, and shows nothing. -/
def isJoiner (c : Char) : Bool := c == '\u200C' || c == '\u200D'

/-- What a character counts as, unless no name has it. -/
def counted? (c : Char) : Option (List Char) :=
  if liesIn c.toNat ignored then some []
  else if isDot c.toNat then some ['.']
  else if isJoiner c then some [c]
  else if isDelimiter c || !Text.isPrintable c || liesIn c.toNat refused then none
  else some (Text.fold c)

def countedName? (name : List Char) : Option (List Char) :=
  (name.mapM counted?).map fun pieces => Text.compose pieces.flatten

/-! ## Joiners -/

/-- A mark that takes the vowel from the letter before it. -/
def isVirama (c : Char) : Bool := Text.combiningClass c.toNat = 9

/-- A character that leaves the joining of those around it as it is. -/
def isTransparent (c : Char) : Bool :=
  Text.isNonspacingMark c || liesIn c.toNat Text.joinsThrough

/-- Whether the letters before a place, the last one first, join what comes next. -/
def joinsNext (before : List Char) : Bool :=
  (before.dropWhile isTransparent).head?.any fun c =>
    liesIn c.toNat Text.joinsBothSides || liesIn c.toNat Text.joinsBehind

/-- Whether the letters behind a place join what comes before them. -/
def joinsPrevious (behind : List Char) : Bool :=
  (behind.dropWhile isTransparent).head?.any fun c =>
    liesIn c.toNat Text.joinsBothSides || liesIn c.toNat Text.joinsBefore

/-- Whether each joiner stands behind a virama, or parts letters that would join. The characters
`before` come last first. -/
def joinersFit (before : List Char) : List Char → Bool
  | [] => true
  | c :: rest =>
    (!isJoiner c || before.head?.any isVirama ||
      (c == '\u200C' && joinsNext before && joinsPrevious rest)) && joinersFit (c :: before) rest

/-! ## Directions -/

/-- Whether a label runs in one direction: it begins with a letter, ends in a letter of the same
direction or a digit, marks apart, and has digits of one kind at most if it runs from right to
left. -/
def isDirected (label : List Char) : Bool :=
  match label.map Text.direction with
  | [] => true
  | first :: others =>
    let others := (others.reverse.dropWhile (· == .mark)).reverse
    let last := others.getLastD first
    match first with
    | .leftToRight =>
      (last == .leftToRight || last == .europeanNumber) &&
        !others.contains .rightToLeft && !others.contains .arabicNumber
    | .rightToLeft =>
      (last == .rightToLeft || last == .europeanNumber || last == .arabicNumber) &&
        !others.contains .leftToRight &&
          !(others.contains .europeanNumber && others.contains .arabicNumber)
    | _ => false

/-- A character by which the directions in a name come to matter. -/
def isRightToLeft (c : Char) : Bool :=
  Text.direction c == .rightToLeft || Text.direction c == .arabicNumber

/-! ## Labels -/

/-- The characters that a label in another script than Latin can have at most. -/
def maxLabel : Nat := 1000

/-- The characters that the code of a label can have at most. -/
def maxCode : Nat := 2000

/-- Whether a text is in the form in which it counts. -/
def isCounted (text : List Char) : Bool :=
  text.all (fun c => counted? c == some [c] && (isJoiner c || Text.isFolded c)) &&
    Text.compose text == text

/-- The text that a code behind `xn--` stands for. -/
def decoded? (code : List Char) : Option (List Char) :=
  if code.isEmpty || code.getLast? = some '-' || maxCode < code.length then none
  else
    (Text.Punycode.decode? code).filter fun text =>
      text.any (fun c => 0x80 ≤ c.toNat) && isCounted text

def labelText? (label : List Char) : Option (List Char) :=
  (match label with
    | 'x' :: 'n' :: '-' :: '-' :: code => decoded? code
    | _ => some label).filter fun text =>
      text.all (fun c => c.toNat < 0x80) || text.length ≤ maxLabel

/-- Whether a label may stand in a name of labels in one direction. -/
def isOrderly (label : List Char) : Bool :=
  !label.head?.any Text.isMark && joinersFit [] label

/-- Whether labels make up a name that is well formed. -/
def isWellFormed (name : List Char) : Bool :=
  match (splitOn '.' name).mapM labelText? with
  | none => false
  | some labels =>
    labels.all isOrderly && (!labels.flatten.any isRightToLeft || labels.all isDirected)

end ReleaseFeed.HostName
