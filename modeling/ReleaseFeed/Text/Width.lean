import ReleaseFeed.Text.CodePoint
/-!
Display width in terminal columns, of one character and of a whole text. The width of a text is
not always the sum over its characters: a variation selector, a joiner, a flag or a ligature
changes what the characters before it take. A text is therefore measured from its end, and each
character is measured knowing what stands ahead of it.
-/
namespace ReleaseFeed.Text

/-- What follows a character, as far as it changes the width of the whole. -/
inductive Shape where
  | plain
  | lineFeed
  /-- An emoji shown two columns wide. -/
  | emoji
  | emojiModifier
  | flagHalf
  | flagHalves
  /-- A zero width joiner with an emoji after it. -/
  | joinedEmoji
  /-- An enclosing keycap ahead of a joined emoji. -/
  | joinedKeycap
  | joinedFlagHalf
  | joinedFlagEven
  | joinedFlagOdd
  /-- The end of a tag sequence ahead of a joined emoji, with this many tag letters read. -/
  | joinedTagLetters (count : Nat)
  /-- The same with this many tag digits read ahead of the letters. -/
  | joinedTagDigits (count : Nat)
  | kiratRaiE
  | kiratRaiAi
  | alef
  | lamed
  | joinedLamed
  | ya
  | joinedYa
  | yaAfterVowel
  | tifinagh
  | joinedTifinagh
  | tifinaghAfterJoiner
  | lisuTone
  | orkhonI
  | joinedOrkhonI
  | khmerLetter
deriving DecidableEq

/-- The look that a variation selector asks of the character before it. -/
inductive Style where
  | text
  | emoji
deriving DecidableEq

/-- What stands ahead of a character: a shape, and selectors that wait for their base. One of them
asks a quotation mark to be wide. -/
structure Ahead where
  shape : Shape
  style : Option Style
  widens : Bool
deriving DecidableEq

namespace Shape

/-- A letter that may join the one before it in a ligature of any script. -/
def formsLigature : Shape → Bool
  | alef | lamed | joinedLamed | ya | joinedYa | yaAfterVowel | tifinagh | joinedTifinagh
  | tifinaghAfterJoiner | lisuTone | orkhonI | joinedOrkhonI | khmerLetter => true
  | _ => false

/-- A ligature that ignorable marks and joiners do not disturb. -/
def toleratesMarks (shape : Shape) : Bool := shape.formsLigature && shape != alef

/-- The shape with a zero width joiner put in front. -/
def join : Shape → Shape
  | lamed => joinedLamed
  | ya => joinedYa
  | tifinagh => joinedTifinagh
  | orkhonI => joinedOrkhonI
  | shape => shape

end Shape

namespace Ahead

def plain : Ahead := ⟨.plain, none, false⟩

def ofShape (shape : Shape) : Ahead := ⟨shape, none, false⟩

/-- Puts a variation selector in front; a shape that it separates from its base is forgotten. -/
def select (ahead : Ahead) (style : Style) : Ahead :=
  let joined := ahead.shape == .joinedEmoji || ahead.shape == .joinedKeycap
  if ahead.shape.formsLigature || (style == .emoji && joined && ahead.style != some .emoji) then
    { ahead with style := some style }
  else { plain with style := some style }

/-- Drops the selector of a look. -/
def unselect (ahead : Ahead) : Ahead :=
  if ahead.shape.formsLigature then { ahead with style := none } else plain

/-- Drops a selector of one look whose base does not answer to it. -/
def ignore (ahead : Ahead) (style : Style) : Ahead :=
  if ahead.style == some style then ahead.unselect else ahead

/-- Puts the selector in front that asks a quotation mark to be wide. -/
def widen (ahead : Ahead) : Ahead := { ahead.unselect with widens := true }

/-- Drops the selector for quotation marks where there is none. -/
def unwiden (ahead : Ahead) : Ahead := { ahead with widens := false }

end Ahead

/-- A quotation mark that a selector can make wide. -/
def isCurlyQuote (c : Char) : Bool :=
  c == '\u2018' || c == '\u2019' || c == '\u201C' || c == '\u201D'

/-- The Tifinagh consonant joiner, a mark that shows as itself where it joins nothing. -/
def isTifinaghJoiner (c : Char) : Bool := c.toNat == 0x2D7F

def isZeroWidth (c : Char) : Bool :=
  (isGraphemeExtend c && !isTifinaghJoiner c) || liesIn c.toNat otherZeroWidth

def isTifinaghConsonant (c : Char) : Bool :=
  (0x2D31 ≤ c.toNat && c.toNat ≤ 0x2D65) || c.toNat == 0x2D6F

def isArabicLam (c : Char) : Bool :=
  liesIn c.toNat [(0x644, 0x644), (0x6B5, 0x6B8), (0x76A, 0x76A), (0x8A6, 0x8A6), (0x8C7, 0x8C7)]

def isArabicAlef (c : Char) : Bool :=
  liesIn c.toNat [(0x622, 0x623), (0x625, 0x625), (0x627, 0x627), (0x671, 0x673), (0x675, 0x675),
    (0x773, 0x774), (0x870, 0x882)]

/-- A Khmer letter that a coeng sign turns into a subscript. -/
def isKhmerLetter (c : Char) : Bool :=
  liesIn c.toNat [(0x1780, 0x1782), (0x1784, 0x1787), (0x1789, 0x178C), (0x178E, 0x1793),
    (0x1795, 0x1798), (0x179B, 0x179D), (0x17A0, 0x17A0), (0x17A2, 0x17A2), (0x17A7, 0x17A7),
    (0x17AB, 0x17AC), (0x17AF, 0x17AF)]

/-- A combining mark that is ignored by default. -/
def isIgnorableMark (c : Char) : Bool :=
  liesIn c.toNat [(0x34F, 0x34F), (0x17B4, 0x17B5), (0x180B, 0x180D), (0x180F, 0x180F),
    (0xFE00, 0xFE0F), (0xE0100, 0xE01EF)]

/-- A zero-width character through which Arabic letters still join. -/
def isJoiningTransparent (c : Char) : Bool := isZeroWidth c && !liesIn c.toNat joiningOpaque

def isRegionalIndicator (c : Char) : Bool := 0x1F1E6 ≤ c.toNat && c.toNat ≤ 0x1F1FF

/-- A skin tone modifier. -/
def isEmojiModifier (c : Char) : Bool := 0x1F3FB ≤ c.toNat && c.toNat ≤ 0x1F3FF

/-- The columns of a character that stands alone, controls counted as one. -/
def soloWidth (c : Char) : Nat :=
  if c.toNat < 0xA0 then 1
  else if c.toNat == 0x115F then 2
  else if isZeroWidth c then 0
  else if c.toNat == 0x17D8 then 3
  else if c.toNat == 0x17A4 || liesIn c.toNat wide then 2
  else 1

/-- The columns of a single character; a control has none. -/
def charWidth? (c : Char) : Option Nat := if isControl c then none else some (soloWidth c)

/-- The columns of a single character, none for a control. -/
def charWidth (c : Char) : Nat := (charWidth? c).getD 0

/-- The shape that a character shows to the one before it. -/
def shapeOf (c : Char) : Shape :=
  match c.toNat with
  | 0x5DC => .lamed
  | 0x1A10 => .ya
  | 0xA4FC => .lisuTone
  | 0xA4FD => .lisuTone
  | 0x10C03 => .orkhonI
  | 0x16D67 => .kiratRaiE
  | 0x16D68 => .kiratRaiAi
  | _ =>
    if isArabicAlef c then .alef
    else if isKhmerLetter c then .khmerLetter
    else if isTifinaghConsonant c then .tifinagh
    else if isRegionalIndicator c then .flagHalf
    else if isEmojiModifier c then .emojiModifier
    else if liesIn c.toNat emojiPresentation then .emoji
    else .plain

/-- A tag letter, `a` to `z`. -/
def isTagLetter (c : Char) : Bool := 0xE0061 ≤ c.toNat && c.toNat ≤ 0xE007A

/-- A tag digit, `0` to `9`. -/
def isTagDigit (c : Char) : Bool := 0xE0030 ≤ c.toNat && c.toNat ≤ 0xE0039

/-- What a character adds ahead of a tag sequence that belongs to a joined emoji. -/
def measureTag? (c : Char) : Shape → Option (Int × Shape)
  | .joinedTagLetters count =>
    if isTagLetter c && count < 6 then some (0, .joinedTagLetters (count + 1))
    else if isTagDigit c && count < 5 then some (0, .joinedTagDigits 1)
    else if c.toNat == 0x1F3F4 && 3 ≤ count then some (0, .emoji)
    else none
  | .joinedTagDigits count =>
    if isTagDigit c && count < 3 then some (0, .joinedTagDigits (count + 1))
    else if c.toNat == 0x1F3F4 && count == 3 then some (0, .emoji)
    else none
  | _ => none

/-- What a character adds ahead of an emoji sequence, if it belongs to it. -/
def measureEmoji? (c : Char) : Shape → Option (Int × Shape)
  | .emojiModifier =>
    if liesIn c.toNat emojiModifierBase then some (0, .emoji)
    else if c.toNat == 0x200D then some (0, .joinedEmoji)
    else none
  | .emoji => if c.toNat == 0x200D then some (0, .joinedEmoji) else none
  | .flagHalf => if isRegionalIndicator c then some (1, .flagHalves) else none
  | .flagHalves =>
    if isRegionalIndicator c then some (1, .flagHalves)
    else if c.toNat == 0x200D then some (0, .joinedEmoji)
    else none
  | .joinedFlagHalf => if isRegionalIndicator c then some (-1, .joinedFlagEven) else none
  | .joinedFlagOdd =>
    if isRegionalIndicator c then some (-1, .joinedFlagEven)
    else if c.toNat == 0x200D then some (0, .joinedEmoji)
    else none
  | .joinedFlagEven =>
    if isRegionalIndicator c then some (3, .joinedFlagOdd)
    else if c.toNat == 0x200D then some (0, .joinedEmoji)
    else none
  | .joinedEmoji =>
    if c.toNat == 0x20E3 then some (0, .joinedKeycap)
    else if isRegionalIndicator c then some (1, .joinedFlagHalf)
    else if isEmojiModifier c then some (0, .emojiModifier)
    else if c.toNat == 0xE007F then some (0, .joinedTagLetters 0)
    else if shapeOf c == .emoji then some (0, .emoji)
    else none
  | shape => measureTag? c shape

/-- What a character adds ahead of a letter that it forms a ligature with. -/
def measureLigature? (c : Char) : Shape → Option (Int × Shape)
  | .alef =>
    if isArabicLam c then some (0, .plain)
    else if isJoiningTransparent c then some (0, .alef)
    else none
  | .joinedLamed => if c.toNat == 0x5D0 then some (0, .plain) else none
  | .khmerLetter => if c.toNat == 0x17D2 then some (-1, .plain) else none
  | .joinedYa => if c.toNat == 0x1A17 then some (0, .yaAfterVowel) else none
  | .yaAfterVowel => if c.toNat == 0x1A15 then some (0, .plain) else none
  | .tifinagh => if isTifinaghJoiner c then some (1, .tifinaghAfterJoiner) else none
  | .joinedTifinagh =>
    if isTifinaghJoiner c then some (1, .tifinaghAfterJoiner)
    else if isTifinaghConsonant c then some (0, .plain)
    else none
  | .tifinaghAfterJoiner => if isTifinaghConsonant c then some (-1, .plain) else none
  | .lisuTone => if 0xA4F8 ≤ c.toNat && c.toNat ≤ 0xA4FB then some (0, .plain) else none
  | .joinedOrkhonI => if c.toNat == 0x10C32 then some (0, .plain) else none
  | .kiratRaiE =>
    match c.toNat with
    | 0x16D63 => some (0, .plain)
    | 0x16D67 => some (0, .kiratRaiAi)
    | 0x16D68 => some (1, .kiratRaiE)
    | 0x16D69 => some (0, .plain)
    | _ => none
  | .kiratRaiAi => if c.toNat == 0x16D63 then some (0, .plain) else none
  | _ => none

/-- What `measure` tells of a character that no selector waits for. -/
def measureShaped (c : Char) (ahead : Ahead) : Int × Ahead :=
  if ahead.shape.toleratesMarks && c.toNat == 0x200D then (0, .ofShape ahead.shape.join)
  else if ahead.shape.toleratesMarks && isIgnorableMark c then (0, ahead)
  else
    match (measureEmoji? c ahead.shape).or (measureLigature? c ahead.shape) with
    | some (columns, shape) => (columns, .ofShape shape)
    | none => (soloWidth c, .ofShape (shapeOf c))

/-- What `measure` tells of a character that does not answer to a selector of its look. -/
def measureUnselected (c : Char) (ahead : Ahead) : Int × Ahead :=
  if ahead.widens && isCurlyQuote c then (2, .plain) else measureShaped c ahead.unwiden

/-- What `measure` tells of a character up to U+00A0, none of which joins what stands ahead of it
but a carriage return. -/
def measureLatin (c : Char) (ahead : Ahead) : Int × Ahead :=
  if c == '\n' then (1, .ofShape .lineFeed)
  else if c == '\r' && ahead.shape == .lineFeed then (0, .plain)
  else (1, .plain)

/-- What `measure` tells of a character that is not shown as an emoji. -/
def measureUnstyled (c : Char) (ahead : Ahead) : Int × Ahead :=
  if c.toNat ≤ 0xA0 then measureLatin c ahead
  else if c.toNat == 0xFE0F then (0, ahead.select .emoji)
  else if c.toNat == 0xFE0E then (0, ahead.select .text)
  else if c.toNat == 0xFE01 then (0, ahead.widen)
  else if ahead.style == some .text && liesIn c.toNat textStyled then (1, .plain)
  else measureUnselected c (ahead.ignore .text)

/-- The columns that a character adds to what stands ahead of it, and what both show together. -/
def measure (c : Char) (ahead : Ahead) : Int × Ahead :=
  if ahead.style == some .emoji && liesIn c.toNat emojiStyled then
    let joined := ahead.shape == .joinedEmoji || ahead.shape == .joinedKeycap
    (if joined then 0 else 2, .ofShape .emoji)
  else measureUnstyled c (ahead.ignore .emoji)

/-- The columns of a text together with what its start shows to a character before it. -/
def measureAll (text : List Char) : Int × Ahead :=
  text.foldr (fun c measured =>
    let (columns, ahead) := measure c measured.2
    (measured.1 + columns, ahead)) (0, .plain)

/-- The columns that a text takes on a terminal. -/
def width (text : List Char) : Nat := (measureAll text).1.toNat

end ReleaseFeed.Text
