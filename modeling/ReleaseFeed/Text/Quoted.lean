import ReleaseFeed.Text.CodePoint
/-!
A text in double quotes for messages. Quotes, backslashes and line controls are escaped by a
backslash; characters that show nothing, and marks that would join what stands before them, are
written by their code point.
-/
namespace ReleaseFeed.Text

/-- The code point of a character in hexadecimal, as in `\u{301}`. -/
def codePointEscape (c : Char) : List Char :=
  ['\\', 'u', '\x7b'] ++ Nat.toDigits 16 c.toNat ++ ['\x7d']

/-- A character as it stands between double quotes. -/
def escapeChar (c : Char) : List Char :=
  match c with
  | '\x00' => ['\\', '0']
  | '\t' => ['\\', 't']
  | '\r' => ['\\', 'r']
  | '\n' => ['\\', 'n']
  | '"' => ['\\', '"']
  | '\\' => ['\\', '\\']
  | c => if isGraphemeExtend c || !isPrintable c then codePointEscape c else [c]

def quoted (text : List Char) : List Char := '"' :: text.flatMap escapeChar ++ ['"']

end ReleaseFeed.Text
