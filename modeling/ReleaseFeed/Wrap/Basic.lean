import ReleaseFeed.Text.Blank
import ReleaseFeed.Text.Width
/-!
Greedy word wrap on display width. Line breaks of the text are kept. The indentation of a line is
kept and repeated on its continuation lines while it is narrower than the room. Runs of blanks
behind the indentation become one space, and a word that does not fit a fresh line is cut.
-/
namespace ReleaseFeed.Wrap

open Text

/-- The indentation that starts every output line of one source line, and the room of a line. -/
structure Margin where
  indent : List Char
  room : Nat

/-- Finished lines, the last one first, and the line that is being filled. -/
structure Layout where
  finished : List (List Char)
  line : List Char
  column : Nat
  hasText : Bool

namespace Margin

/-- The column behind the indentation. -/
def column (margin : Margin) : Nat := width margin.indent

/-- A layout that holds only the indentation. -/
def start (margin : Margin) : Layout := ⟨[], margin.indent, margin.column, false⟩

/-- Finishes the line and starts the next one behind the indentation. -/
def breakLine (margin : Margin) (layout : Layout) : Layout :=
  ⟨layout.line :: layout.finished, margin.indent, margin.column, false⟩

/-- Puts one character of a cut word, on a fresh line if it does not fit behind other text. -/
def putChar (margin : Margin) (layout : Layout) (c : Char) : Layout :=
  let layout :=
    if layout.hasText && decide (margin.room < layout.column + charWidth c) then
      margin.breakLine layout
    else layout
  ⟨layout.finished, layout.line ++ [c], layout.column + charWidth c, true⟩

/-- Separates a word from the text before it: by a space if both fit, else by a line break. -/
def separate (margin : Margin) (layout : Layout) (word : List Char) : Layout :=
  if !layout.hasText then layout
  else if layout.column + 1 + width word ≤ margin.room then
    ⟨layout.finished, layout.line ++ [' '], layout.column + 1, true⟩
  else margin.breakLine layout

/-- Puts a word whole if it fits, else character by character. -/
def putWord (margin : Margin) (layout : Layout) (word : List Char) : Layout :=
  let layout := margin.separate layout word
  if layout.column + width word ≤ margin.room then
    ⟨layout.finished, layout.line ++ word, layout.column + width word, true⟩
  else word.foldl margin.putChar layout

end Margin

def Layout.lines (layout : Layout) : List (List Char) :=
  (layout.line :: layout.finished).reverse

/-- A line without the carriage return that may end it. -/
def dropReturn (line : List Char) : List Char :=
  if line.getLast? = some '\r' then line.dropLast else line

/-- The margin of a source line: its indentation if that leaves room, else none. -/
def marginOf (room : Nat) (line : List Char) : Margin :=
  let indent := line.takeWhile isBlank
  ⟨if width indent < room then indent else [], room⟩

/-- One source line as output lines; a blank one becomes one empty line. -/
def wrapLine (room : Nat) (line : List Char) : List (List Char) :=
  let body := trimStart (dropReturn line)
  if body.isEmpty then [[]]
  else
    let margin := marginOf room (dropReturn line)
    ((words body).foldl margin.putWord margin.start).lines

/-- Wraps a text to `room` columns; no room at all leaves the text as it is. -/
def wrapText (text : List Char) (room : Nat) : List Char :=
  if room = 0 then text
  else ['\n'].intercalate ((splitOn '\n' text).flatMap (wrapLine room))

end ReleaseFeed.Wrap
