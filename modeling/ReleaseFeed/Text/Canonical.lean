import ReleaseFeed.Text.CodePoint
import ReleaseFeed.Text.CodePoint.Composition
import ReleaseFeed.Text.CodePoint.Marks

namespace ReleaseFeed.Text

/-- The place that a mark takes among the marks of a base; zero for what is no such mark. -/
def combiningClass (code : Nat) : Nat :=
  ((combiningClasses.find? fun (first, last, _) => first ≤ code && code ≤ last).map (·.2.2)).getD 0

/-! ## Syllables of Hangul -/

/-- The first syllable; the last consonant changes fastest, then the vowel. -/
def firstSyllable : Nat := 0xAC00

/-- The number of last consonants, where none counts for one. -/
def finals : Nat := 28

def syllablesPerInitial : Nat := 21 * finals

/-- The syllable that a consonant and a vowel make up, or an open syllable and a consonant. -/
def syllable? (base behind : Nat) : Option Nat :=
  if 0x1100 ≤ base ∧ base ≤ 0x1112 ∧ 0x1161 ≤ behind ∧ behind ≤ 0x1175 then
    some (firstSyllable + (base - 0x1100) * syllablesPerInitial + (behind - 0x1161) * finals)
  else if firstSyllable ≤ base ∧ base ≤ 0xD7A3 ∧ (base - firstSyllable) % finals = 0 ∧
      0x11A7 < behind ∧ behind ≤ 0x11C2 then
    some (base + (behind - 0x11A7))
  else none

def syllableParts (code : Nat) : Nat × Nat :=
  let index := code - firstSyllable
  if index % finals = 0 then
    (0x1100 + index / syllablesPerInitial, 0x1161 + index % syllablesPerInitial / finals)
  else (code - index % finals, 0x11A7 + index % finals)

/-! ## Taking apart and joining -/

/-- The code point that a base and what stands behind it make up. -/
def composed? (base behind : Nat) : Option Nat :=
  (syllable? base behind).or
    ((compositions.find? fun (first, second, _) => first = base && second = behind).map (·.2.2))

/-- The base of a code point and what stands behind it. -/
def parts? (code : Nat) : Option (Nat × Nat) :=
  if firstSyllable ≤ code ∧ code ≤ 0xD7A3 then some (syllableParts code)
  else (compositions.find? fun (_, _, whole) => whole = code).map
    fun (first, second, _) => (first, second)

/-- The number of times that a base can have a base of its own. -/
def maxDepth : Nat := 3

/-- A code point taken apart a number of times. -/
def takeApart : Nat → Nat → List Nat
  | 0, code => [code]
  | depth + 1, code =>
    match parts? code with
    | some (base, behind) => takeApart depth base ++ [behind]
    | none => [code]

/-- Puts a code point in front of a text, behind the marks that have to stand ahead of it. -/
def insertMark (code : Nat) : List Nat → List Nat
  | [] => [code]
  | next :: rest =>
    if combiningClass next ≠ 0 ∧ combiningClass next < combiningClass code then
      next :: insertMark code rest
    else code :: next :: rest

/-- A text in which the marks of each base are in order. -/
def orderMarks (text : List Nat) : List Nat := text.foldr insertMark []

/-- Joins what follows to a base. Of the marks that stay, the last of which comes first in `held`,
none may keep the next one from the base. -/
def joinTo (base : Nat) (held : List Nat) : List Nat → List Nat
  | [] => base :: held.reverse
  | code :: rest =>
    let isNext := held.head?.all (fun last => combiningClass last < combiningClass code)
    match if isNext then composed? base code else none with
    | some whole => joinTo whole held rest
    | none =>
      if combiningClass code = 0 then base :: held.reverse ++ joinTo code [] rest
      else joinTo base (code :: held) rest

def compose (text : List Char) : List Char :=
  match orderMarks (text.flatMap (fun c => takeApart maxDepth c.toNat)) with
  | [] => []
  | first :: rest => (joinTo first [] rest).map Char.ofNat

end ReleaseFeed.Text
