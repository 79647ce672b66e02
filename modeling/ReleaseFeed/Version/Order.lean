import ReleaseFeed.Version.Basic

namespace ReleaseFeed

namespace Identifier

def isNumeric (identifier : Identifier) : Bool := identifier.all Char.isDigit

def value (identifier : Identifier) : Nat := Nat.ofDigitChars 10 identifier 0

/-- Numbers come before other identifiers and go by value, then by length, so that `1` is below
`01`; other identifiers go by their characters. -/
def compare (left right : Identifier) : Ordering :=
  match isNumeric left, isNumeric right with
  | true, true => (Ord.compare (value left) (value right)).then
      (Ord.compare left.length right.length)
  | true, false => .lt
  | false, true => .gt
  | false, false => List.compareLex Ord.compare left right

/-- Identifiers in turn; a list that runs out first is the lesser. -/
def compareLists (left right : List Identifier) : Ordering :=
  List.compareLex compare left right

end Identifier

namespace VersionNumber

/-- Pre-releases: any of them is below none at all. -/
def comparePre : List Identifier → List Identifier → Ordering
  | [], [] => .eq
  | [], _ :: _ => .gt
  | _ :: _, [] => .lt
  | left, right => Identifier.compareLists left right

def compare (left right : VersionNumber) : Ordering :=
  (Ord.compare left.major right.major).then <|
  (Ord.compare left.minor right.minor).then <|
  (Ord.compare left.patch right.patch).then <|
  (comparePre left.pre right.pre).then <|
  Identifier.compareLists left.build right.build

instance : Ord VersionNumber := ⟨compare⟩

def isNewerThan (number other : VersionNumber) : Bool := compare number other == .gt

end VersionNumber
end ReleaseFeed
