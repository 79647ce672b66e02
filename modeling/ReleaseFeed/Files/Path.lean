import ReleaseFeed.Text.Split
/-!
Paths as they are written: names between slashes. A path that starts with a slash is absolute, and
one that ends with a slash means a directory.
-/
namespace ReleaseFeed.Files

abbrev Path := List Char

abbrev Name := List Char

def selfName : Name := ['.']

/-- The name of a directory for the one that holds it. -/
def parentName : Name := ['.', '.']

namespace Path

def isAbsolute (path : Path) : Bool := path.head? == some '/'

/-- A path inside another one. An absolute path stands for itself. -/
def join (base path : Path) : Path :=
  if isAbsolute path then path
  else if base.isEmpty || base.getLast? == some '/' then base ++ path
  else base ++ '/' :: path

/-- The names of a path. A slash at the end asks for the directory itself. -/
def names (path : Path) : List Name :=
  let pieces := Text.splitOn '/' path
  let last := pieces.getLastD []
  pieces.dropLast.filter (fun piece => !piece.isEmpty) ++ [if last.isEmpty then selfName else last]

/-- A path without the slashes at its end; of the root one slash is left. -/
def withoutEnd (path : Path) : Path :=
  match path.reverse.dropWhile (· == '/') with
  | [] => path.take 1
  | rest => rest.reverse

def parent (path : Path) : Path :=
  withoutEnd ((withoutEnd path).reverse.dropWhile (· != '/')).reverse

end Path
end ReleaseFeed.Files
