import ReleaseFeed.Files.Tree
/-!
Appending to a log file that may be removed in the meantime. Before each write the writer looks
whether its file is still there, and otherwise makes it anew together with the directories above.
-/
namespace ReleaseFeed.Log

open Files (Path Tree)

/-- A log file that is open for writing. -/
structure Writer where
  path : Path
  id : Nat
deriving DecidableEq

namespace Writer

/-- Opens a log file, and makes it if there is none. -/
def openAt (path : Path) (tree : Tree) : Except SystemError (Writer × Tree) := do
  let (id, tree) ← tree.openFile path
  return (⟨path, id⟩, tree)

/-- The writer after a look whether its file is still there. -/
def refresh (writer : Writer) (tree : Tree) : Except SystemError (Writer × Tree) :=
  if tree.contains writer.path then .ok (writer, tree)
  else do openAt writer.path (← tree.makeDirectories (Path.parent writer.path))

def write (bytes : List UInt8) (writer : Writer) (tree : Tree) :
    Except SystemError (Writer × Tree) := do
  let (writer, tree) ← writer.refresh tree
  return (writer, tree.append writer.id bytes)

/-- Makes sure that what was written can be read, and that the file is there. -/
def flush (writer : Writer) (tree : Tree) : Except SystemError (Writer × Tree) :=
  writer.refresh tree

end Writer
end ReleaseFeed.Log
