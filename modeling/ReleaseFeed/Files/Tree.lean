import ReleaseFeed.Files.Path
import ReleaseFeed.System.Error
/-!
Files and directories below one root, as far as the program reads and changes them. Each file has a
number of its own, by which it stays known when its name is removed.
-/
namespace ReleaseFeed.Files

/-- The names from the root down to a place. -/
abbrev Location := List Name

/-- What stands at a place. A pipe can be read, but yields nothing and takes its time. -/
inductive Node where
  | directory
  | file (id : Nat) (content : List UInt8)
  | pipe
deriving DecidableEq

def Node.modifyFile (id : Nat) (change : List UInt8 → List UInt8) : Node → Node
  | .file other content => .file other (if other = id then change content else content)
  | node => node

/-- All places that hold something, apart from the root, and the directory that relative paths
start from. -/
structure Tree where
  entries : List (Location × Node)
  current : Location
  nextId : Nat
deriving DecidableEq

def notFound : SystemError := ⟨.notFound, "No such file or directory (os error 2)"⟩

def alreadyExists : SystemError := ⟨.alreadyExists, "File exists (os error 17)"⟩

def notADirectory : SystemError := ⟨.notADirectory, "Not a directory (os error 20)"⟩

def isADirectory : SystemError := ⟨.isADirectory, "Is a directory (os error 21)"⟩

/-- A path or one of its names has too many bytes. -/
def nameTooLong : SystemError := ⟨.invalidFilename, "File name too long (os error 36)"⟩

def nullInPath : SystemError :=
  ⟨.invalidInput, "file name contained an unexpected NUL byte"⟩

def byteLength (text : List Char) : Nat := text.foldl (fun length c => length + c.utf8Size) 0

def maxNameBytes : Nat := 255

def maxPathBytes : Nat := 4095

namespace Tree

def empty : Tree := ⟨[], [], 0⟩

def node? (tree : Tree) (location : Location) : Option Node :=
  if location.isEmpty then some .directory else tree.entries.lookup location

/-- The place that a name leads to from a directory. -/
def enter (location : Location) (name : Name) : Location :=
  if name = selfName then location
  else if name = parentName then location.dropLast
  else location ++ [name]

/-- The place that names lead to. All but the last have to name directories; at the last there may
be nothing. -/
def walk (tree : Tree) (location : Location) : List Name → Except SystemError Location
  | [] => .ok location
  | name :: rest =>
    match tree.node? location with
    | none => .error notFound
    | some .directory =>
      if maxNameBytes < byteLength name then .error nameTooLong
      else tree.walk (enter location name) rest
    | some _ => .error notADirectory

def start (tree : Tree) (path : Path) : Location :=
  if path.isAbsolute then [] else tree.current

def resolve (tree : Tree) (path : Path) : Except SystemError Location :=
  if path.contains '\x00' then .error nullInPath
  else if path.isEmpty then .error notFound
  else if maxPathBytes < byteLength path then .error nameTooLong
  else tree.walk (tree.start path) path.names

def find (tree : Tree) (path : Path) : Except SystemError Node := do
  match tree.node? (← tree.resolve path) with
  | some node => return node
  | none => throw notFound

def contains (tree : Tree) (path : Path) : Bool := (tree.find path).toOption.isSome

def isDirectory (tree : Tree) (path : Path) : Bool :=
  (tree.find path).toOption == some .directory

def isPipe (tree : Tree) (path : Path) : Bool := (tree.find path).toOption == some .pipe

def read (tree : Tree) (path : Path) : Except SystemError (List UInt8) := do
  match ← tree.find path with
  | .file _ content => return content
  | .pipe => return []
  | .directory => throw isADirectory

/-- Puts something at a place that holds nothing. -/
def put (tree : Tree) (location : Location) (node : Node) : Tree :=
  { tree with entries := tree.entries ++ [(location, node)] }

/-- Puts a new file at a place that holds nothing. -/
def putFile (tree : Tree) (location : Location) (content : List UInt8) : Tree :=
  { tree.put location (.file tree.nextId content) with nextId := tree.nextId + 1 }

/-- Changes the content of the file with a number, wherever it stands. -/
def modifyFile (tree : Tree) (id : Nat) (change : List UInt8 → List UInt8) : Tree :=
  { tree with
    entries := tree.entries.map fun (location, node) => (location, node.modifyFile id change) }

/-- Makes the directories that names lead through, as far as they are missing. -/
def makeAlong (tree : Tree) (location : Location) : List Name → Except SystemError Tree
  | [] => .ok tree
  | name :: rest =>
    match tree.node? (enter location name) with
    | some .directory => tree.makeAlong (enter location name) rest
    | some _ => .error (if rest.isEmpty then alreadyExists else notADirectory)
    | none => (tree.put (enter location name) .directory).makeAlong (enter location name) rest

/-- Makes a directory and the ones above it, as far as they are missing. -/
def makeDirectories (tree : Tree) (path : Path) : Except SystemError Tree :=
  if path.isEmpty then .ok tree else tree.makeAlong (tree.start path) path.names

/-- Opens a file for writing, and makes it if there is none. -/
def openFile (tree : Tree) (path : Path) : Except SystemError (Nat × Tree) := do
  let location ← tree.resolve path
  match tree.node? location with
  | some (.file id _) => return (id, tree)
  | some .pipe => return (tree.nextId, tree)
  | some .directory => throw isADirectory
  | none => return (tree.nextId, tree.putFile location [])

/-- Adds bytes to the end of the file with a number; they are lost if it has no name any more. -/
def append (tree : Tree) (id : Nat) (bytes : List UInt8) : Tree :=
  tree.modifyFile id (· ++ bytes)

/-- Replaces the content of a file, and makes it if there is none. -/
def write (tree : Tree) (path : Path) (content : List UInt8) : Except SystemError Tree := do
  let (id, tree) ← tree.openFile path
  return tree.modifyFile id fun _ => content

/-- Puts a file where a path leads to, below directories that are made as needed. -/
def plant (tree : Tree) (path : Path) (content : List UInt8) : Except SystemError Tree := do
  let tree ← tree.makeDirectories path.parent
  tree.write path content

/-- Puts a pipe where a path leads to, below directories that are made as needed. -/
def plantPipe (tree : Tree) (path : Path) : Except SystemError Tree := do
  let tree ← tree.makeDirectories path.parent
  return tree.put (← tree.resolve path) .pipe

/-- Removes what stands at a place and everything below it. -/
def remove (tree : Tree) (location : Location) : Tree :=
  { tree with entries := tree.entries.filter fun (other, _) => !location.isPrefixOf other }

end Tree
end ReleaseFeed.Files
