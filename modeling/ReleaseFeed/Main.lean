import ReleaseFeed.App.Run
/-!
The program on a real machine. The files that a run may read are copied into a tree before it, and
the log is written back behind it. No server can be asked from here, so only files are fetched.
-/
open ReleaseFeed
open ReleaseFeed.App (World)
open ReleaseFeed.Files (Path Tree)

def readEnvironment : IO Environment := do
  let named (name : String) : IO (Option Path) := return (← IO.getEnv name).map String.toList
  return ⟨← named "HOME", ← named "XDG_CONFIG_HOME", ← named "XDG_DATA_HOME", none⟩

def readCurrent : IO Tree := do
  let path := (← IO.currentDir).toString.toList
  let tree : Tree := { Tree.empty with current := Path.names path }
  return (tree.makeDirectories path).toOption.getD tree

/-- A tree with a copy of one more file or directory of the machine. -/
def copyIn (tree : Tree) (path : Path) : IO Tree := do
  try
    let content ← IO.FS.readBinFile (String.ofList path)
    return (tree.plant path content.toList).toOption.getD tree
  catch
    | .inappropriateType .. => return (tree.makeDirectories path).toOption.getD tree
    | _ => return tree

/-- Writes the directories of the program and its log to the machine. -/
def copyOut (tree : Tree) (paths : AppPaths) : IO Unit := do
  for directory in [paths.configDirectory, paths.dataDirectory] do
    if tree.isDirectory directory then IO.FS.createDirAll (String.ofList directory)
  match tree.read paths.logFile with
  | .ok content =>
    IO.FS.writeBinFile (String.ofList paths.logFile) content.toByteArray
  | .error _ => pure ()

def runWith (arguments : Arguments) : IO UInt32 := do
  let environment ← readEnvironment
  let mut tree ← readCurrent
  let paths := (AppPaths.ofEnvironment environment).toOption
  if let some paths := paths then
    tree ← copyIn tree paths.settingsFile
    tree ← copyIn tree paths.logFile
    let settings := App.settingsFor arguments paths tree
    if let .ok path := (App.sourceOf settings).endpoint.path then
      unless path == paths.logFile do tree ← copyIn tree path
  let world : World :=
    ⟨environment, fun _ _ => .unanswered "no network", fun _ _ => true, tree, .unlimited⟩
  let finish := App.run arguments world
  if let some paths := paths then copyOut finish.tree paths
  (← IO.getStdout).write finish.sink.accepted.toByteArray
  if let some complaint := finish.result.complaint? then IO.eprintln complaint
  return .ofNat finish.result.exitCode

def main (arguments : List String) : IO UInt32 := do
  match Arguments.parse arguments with
  | .ok arguments => runWith arguments
  | .error error =>
    if error.exitCode = 0 then IO.println error.message else IO.eprintln error.message
    return .ofNat error.exitCode
