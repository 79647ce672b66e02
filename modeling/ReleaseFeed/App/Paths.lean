import ReleaseFeed.Files.Tree
import ReleaseFeed.Log.Record

namespace ReleaseFeed

open Files (Path Tree)

/-- A directory of the user that is not known. -/
inductive PathsError where
  | home
  | config
  | data
deriving DecidableEq

def PathsError.message : PathsError → String
  | .home => "Could not determine home directory"
  | .config => "Could not determine config directory"
  | .data => "Could not determine data directory"

structure Environment where
  home : Option Path
  configHome : Option Path
  dataHome : Option Path
  /-- The home directory of the user's account, which counts if `home` is not given. -/
  accountHome : Option Path
deriving DecidableEq

namespace Environment

def homeDirectory? (environment : Environment) : Option Path :=
  (environment.home.filter fun path => !path.isEmpty).or environment.accountHome

/-- A directory that was named as an absolute path, or else one below the home directory. -/
def directory? (environment : Environment) (named : Option Path) (below : Path) : Option Path :=
  (named.filter Path.isAbsolute).or (environment.homeDirectory?.map fun home => home.join below)

def configDirectory? (environment : Environment) : Option Path :=
  environment.directory? environment.configHome ".config".toList

def dataDirectory? (environment : Environment) : Option Path :=
  environment.directory? environment.dataHome ".local/share".toList

end Environment

/-- Where the program keeps its settings and its log. -/
structure AppPaths where
  configDirectory : Path
  dataDirectory : Path
deriving DecidableEq

namespace AppPaths

def ownName : Path := "updinfo".toList

def ofEnvironment (environment : Environment) : Except PathsError AppPaths :=
  match environment.configDirectory?, environment.dataDirectory? with
  | none, _ => .error .config
  | _, none => .error .data
  | some config, some data => .ok ⟨config.join ownName, data.join ownName⟩

def inDirectory (root : Path) : AppPaths := ⟨root.join "config".toList, root.join "data".toList⟩

def settingsFile (paths : AppPaths) : Path := paths.configDirectory.join "settings.json".toList

def logFile (paths : AppPaths) : Path := paths.dataDirectory.join "updinfo.log".toList

/-- Makes both directories, as far as they are missing; the first that cannot be made is told. -/
def ensure (paths : AppPaths) (tree : Tree) : Option SystemError × Tree :=
  match tree.makeDirectories paths.configDirectory with
  | .error error => (some error, tree)
  | .ok tree =>
    match tree.makeDirectories paths.dataDirectory with
    | .error error => (some error, tree)
    | .ok tree => (none, tree)

def ensureRecords (paths : AppPaths) : List LogRecord :=
  [⟨.debug, "Using config dir " ++ String.ofList paths.configDirectory ++ " and data dir " ++
    String.ofList paths.dataDirectory⟩]

end AppPaths
end ReleaseFeed
