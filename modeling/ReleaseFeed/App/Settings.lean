import ReleaseFeed.App.Paths
import ReleaseFeed.Json.Record
import ReleaseFeed.Text.Utf8
/-!
The settings of the program. They are read from a file, in which each of them may be left out; a
file that cannot be read as a whole counts for nothing.
-/
namespace ReleaseFeed

open Files (Path Tree)
open Json (Schema)

structure Settings where
  endpoint : String
  channel : String
  currentVersion : Option String
  httpTimeoutSecs : Nat
  wrapWidth : Nat
  debugLogging : Bool
  maxLogSizeBytes : Nat
  waitTimeoutSecs : Nat
deriving DecidableEq

namespace Settings

def default : Settings where
  endpoint := "https://updates.updinfo.dev/info.json"
  channel := "stable"
  currentVersion := none
  httpTimeoutSecs := 10
  wrapWidth := 80
  debugLogging := false
  maxLogSizeBytes := 5 * 1024 * 1024
  waitTimeoutSecs := 30

def schema : Schema Settings where
  title := "struct Settings"
  members := [
    .of "endpoint" false Json.string fun settings endpoint => { settings with endpoint },
    .of "channel" false Json.string fun settings channel => { settings with channel },
    .of "current_version" false (Json.optional Json.string)
      fun settings currentVersion => { settings with currentVersion },
    .of "http_timeout_secs" false (Json.natural "u64")
      fun settings httpTimeoutSecs => { settings with httpTimeoutSecs },
    .of "wrap_width" false (Json.natural "usize")
      fun settings wrapWidth => { settings with wrapWidth },
    .of "debug_logging" false Json.boolean
      fun settings debugLogging => { settings with debugLogging },
    .of "max_log_size_bytes" false (Json.natural "u64")
      fun settings maxLogSizeBytes => { settings with maxLogSizeBytes },
    .of "wait_timeout_secs" false (Json.natural "u64")
      fun settings waitTimeoutSecs => { settings with waitTimeoutSecs }]
  blank := default

/-- Why a settings file counts for nothing. -/
inductive LoadError where
  | unreadable (message : String)
  | invalid (message : String)
deriving DecidableEq

/-- What is logged about a settings file that counts for nothing. -/
def LoadError.record (path : Path) : LoadError → LogRecord
  | .unreadable message =>
    ⟨.warn, "Could not read settings file " ++ String.ofList path ++ ": " ++ message⟩
  | .invalid message =>
    ⟨.warn, "Ignoring invalid settings file " ++ String.ofList path ++ ": " ++ message⟩

def parse (content : List UInt8) : Except LoadError Settings :=
  if (Text.Utf8.decode? content).isNone then
    .error (.unreadable "stream did not contain valid UTF-8")
  else
    match Json.document schema.read content with
    | .ok settings => .ok settings
    | .error fault => .error (.invalid (fault.cause.messageAt (fault.place content)))

/-- Reads settings from a file; a file that is not there leaves the default ones. -/
def ofFile (path : Path) (tree : Tree) : Except LoadError Settings :=
  if tree.contains path then
    match tree.read path with
    | .ok content => parse content
    | .error error => .error (.unreadable error.message)
  else .ok default

/-- The settings that the program starts with, and what is logged about their file. -/
def load (paths : AppPaths) (tree : Tree) : Settings × List LogRecord :=
  match ofFile paths.settingsFile tree with
  | .ok settings => (settings, [])
  | .error error => (default, [error.record paths.settingsFile])

def describe (settings : Settings) : String :=
  let text (value : String) : String := String.ofList (Text.quoted value.toList)
  let version := match settings.currentVersion with
    | some value => "Some(" ++ text value ++ ")"
    | none => "None"
  "Settings \x7b endpoint: " ++ text settings.endpoint ++ ", channel: " ++ text settings.channel ++
    ", current_version: " ++ version ++
    ", http_timeout_secs: " ++ toString settings.httpTimeoutSecs ++
    ", wrap_width: " ++ toString settings.wrapWidth ++
    ", debug_logging: " ++ (if settings.debugLogging then "true" else "false") ++
    ", max_log_size_bytes: " ++ toString settings.maxLogSizeBytes ++
    ", wait_timeout_secs: " ++ toString settings.waitTimeoutSecs ++ " \x7d"

end Settings
end ReleaseFeed
