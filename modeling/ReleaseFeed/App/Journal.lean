import ReleaseFeed.App.Paths
import ReleaseFeed.Log.Trim
import ReleaseFeed.Log.Writer
/-!
The log of one run. It begins with trimming what earlier runs left; records are written only if
logging is enabled and the log file could be opened.
-/
namespace ReleaseFeed.App

open Files (Path Tree)
open Log (Writer trim)

/-- The log of one run, with the records that were written in it so far. -/
structure Journal where
  writer : Option Writer
  isEnabled : Bool
  records : List LogRecord := []
deriving DecidableEq

namespace Journal

/-- Trims the log file, if it can be read and is above the limit. -/
def trimFile (path : Path) (limit : Nat) (tree : Tree) : Tree :=
  match tree.read path with
  | .ok content =>
    if content.length ≤ limit then tree
    else ((tree.write path (trim limit content)).toOption).getD tree
  | .error _ => tree

/-- The log file of the program, trimmed and opened. -/
def openIn (paths : AppPaths) (isEnabled : Bool) (limit : Nat) (tree : Tree) : Journal × Tree :=
  let tree := trimFile paths.logFile limit (paths.ensure tree).2
  match Writer.openAt paths.logFile tree with
  | .ok (writer, tree) => (⟨some writer, isEnabled, []⟩, tree)
  | .error _ => (⟨none, isEnabled, []⟩, tree)

def openingRecords (paths : AppPaths) (isEnabled : Bool) : List LogRecord :=
  if isEnabled then
    [⟨.info, "Debug logging initialized, log file: " ++ String.ofList paths.logFile⟩]
  else []

def level (isEnabled : Bool) : String := if isEnabled then LogLevel.debug.name else "OFF"

/-- A record as it is written, on lines of its own. -/
def bytesOf (record : LogRecord) : List UInt8 := (record.line ++ "\n").toUTF8.toList

/-- Writes a record; one that cannot be written is lost. -/
def add (journal : Journal) (tree : Tree) (record : LogRecord) : Journal × Tree :=
  match journal.writer with
  | none => (journal, tree)
  | some writer =>
    if !journal.isEnabled then (journal, tree)
    else
      match writer.write (bytesOf record) tree with
      | .ok (writer, tree) =>
        ({ journal with writer := some writer, records := journal.records ++ [record] }, tree)
      | .error _ => (journal, tree)

def addAll (journal : Journal) (tree : Tree) : List LogRecord → Journal × Tree
  | [] => (journal, tree)
  | record :: rest =>
    let (journal, tree) := journal.add tree record
    journal.addAll tree rest

end Journal
end ReleaseFeed.App
