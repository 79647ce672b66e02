import ReleaseFeed.Channel.Build
import ReleaseFeed.Wrap.Cache
/-!
The plain text that shows channels. A text is produced as the pieces that are handed to the output
one after the other. Labels are padded to a common width; a width beyond the limit of the padding
cuts the text off at the first label, and the printout is then incomplete.
-/
namespace ReleaseFeed.Report

open Time (Date)

/-- How channels are shown, and to which build. -/
structure Config where
  width : Nat
  buildChannel : String
  buildVersion : Option VersionNumber
  newOnly : Bool
deriving DecidableEq

/-- The pieces of a text in order, and whether it was finished. -/
structure Printout where
  pieces : List (List Char)
  isComplete : Bool
deriving DecidableEq

namespace Printout

def ofPieces (pieces : List (List Char)) : Printout := ⟨pieces, true⟩

/-- One printout after another; nothing follows one that was cut off. -/
def append (first second : Printout) : Printout :=
  if first.isComplete then ⟨first.pieces ++ second.pieces, second.isComplete⟩ else first

instance : Append Printout := ⟨append⟩

def text (printout : Printout) : List Char := printout.pieces.flatten

end Printout

def newline : List Char := ['\n']

def line (pieces : List (List Char)) : List (List Char) := pieces ++ [newline]

/-- The mark in front of the first line of a change. -/
def itemBullet : List Char := "    * ".toList

/-- The indentation of the further lines of a change. -/
def itemIndent : List Char := "      ".toList

def commitChars : Nat := 7

/-- The widest padding that can be asked for. -/
def maxPadding : Nat := 65535

/-- The lines of a text without their ends; an empty last line is none. -/
def textLines (text : List Char) : List (List Char) :=
  let pieces := Text.splitOn '\n' text
  let last := pieces.getLastD []
  pieces.dropLast.map Wrap.dropReturn ++ (if last.isEmpty then [] else [last])

def headingPieces (channel : Channel) : List (List Char) :=
  if channel.description.isEmpty then line [channel.name.toList]
  else line [channel.name.toList, " - ".toList, channel.description.toList]

/-- The width of the longest label, in characters. -/
def labelWidth (channel : Channel) : Nat :=
  (channel.versions.map fun release => release.label.length).foldl max 0

/-- A text filled with spaces to a width in characters. -/
def padded (width : Nat) (text : List Char) : List Char :=
  text ++ List.replicate (width - text.length) ' '

def releasePieces (width : Nat) (isLatest : Bool) (release : Release) : List (List Char) :=
  line (["  ".toList, padded width release.label.toList, "  ".toList, release.date.date.display] ++
    (if release.isCurrent then ["  (current)".toList] else []) ++
    (if isLatest then ["  (latest)".toList] else []))

def tablePieces (channel : Channel) : List (List Char) :=
  channel.versions.zipIdx.flatMap fun (release, index) =>
    releasePieces (labelWidth channel) (channel.latestIndex? == some index) release

/-- The release that the running build should be updated to. -/
def update? (config : Config) (channel : Channel) : Option Release := do
  let latest ← channel.latestVersion?
  let running ← config.buildVersion
  if channel.name == config.buildChannel && latest.number.isNewerThan running then some latest
  else none

def hintPieces (config : Config) (channel : Channel) : List (List Char) :=
  match update? config channel with
  | some latest => line ["  Update available: ".toList, latest.label.toList]
  | none => []

def shownEntries (config : Config) (channel : Channel) : List ChangelogEntry :=
  match config.buildVersion, config.newOnly with
  | some running, true => channel.changelogSince running
  | _, _ => channel.changelog

/-- The room for the text of a change. -/
def bodyWidth (config : Config) : Nat :=
  if itemBullet.length < config.width then config.width - itemBullet.length else config.width

/-- The line that says who made a change, and in which commit. -/
def attributionPieces (item : ChangelogItem) : List (List Char) :=
  let parts := [item.author.toList, (item.shortCommit commitChars).toList].filter
    fun part => !part.isEmpty
  if parts.isEmpty then []
  else line [itemIndent, ['('], [',', ' '].intercalate parts, [')']]

def itemPieces (item : ChangelogItem) (wrapped : List Char) : List (List Char) :=
  (textLines wrapped).zipIdx.flatMap (fun (text, index) =>
    line [if index = 0 then itemBullet else itemIndent, text]) ++ attributionPieces item

/-- The lines of changes, wrapped through the cache. -/
def renderItems (width : Nat) :
    List ChangelogItem → WrapCache → List (List Char) × WrapCache
  | [], cache => ([], cache)
  | item :: rest, cache =>
    let (answer, cache) := cache.wrapped item width
    let (pieces, cache) := renderItems width rest cache
    (itemPieces item answer.text ++ pieces, cache)

def entryHeading (entry : ChangelogEntry) : List (List Char) :=
  line (["  ".toList, entry.version.display, " (".toList, entry.date.date.display, [')']] ++
    (if entry.isNew then [" [new]".toList] else []))

def renderEntries (width : Nat) :
    List ChangelogEntry → WrapCache → List (List Char) × WrapCache
  | [], cache => ([], cache)
  | entry :: rest, cache =>
    let (items, cache) := renderItems width entry.items cache
    let (pieces, cache) := renderEntries width rest cache
    (entryHeading entry ++ items ++ pieces, cache)

/-- The changelog of a channel under its heading; nothing if no entry is shown. -/
def renderChangelog (config : Config) (channel : Channel) (cache : WrapCache) :
    List (List Char) × WrapCache :=
  let entries := shownEntries config channel
  if entries.isEmpty then ([], cache)
  else
    let (pieces, cache) := renderEntries (bodyWidth config) entries cache
    (line [] ++ line ["  Changelog".toList] ++ pieces, cache)

def renderChannel (config : Config) (channel : Channel) (cache : WrapCache) :
    Printout × WrapCache :=
  if maxPadding < labelWidth channel then (⟨headingPieces channel, false⟩, cache)
  else
    let (changelog, cache) := renderChangelog config channel cache
    (.ofPieces (headingPieces channel ++ tablePieces channel ++ hintPieces config channel ++
      changelog), cache)

/-- Several channels with an empty line between any two. -/
def renderChannels (config : Config) : List Channel → WrapCache → Printout × WrapCache
  | [], cache => (.ofPieces [], cache)
  | [channel], cache => renderChannel config channel cache
  | channel :: rest, cache =>
    let (first, cache) := renderChannel config channel cache
    if first.isComplete then
      let (others, cache) := renderChannels config rest cache
      (first ++ .ofPieces (line []) ++ others, cache)
    else (first, cache)

end ReleaseFeed.Report
