import ReleaseFeed.Channel.Basic
import ReleaseFeed.Log.Record
import ReleaseFeed.Manifest.Basic
import ReleaseFeed.Text.Quoted
import ReleaseFeed.Version.Parse
/-!
From the records of a manifest to channels, seen from the running build. Every version text has to
be a version number; the first that is none refuses the whole manifest.
-/
namespace ReleaseFeed

structure BuildIdentity where
  channel : String
  version : Option String
deriving DecidableEq

/-- The running build: its channel, and its number if that is known. -/
structure BuildMarker where
  channel : String
  version : Option VersionNumber
deriving DecidableEq

namespace BuildIdentity

/-- The number of the running build; a text that is none counts as unknown. -/
def number? (identity : BuildIdentity) : Option VersionNumber :=
  identity.version.bind fun raw => (VersionNumber.parse raw).toOption

def marker (identity : BuildIdentity) : BuildMarker := ⟨identity.channel, identity.number?⟩

/-- What is logged when the version of the running build is no version number. -/
def warnings (identity : BuildIdentity) : List LogRecord :=
  match identity.version with
  | none => []
  | some raw =>
    match VersionNumber.parse raw with
    | .ok _ => []
    | .error error =>
      [⟨.warn, "Ignoring unparseable build version " ++ String.ofList (Text.quoted raw.toList) ++
        ": " ++ error.message⟩]

end BuildIdentity

namespace BuildMarker

def isRunning (marker : BuildMarker) (number : VersionNumber) : Bool :=
  marker.version == some number

/-- Whether the running build is known and below this number. -/
def isOlderThan (marker : BuildMarker) (number : VersionNumber) : Bool :=
  marker.version.any number.isNewerThan

end BuildMarker

namespace Channel

/-- The number of a version text in a channel. -/
def numberIn (channel value : String) : Except PayloadError VersionNumber :=
  match VersionNumber.parse value with
  | .ok number => .ok number
  | .error error => .error (.invalidVersion channel value error.message)

def releaseOf (record : VersionRecord) (number : VersionNumber) (isCurrent : Bool) : Release :=
  ⟨record.name.getD record.version, number, record.date, isCurrent⟩

/-- Releases of which the first that is running is marked as current, unless `claimed` already. -/
def markReleases (isRunning : VersionNumber → Bool) :
    Bool → List (VersionRecord × VersionNumber) → List Release
  | _, [] => []
  | claimed, (record, number) :: rest =>
    let isCurrent := !claimed && isRunning number
    releaseOf record number isCurrent :: markReleases isRunning (claimed || isCurrent) rest

def entryOf (marker : BuildMarker) (record : EntryRecord) (number : VersionNumber) :
    ChangelogEntry :=
  ⟨number, record.date, marker.isOlderThan number,
    record.items.map fun item => ⟨item.author, item.commit, item.body⟩⟩

/-- A record together with the number of its version text. -/
def numbered {α : Type} (channel : String) (version : α → String) (record : α) :
    Except PayloadError (α × VersionNumber) := do
  return (record, ← numberIn channel (version record))

/-- A channel from its record. Only a channel of the running build marks a current release. -/
def ofRecord (marker : BuildMarker) (record : ChannelRecord) : Except PayloadError Channel := do
  let versions ← record.versions.mapM (numbered record.name VersionRecord.version)
  let changelog ← record.changelog.mapM (numbered record.name EntryRecord.version)
  let claimed := record.name != marker.channel
  return {
    name := record.name
    description := record.description
    versions := markReleases marker.isRunning claimed versions
    changelog := changelog.map fun (entry, number) => entryOf marker entry number }

/-- All channels of a manifest, or the refusal of its first bad version text. -/
def ofManifest (marker : BuildMarker) (manifest : Manifest) :
    Except PayloadError (List Channel) :=
  manifest.channels.mapM (ofRecord marker)

def summary (channel : Channel) : LogRecord :=
  ⟨.debug, "Built channel " ++ channel.name ++ ": " ++ toString channel.versions.length ++
    " versions, " ++ toString channel.changelog.length ++ " changelog entries"⟩

/-- What is logged about the channels in front of the first refused one. -/
def summaries (marker : BuildMarker) (manifest : Manifest) : List LogRecord :=
  ((manifest.channels.map fun record => (ofRecord marker record).toOption).takeWhile
    Option.isSome).filterMap fun built => built.map summary

end Channel
end ReleaseFeed
