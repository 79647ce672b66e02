import ReleaseFeed.Time.Instant
import ReleaseFeed.Version.Order

namespace ReleaseFeed

open Time (Instant)

structure ChangelogItem where
  author : String
  commit : String
  body : String
deriving DecidableEq

/-- The start of the commit id, at most `length` characters. -/
def ChangelogItem.shortCommit (item : ChangelogItem) (length : Nat) : String :=
  String.ofList (item.commit.toList.take length)

structure ChangelogEntry where
  version : VersionNumber
  date : Instant
  isNew : Bool
  items : List ChangelogItem
deriving DecidableEq

/-- A published build under the label that selects it. -/
structure Release where
  label : String
  number : VersionNumber
  date : Instant
  isCurrent : Bool
deriving DecidableEq

/-- A release channel; releases and changelog are in their declared order. -/
structure Channel where
  name : String
  description : String
  versions : List Release
  changelog : List ChangelogEntry
deriving DecidableEq

namespace Channel

def empty : Channel := ⟨"", "", [], []⟩

/-- The release that stays when a later one is considered: the later one only if it is greater. -/
def greater (latest : Option (Release × Nat)) (candidate : Release × Nat) :
    Option (Release × Nat) :=
  match latest with
  | some latest =>
    if compare candidate.1.number latest.1.number == .gt then some candidate else some latest
  | none => some candidate

/-- The release with the greatest number and its index; the first declared one wins a tie. -/
def latest? (channel : Channel) : Option (Release × Nat) :=
  channel.versions.zipIdx.foldl greater none

def latestIndex? (channel : Channel) : Option Nat := channel.latest?.map (·.2)

def latestVersion? (channel : Channel) : Option Release := channel.latest?.map (·.1)

def currentIndex? (channel : Channel) : Option Nat := channel.versions.findIdx? (·.isCurrent)

def currentVersion? (channel : Channel) : Option Release := channel.versions.find? (·.isCurrent)

/-- The changelog entries above a version, in declared order. -/
def changelogSince (channel : Channel) (number : VersionNumber) : List ChangelogEntry :=
  channel.changelog.filter (fun entry => entry.version.isNewerThan number)

def find? (channels : List Channel) (name : String) : Option Channel :=
  channels.find? (fun channel => channel.name == name)

end Channel
end ReleaseFeed
