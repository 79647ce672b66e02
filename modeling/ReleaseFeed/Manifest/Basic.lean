import ReleaseFeed.Time.Instant

namespace ReleaseFeed

open Time (Instant)

structure ItemRecord where
  author : String
  commit : String
  body : String
deriving DecidableEq

structure EntryRecord where
  version : String
  date : Instant
  items : List ItemRecord
deriving DecidableEq

/-- A published build, which may have a name apart from its number. -/
structure VersionRecord where
  version : String
  name : Option String
  date : Instant
deriving DecidableEq

structure ChannelRecord where
  name : String
  description : String
  versions : List VersionRecord
  changelog : List EntryRecord
deriving DecidableEq

structure Manifest where
  channels : List ChannelRecord
deriving DecidableEq

inductive PayloadError where
  | empty
  | malformed (line column : Nat) (details : String)
  | invalidVersion (channel value details : String)
deriving DecidableEq

end ReleaseFeed
