import ReleaseFeed.Json.Record
import ReleaseFeed.Manifest.Basic
import ReleaseFeed.Time.Parse

namespace ReleaseFeed

open Json (Member Reader Schema)
open Time (Instant)

/-- An instant as member of a record; a text that is none is refused by its own rules. -/
def readInstant : Reader Instant := fun bytes => do
  let (text, rest) ← Json.readText "an RFC 3339 formatted date and time string" bytes
  match Instant.parse text with
  | .ok instant => return (instant, rest)
  | .error reason => throw (.here (.rejected reason.message) rest)

def ItemRecord.schema : Schema ItemRecord where
  title := "struct WireChangelogItem"
  members := [
    .of "author" false Json.string fun record author => { record with author },
    .of "commit" false Json.string fun record commit => { record with commit },
    .of "body" false Json.string fun record body => { record with body }]
  blank := ⟨"", "", ""⟩

def EntryRecord.schema : Schema EntryRecord where
  title := "struct WireChangelogEntry"
  members := [
    .of "version" true Json.string fun record version => { record with version },
    .of "date" true readInstant fun record date => { record with date },
    .of "items" false (Json.list ItemRecord.schema.read) fun record items => { record with items }]
  blank := ⟨"", default, []⟩

def VersionRecord.schema : Schema VersionRecord where
  title := "struct WireVersion"
  members := [
    .of "version" true Json.string fun record version => { record with version },
    .of "name" false (Json.optional Json.string) fun record name => { record with name },
    .of "date" true readInstant fun record date => { record with date }]
  blank := ⟨"", none, default⟩

def ChannelRecord.schema : Schema ChannelRecord where
  title := "struct WireChannel"
  members := [
    .of "name" true Json.string fun record name => { record with name },
    .of "description" false Json.string fun record description => { record with description },
    .of "versions" false (Json.list VersionRecord.schema.read)
      fun record versions => { record with versions },
    .of "changelog" false (Json.list EntryRecord.schema.read)
      fun record changelog => { record with changelog }]
  blank := ⟨"", "", [], []⟩

def Manifest.schema : Schema Manifest where
  title := "struct WireManifest"
  members := [
    .of "channels" true (Json.list ChannelRecord.schema.read)
      fun record channels => { record with channels }]
  blank := ⟨[]⟩

/-- The blanks of which an empty payload may consist. -/
def isPayloadBlank (byte : UInt8) : Bool := Json.isBlank byte || byte == 0x0C

def Manifest.parse (payload : List UInt8) : Except PayloadError Manifest :=
  if payload.all isPayloadBlank then .error .empty
  else
    match Json.document Manifest.schema.read payload with
    | .ok manifest => .ok manifest
    | .error fault =>
      let place := fault.place payload
      .error (.malformed place.line place.column (fault.cause.messageAt place))

def PayloadError.message : PayloadError → String
  | .empty => "Update info payload is empty"
  | .malformed line column details =>
    "Malformed update info payload at line " ++ toString line ++ ", column " ++
      toString column ++ ": " ++ details
  | .invalidVersion channel value details =>
    "Invalid version " ++ String.ofList (Text.quoted value.toList) ++ " in channel " ++ channel ++
      ": " ++ details

end ReleaseFeed
