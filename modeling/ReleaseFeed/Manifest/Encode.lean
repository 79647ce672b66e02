import ReleaseFeed.Json.Byte
import ReleaseFeed.Manifest.Basic
import ReleaseFeed.Text.Utf8

namespace ReleaseFeed

open Time (Instant)

namespace Json

def hexDigit (value : Nat) : Char := Nat.digitChar value

/-- A character as it stands in a string: quotes, backslashes and controls are escaped. -/
def writeChar (c : Char) : List Char :=
  match c with
  | '"' => ['\\', '"']
  | '\\' => ['\\', '\\']
  | '\x08' => ['\\', 'b']
  | '\x0C' => ['\\', 'f']
  | '\n' => ['\\', 'n']
  | '\r' => ['\\', 'r']
  | '\t' => ['\\', 't']
  | c =>
    if c.toNat < 0x20 then
      ['\\', 'u', '0', '0', hexDigit (c.toNat / 16), hexDigit (c.toNat % 16)]
    else [c]

def writeText (text : List Char) : List Char := '"' :: text.flatMap writeChar ++ ['"']

def writeString (text : String) : List Char := writeText text.toList

def separated (values : List (List Char)) : List Char := [','].intercalate values

def writeArray (values : List (List Char)) : List Char := '[' :: separated values ++ [']']

def writeObject (members : List (String × List Char)) : List Char :=
  '\x7b' :: separated (members.map fun (key, value) => writeString key ++ ':' :: value) ++ ['\x7d']

def writeOptional : Option String → List Char
  | some text => writeString text
  | none => ['n', 'u', 'l', 'l']

end Json

def writeInstant (instant : Instant) : List Char := Json.writeText instant.display

def ItemRecord.write (record : ItemRecord) : List Char :=
  Json.writeObject [
    ("author", Json.writeString record.author),
    ("commit", Json.writeString record.commit),
    ("body", Json.writeString record.body)]

def EntryRecord.write (record : EntryRecord) : List Char :=
  Json.writeObject [
    ("version", Json.writeString record.version),
    ("date", writeInstant record.date),
    ("items", Json.writeArray (record.items.map ItemRecord.write))]

def VersionRecord.write (record : VersionRecord) : List Char :=
  Json.writeObject [
    ("version", Json.writeString record.version),
    ("name", Json.writeOptional record.name),
    ("date", writeInstant record.date)]

def ChannelRecord.write (record : ChannelRecord) : List Char :=
  Json.writeObject [
    ("name", Json.writeString record.name),
    ("description", Json.writeString record.description),
    ("versions", Json.writeArray (record.versions.map VersionRecord.write)),
    ("changelog", Json.writeArray (record.changelog.map EntryRecord.write))]

def Manifest.write (manifest : Manifest) : List Char :=
  Json.writeObject [("channels", Json.writeArray (manifest.channels.map ChannelRecord.write))]

def Manifest.encode (manifest : Manifest) : List UInt8 := Text.Utf8.encode manifest.write

end ReleaseFeed
