import ReleaseFeed.Proofs.Json.Tolerance
import ReleaseFeed.Proofs.Json.Writing
import ReleaseFeed.Proofs.Manifest.Form
import ReleaseFeed.Proofs.Manifest.Range
import ReleaseFeed.Proofs.Time.Display
/-!
Manifests that are written and read back. Main statement: a manifest that was parsed is parsed again
from its written form.
-/
namespace ReleaseFeed

open Json (Form Value Writes writes_array writes_object writes_text)
open Text.Utf8 (encode)
open Time (Instant)

section Values

def ItemRecord.toValue (record : ItemRecord) : Value :=
  .ofMembers [
    ("author", .ofText record.author.toList),
    ("commit", .ofText record.commit.toList),
    ("body", .ofText record.body.toList)]

def EntryRecord.toValue (record : EntryRecord) : Value :=
  .ofMembers [
    ("version", .ofText record.version.toList),
    ("date", .ofText record.date.display),
    ("items", .array (record.items.map ItemRecord.toValue))]

def VersionRecord.toValue (record : VersionRecord) : Value :=
  .ofMembers [
    ("version", .ofText record.version.toList),
    ("name", record.name.elim .null fun name => .ofText name.toList),
    ("date", .ofText record.date.display)]

def ChannelRecord.toValue (record : ChannelRecord) : Value :=
  .ofMembers [
    ("name", .ofText record.name.toList),
    ("description", .ofText record.description.toList),
    ("versions", .array (record.versions.map VersionRecord.toValue)),
    ("changelog", .array (record.changelog.map EntryRecord.toValue))]

/-- The value that the written form of a manifest writes. -/
def Manifest.toValue (manifest : Manifest) : Value :=
  .ofMembers [("channels", .array (manifest.channels.map ChannelRecord.toValue))]

end Values

section Written

theorem writes_array_map {α : Type} {toValue : α → Value} {write : α → List Char}
    (each : ∀ member, Writes (toValue member) (encode (write member))) (members : List α) :
    Writes (.array (members.map toValue)) (encode (Json.writeArray (members.map write))) := by
  apply writes_array
  rw [List.forall₂_map_left_iff, List.forall₂_map_right_iff, List.forall₂_same]
  exact fun member _ => each member

theorem ItemRecord.writes_toValue (record : ItemRecord) :
    Writes record.toValue (encode record.write) :=
  writes_object (.cons ⟨rfl, writes_text _⟩ (.cons ⟨rfl, writes_text _⟩
    (.cons ⟨rfl, writes_text _⟩ .nil)))

theorem EntryRecord.writes_toValue (record : EntryRecord) :
    Writes record.toValue (encode record.write) := by
  have items := writes_array_map ItemRecord.writes_toValue record.items
  exact writes_object (.cons ⟨rfl, writes_text _⟩ (.cons ⟨rfl, writes_text _⟩
    (.cons ⟨rfl, items⟩ .nil)))

theorem VersionRecord.writes_toValue (record : VersionRecord) :
    Writes record.toValue (encode record.write) := by
  have name : Writes (record.name.elim .null fun name => .ofText name.toList)
      (encode (Json.writeOptional record.name)) := by
    cases record.name with
    | none => exact .null
    | some name => exact writes_text _
  exact writes_object (.cons ⟨rfl, writes_text _⟩ (.cons ⟨rfl, name⟩
    (.cons ⟨rfl, writes_text _⟩ .nil)))

theorem ChannelRecord.writes_toValue (record : ChannelRecord) :
    Writes record.toValue (encode record.write) := by
  have versions := writes_array_map VersionRecord.writes_toValue record.versions
  have changelog := writes_array_map EntryRecord.writes_toValue record.changelog
  exact writes_object (.cons ⟨rfl, writes_text _⟩ (.cons ⟨rfl, writes_text _⟩
    (.cons ⟨rfl, versions⟩ (.cons ⟨rfl, changelog⟩ .nil))))

theorem Manifest.document_encode (manifest : Manifest) :
    Json.Document manifest.toValue manifest.encode := by
  have channels := writes_array_map ChannelRecord.writes_toValue manifest.channels
  have writes : Writes manifest.toValue manifest.encode :=
    writes_object (.cons ⟨rfl, channels⟩ .nil)
  have written := Json.Document.of Json.blank_nil writes Json.blank_nil
  rw [List.nil_append, List.append_nil] at written
  exact written

end Written

section Meaning

theorem instant?_ofText {instant : Instant} (inRange : instant.InRange) :
    instant? (.ofText instant.display) = some instant := by
  rw [instant?, Value.text?_ofText, Option.bind_some, Instant.parse_display inRange]
  rfl

theorem ofValue?_ofMembers {σ : Type} (form : Form σ) (members : List (String × Value))
    (keys : members.map Prod.fst = form.fields.map fun field => field.member.key) :
    form.ofValue? (.ofMembers members) = form.ofValue? (.array (members.map Prod.snd)) := by
  rw [Value.ofMembers, Form.ofValue?_inOrder, List.map_map]
  · rfl
  · have texts := congrArg (List.map fun key => some key.toList) keys
    simpa [Function.comp_def] using texts

theorem ItemRecord.ofValue?_toValue (record : ItemRecord) :
    form.ofValue? record.toValue = some record := by
  rw [toValue, ofValue?_ofMembers _ _ rfl]
  simp [form, Form.ofValue?, Form.inOrder?, Json.Field.of]

theorem EntryRecord.ofValue?_toValue {record : EntryRecord} (inRange : record.date.InRange) :
    form.ofValue? record.toValue = some record := by
  have items := mapM_map_eq_some fun item (_ : item ∈ record.items) => item.ofValue?_toValue
  rw [toValue, ofValue?_ofMembers _ _ rfl]
  simp [form, Form.ofValue?, Form.inOrder?, Json.Field.of, Value.list?, items,
    instant?_ofText inRange]

theorem VersionRecord.ofValue?_toValue {record : VersionRecord} (inRange : record.date.InRange) :
    form.ofValue? record.toValue = some record := by
  have name : Value.optional? (fun value => value.text?.map String.ofList)
      (record.name.elim .null fun name => .ofText name.toList) = some record.name := by
    cases record.name with
    | none => rfl
    | some name => simp [Value.ofText, Value.optional?, Value.text?]
  rw [toValue, ofValue?_ofMembers _ _ rfl]
  simp [form, Form.ofValue?, Form.inOrder?, Json.Field.of, name, instant?_ofText inRange]

theorem ChannelRecord.ofValue?_toValue {record : ChannelRecord} (inRange : record.InRange) :
    form.ofValue? record.toValue = some record := by
  have versions := mapM_map_eq_some fun version inside =>
    VersionRecord.ofValue?_toValue (inRange.versions version inside)
  have changelog := mapM_map_eq_some fun entry inside =>
    EntryRecord.ofValue?_toValue (inRange.changelog entry inside)
  rw [toValue, ofValue?_ofMembers _ _ rfl]
  simp [form, Form.ofValue?, Form.inOrder?, Json.Field.of, Value.list?, versions, changelog]

theorem Manifest.ofValue?_toValue {manifest : Manifest}
    (inRange : ∀ channel ∈ manifest.channels, channel.InRange) :
    form.ofValue? manifest.toValue = some manifest := by
  have channels := mapM_map_eq_some fun channel inside =>
    ChannelRecord.ofValue?_toValue (inRange channel inside)
  rw [toValue, ofValue?_ofMembers _ _ rfl]
  simp [form, Form.ofValue?, Form.inOrder?, Json.Field.of, Value.list?, channels]

end Meaning

theorem Manifest.parse_encode_of_inRange {manifest : Manifest}
    (inRange : ∀ channel ∈ manifest.channels, channel.InRange) :
    parse manifest.encode = .ok manifest := by
  have read := parse_document manifest.document_encode
  rw [ofValue?_toValue inRange] at read
  exact toOption_eq_some_iff.mp read

/-- A manifest that was parsed is parsed again from its written form. -/
theorem Manifest.parse_encode {payload : List UInt8} {manifest : Manifest}
    (parsed : parse payload = .ok manifest) : parse manifest.encode = .ok manifest :=
  parse_encode_of_inRange (parse_inRange parsed)

/-- A leap second of a long year, shown two hours ahead of universal time, in a channel with a
quote, a backslash, a control character and a surrogate pair in its name. -/
def leapPayload : List UInt8 :=
  encode ("\x7b\"channels\":[\x7b\"name\":\"\\\"\\\\\\u0001\\ud83d\\ude00\",".toList ++
    "\"versions\":[\x7b\"version\":\"1.0.0\",".toList ++
    "\"date\":\"+12345-06-30T23:59:60.5+02:00\"\x7d]\x7d]\x7d".toList)

def leapManifest : Manifest :=
  ⟨[⟨"\"\\\x01😀", "", [⟨"1.0.0", none, ⟨⟨12345, 6, 30⟩, 21, 59, 60, 500000000⟩⟩], []⟩]⟩

theorem Manifest.parse_encode_leapManifest :
    parse leapPayload = .ok leapManifest ∧ parse leapManifest.encode = .ok leapManifest := by
  have parsed : parse leapPayload = .ok leapManifest := by decide +kernel
  exact ⟨parsed, parse_encode parsed⟩

end ReleaseFeed
