import ReleaseFeed.Proofs.Channel.Conversion
import ReleaseFeed.Proofs.Manifest.RoundTrip
import ReleaseFeed.Proofs.Report.Printing
/-!
Printing what a payload holds. Main statement: an output that takes everything gets the whole text
exactly when every label can be padded, whatever else the payload says; otherwise the text is cut
off behind the heading of the first channel with a longer label.
-/
namespace ReleaseFeed

open Report
open Text (Utf8.encode isBlank splitOn trimStart)

variable {config : Config} {cache : WrapCache} {marker : BuildMarker} {manifest : Manifest}
  {record : ChannelRecord} {records : List ChannelRecord} {channel : Channel}
  {channels : List Channel}

/-- Whether every label of a record can be padded. -/
def ChannelRecord.Narrow (record : ChannelRecord) : Prop :=
  ∀ version ∈ record.versions, (version.name.getD version.version).length ≤ maxPadding

theorem Channel.Shows.narrow_iff (shows : Channel.Shows marker record channel) :
    Narrow channel ↔ record.Narrow := by
  have versions := shows.versions
  unfold Narrow ChannelRecord.Narrow
  generalize record.versions = left, channel.versions = right at versions ⊢
  induction versions with
  | nil => simp
  | cons shown _ ih => simp [shown.label, ih]

theorem forall_narrow_iff (shows : List.Forall₂ (Channel.Shows marker) records channels) :
    (∀ channel ∈ channels, Narrow channel) ↔ ∀ record ∈ records, record.Narrow := by
  induction shows with
  | nil => simp
  | cons here _ ih => simp [here.narrow_iff, ih]

namespace Report

/-- How printing channels ends in an output that takes everything. -/
structure Ends (config : Config) (cache : WrapCache) (records : List ChannelRecord)
    (channels : List Channel) : Prop where
  finished_iff : (Sink.unlimited.print (renderChannels config channels cache).1).1 = .finished ↔
    ∀ record ∈ records, record.Narrow
  /-- Otherwise the text is cut off behind the heading of the first channel that is too wide. -/
  cutOff : (¬ ∀ record ∈ records, record.Narrow) →
    (∃ before wide after, StopsAt config channels cache before wide after) ∧
      (Sink.unlimited.print (renderChannels config channels cache).1).1 = .cutOff
  /-- All that was rendered is in the output. -/
  accepted : (Sink.unlimited.print (renderChannels config channels cache).1).2.accepted =
    Utf8.encode (renderChannels config channels cache).1.text

theorem ends (shows : List.Forall₂ (Channel.Shows marker) records channels) :
    Ends config cache records channels := by
  have complete : (renderChannels config channels cache).1.isComplete = true ↔
      ∀ record ∈ records, record.Narrow :=
    isComplete_renderChannels.trans (forall_narrow_iff shows)
  have room : Sink.unlimited.HasRoom
      (Utf8.encode (renderChannels config channels cache).1.text).length :=
    Sink.hasRoom_unlimited _
  obtain ⟨later, printed, accepted⟩ := Sink.print_of_hasRoom room
  refine ⟨?_, ?_, ?_⟩
  · rw [printed, ← complete]
    cases (renderChannels config channels cache).1.isComplete <;> simp
  · intro wide
    have broken := mt complete.mp wide
    refine ⟨exists_stopsAt (mt (forall_narrow_iff shows).mp wide), ?_⟩
    simp [printed, broken]
  · rw [printed, accepted]
    rfl

structure DatesInRange (channel : Channel) : Prop where
  versions : ∀ release ∈ channel.versions, release.date.InRange
  changelog : ∀ entry ∈ channel.changelog, entry.date.InRange

theorem datesInRange (shows : Channel.Shows marker record channel) (inRange : record.InRange) :
    DatesInRange channel where
  versions := by
    refine forall_right_of_forall₂ shows.versions fun version member release shown => ?_
    rw [shown.date]
    exact inRange.versions version member
  changelog := by
    refine forall_right_of_forall₂ shows.changelog fun entry member shownEntry shown => ?_
    rw [shown.date]
    exact inRange.changelog entry member

/-- The parts of a change that are cut out of its texts: each of them lies in the text. -/
structure Cuts (item : ChangelogItem) : Prop where
  commit : (item.shortCommit commitChars).toList <+: item.commit.toList
  indent : ∀ line ∈ splitOn '\n' item.body.toList,
    line.takeWhile isBlank ++ trimStart line = line

theorem cuts (item : ChangelogItem) : Cuts item where
  commit := by
    simpa [ChangelogItem.shortCommit] using List.take_prefix _ _
  indent _ _ := List.takeWhile_append_dropWhile

/-- How the channels of a manifest are printed, all of them or one. -/
structure Renders (config : Config) (cache : WrapCache) (manifest : Manifest)
    (channels : List Channel) : Prop where
  all : Ends config cache manifest.channels channels
  one : ∀ (place : Nat) record channel, manifest.channels[place]? = some record →
    channels[place]? = some channel → Ends config cache [record] [channel]
  dates : ∀ channel ∈ channels, DatesInRange channel
  cuts : ∀ channel ∈ channels, ∀ entry ∈ channel.changelog, ∀ item ∈ entry.items, Cuts item
  /-- The bullet is subtracted from a greater width only. -/
  room : bodyWidth config ≤ config.width ∧
    (bodyWidth config ≠ config.width → bodyWidth config + itemBullet.length = config.width)

theorem renders {payload : List UInt8} (parsed : Manifest.parse payload = .ok manifest)
    (built : Channel.ofManifest marker manifest = .ok channels) (config : Config)
    (cache : WrapCache) : Renders config cache manifest channels := by
  have shows := Channel.ofManifest_eq_ok_iff.mp built
  refine ⟨ends shows, ?_, ?_, fun _ _ _ _ item _ => cuts item, ?_⟩
  · intro place record channel here shown
    obtain ⟨before, rfl⟩ := List.getElem?_eq_some_iff.mp here
    obtain ⟨inside, rfl⟩ := List.getElem?_eq_some_iff.mp shown
    exact ends (.cons (shows.get before inside) .nil)
  · refine forall_right_of_forall₂ shows fun record member channel shown => ?_
    exact datesInRange shown (Manifest.parse_inRange parsed record member)
  · unfold bodyWidth
    split
    · omega
    · exact ⟨Nat.le_refl _, fun other => absurd rfl other⟩

/-- A manifest of one release under a label. -/
def labelled (label : String) : Manifest :=
  ⟨[⟨"stable", "", [⟨"1.0.0", some label, ⟨⟨2023, 1, 1⟩, 0, 0, 0, 0⟩⟩], []⟩]⟩

/-- The channel of `labelled`, seen from a build that is not known. -/
def labelledChannel (label : String) : Channel :=
  ⟨"stable", "", [⟨label, .ofComponents 1 0 0, ⟨⟨2023, 1, 1⟩, 0, 0, 0, 0⟩, false⟩], []⟩

theorem inRange_labelled (label : String) :
    ∀ channel ∈ (labelled label).channels, channel.InRange := by
  have date : (⟨⟨2023, 1, 1⟩, 0, 0, 0, 0⟩ : Time.Instant).InRange :=
    ⟨by decide, by decide, by decide, by decide, by decide⟩
  simp only [labelled, List.forall_mem_singleton]
  exact ⟨by simpa using date, by simp⟩

theorem parse_labelled (label : String) :
    Manifest.parse (labelled label).encode = .ok (labelled label) :=
  Manifest.parse_encode_of_inRange (inRange_labelled label)

theorem shows_labelled (label : String) : List.Forall₂ (Channel.Shows ⟨"stable", none⟩)
    (labelled label).channels [labelledChannel label] := by
  have number : VersionNumber.parse "1.0.0" = .ok (.ofComponents 1 0 0) := by decide +kernel
  refine .cons ⟨rfl, rfl, .cons ⟨rfl, number, rfl⟩ .nil, ?_, .nil⟩ .nil
  intro place release found
  obtain rfl : release = ⟨label, .ofComponents 1 0 0, ⟨⟨2023, 1, 1⟩, 0, 0, 0, 0⟩, false⟩ :=
    List.mem_singleton.mp (List.mem_of_getElem? found)
  simp

theorem narrow_labelled_iff (label : String) :
    (∀ record ∈ (labelled label).channels, record.Narrow) ↔ label.length ≤ maxPadding := by
  simp [labelled, ChannelRecord.Narrow]

theorem renders_labelled :
    Manifest.parse (labelled "First").encode = .ok (labelled "First") ∧
      Channel.ofManifest ⟨"stable", none⟩ (labelled "First") = .ok [labelledChannel "First"] ∧
        Renders ⟨80, "stable", none, false⟩ .empty (labelled "First") [labelledChannel "First"] := by
  have built := Channel.ofManifest_eq_ok_iff.mpr (shows_labelled "First")
  exact ⟨parse_labelled "First", built, renders (parse_labelled "First") built _ _⟩

theorem not_finished_labelled {label : String} (long : maxPadding < label.length) :
    (Sink.unlimited.print (renderChannels config [labelledChannel label] cache).1).1 ≠
      .finished := by
  rw [Ne, (ends (shows_labelled label)).finished_iff, narrow_labelled_iff]
  exact Nat.not_le_of_lt long

def labelOf (length : Nat) : String := String.ofList (List.replicate length 'a')

theorem length_labelOf (length : Nat) : (labelOf length).length = length := by
  rw [labelOf, String.length_ofList, List.length_replicate]

/-- A label with one character more than the padding can have cuts the text off. -/
theorem not_finished_of_wideLabel :
    Manifest.parse (labelled (labelOf 65536)).encode = .ok (labelled (labelOf 65536)) ∧
      Channel.ofManifest ⟨"stable", none⟩ (labelled (labelOf 65536)) =
        .ok [labelledChannel (labelOf 65536)] ∧
        (Sink.unlimited.print (renderChannels ⟨80, "stable", none, false⟩
          [labelledChannel (labelOf 65536)] .empty).1).1 ≠ .finished := by
  have long : maxPadding < (labelOf 65536).length := by
    rw [length_labelOf, maxPadding]
    omega
  exact ⟨parse_labelled _, Channel.ofManifest_eq_ok_iff.mpr (shows_labelled _),
    not_finished_labelled long⟩

end Report
end ReleaseFeed
