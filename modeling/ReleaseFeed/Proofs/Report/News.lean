import ReleaseFeed.Proofs.Channel.Current
import ReleaseFeed.Proofs.Report.Plain
import ReleaseFeed.Proofs.Version.Order
/-!
The new entries of a changelog in two printouts. Main statement: a printout of the new entries is
the full printout of channels that list nothing else, and it shows the entries that the full one
marks; without a running version both printouts are the same and nothing is marked.
-/
namespace ReleaseFeed

/-- A channel that lists its new entries only. -/
def Channel.news (channel : Channel) : Channel :=
  { channel with changelog := channel.changelog.filter ChangelogEntry.isNew }

namespace Report

variable {identity : BuildIdentity} {width : Nat} {config : Config} {channel : Channel}
  {channels : List Channel} {cache : WrapCache} {running : VersionNumber} {entry : ChangelogEntry}

/-- Whether the line that names an entry ends in the mark of new entries. -/
def Marked (entry : ChangelogEntry) : Prop := EndsIn " [new]\n" (entryHeading entry)

instance : Decidable (Marked entry) := inferInstanceAs (Decidable (EndsIn _ _))

theorem flatten_entryHeading : (entryHeading entry).flatten =
    ("  ".toList ++ entry.version.display ++ " (".toList ++ entry.date.date.display) ++
      if entry.isNew then ") [new]\n".toList else ")\n".toList := by
  cases isNew : entry.isNew <;> simp [entryHeading, line, newline, isNew]

theorem marked_iff : Marked entry ↔ entry.isNew = true := by
  rw [Marked, EndsIn, flatten_entryHeading]
  cases entry.isNew with
  | true =>
    refine iff_of_true ?_ rfl
    exact List.IsSuffix.trans (by decide) (List.suffix_append _ _)
  | false =>
    refine iff_of_false (fun marked => ?_) Bool.false_ne_true
    -- the two ends have different lengths, so one would end in the other
    have ends := List.suffix_of_suffix_length_le (List.suffix_append _ _) marked (by decide)
    exact absurd ends (by decide)

theorem filter_marked (entries : List ChangelogEntry) :
    entries.filter (fun entry => decide (Marked entry)) = entries.filter ChangelogEntry.isNew :=
  List.filter_congr fun entry _ => by simp [marked_iff]

/-- Beside the width and the running build, only the shown entries tell two printouts apart. -/
theorem renderChannel_of_shownEntries (newOnly : Bool) (changelog : List ChangelogEntry)
    (same : shownEntries config channel =
      shownEntries { config with newOnly := newOnly } { channel with changelog := changelog }) :
    renderChannel config channel cache =
      renderChannel { config with newOnly := newOnly } { channel with changelog := changelog }
        cache := by
  simp only [renderChannel, renderChangelog, same]
  rfl

theorem renderChannels_map {first second : Config} {change : Channel → Channel}
    (same : ∀ channel ∈ channels, ∀ cache,
      renderChannel first channel cache = renderChannel second (change channel) cache) :
    renderChannels first channels cache = renderChannels second (channels.map change) cache := by
  induction channels generalizing cache with
  | nil => rfl
  | cons channel rest ih =>
    rw [List.forall_mem_cons] at same
    cases rest with
    | nil => exact same.1 cache
    | cons next others =>
      simp only [renderChannels, List.map_cons, same.1] at ih ⊢
      simp only [ih same.2]

/-- How the two printouts agree if the running version is known. -/
structure ShowsNews (identity : BuildIdentity) (width : Nat) (running : VersionNumber)
    (channels : List Channel) : Prop where
  /-- The printout of the new entries is the full one of a channel that lists nothing else. -/
  one : ∀ channel ∈ channels, ∀ cache,
    renderChannel (identity.config width true) channel cache =
      renderChannel (identity.config width false) channel.news cache
  all : ∀ cache, renderChannels (identity.config width true) channels cache =
    renderChannels (identity.config width false) (channels.map Channel.news) cache
  /-- Marked are the new entries, which are those above the running version. -/
  marked : ∀ channel ∈ channels, ∀ entry ∈ channel.changelog,
    (Marked entry ↔ entry.isNew = true) ∧
      (entry.isNew = true ↔ compare entry.version running = .gt)
  /-- The full printout shows every entry. -/
  full : ∀ channel ∈ channels, Narrow channel → ∀ calls,
    (renderChannel (identity.config width false) channel (WrapCache.empty.after calls)).1 =
      .ofPieces (topPieces (identity.config width false) channel ++
        changelogPieces (bodyWidth (identity.config width false)) channel.changelog)
  /-- The other one shows the entries that are marked there. -/
  news : ∀ channel ∈ channels, Narrow channel → ∀ calls,
    (renderChannel (identity.config width true) channel (WrapCache.empty.after calls)).1 =
      .ofPieces (topPieces (identity.config width false) channel ++
        changelogPieces (bodyWidth (identity.config width false))
          (channel.changelog.filter fun entry => decide (Marked entry)))
  /-- Behind a label that is too long to pad, none of them shows anything. -/
  cutOff : ∀ channel ∈ channels, ¬ Narrow channel → ∀ newOnly cache,
    (renderChannel (identity.config width newOnly) channel cache).1 =
      ⟨headingPieces channel, false⟩

/-- How the two printouts agree if the running version is not known. -/
structure ShowsAll (identity : BuildIdentity) (width : Nat) (channels : List Channel) : Prop where
  one : ∀ channel ∈ channels, ∀ cache,
    renderChannel (identity.config width true) channel cache =
      renderChannel (identity.config width false) channel cache
  all : ∀ cache, renderChannels (identity.config width true) channels cache =
    renderChannels (identity.config width false) channels cache
  unmarked : ∀ channel ∈ channels, ∀ entry ∈ channel.changelog,
    ¬ Marked entry ∧ entry.isNew = false

theorem showsNews (known : identity.number? = some running)
    (isNew : ∀ channel ∈ channels, ∀ entry ∈ channel.changelog,
      (entry.isNew = true ↔ compare entry.version running = .gt)) :
    ShowsNews identity width running channels := by
  have shown : ∀ channel ∈ channels, shownEntries (identity.config width true) channel =
      channel.changelog.filter ChangelogEntry.isNew := by
    intro channel member
    simp only [shownEntries, BuildIdentity.config, known, Channel.changelogSince]
    apply List.filter_congr
    intro entry listed
    rw [Bool.eq_iff_iff, isNew channel member entry listed, VersionNumber.isNewerThan_iff]
  have every : ∀ channel, shownEntries (identity.config width false) channel =
      channel.changelog := by
    intro channel
    simp only [shownEntries, BuildIdentity.config, known]
  have one : ∀ channel ∈ channels, ∀ cache,
      renderChannel (identity.config width true) channel cache =
        renderChannel (identity.config width false) channel.news cache := by
    intro channel member cache
    apply renderChannel_of_shownEntries false (channel.changelog.filter ChangelogEntry.isNew)
    rw [shown channel member]
    exact (every channel.news).symm
  refine ⟨one, fun _ => renderChannels_map one, ?_, ?_, ?_, ?_⟩
  · exact fun channel member entry listed => ⟨marked_iff, isNew channel member entry listed⟩
  · intro channel _ narrow calls
    rw [renderChannel_after narrow, channelPieces, every]
  · intro channel member narrow calls
    rw [renderChannel_after narrow, channelPieces, shown channel member, filter_marked]
    rfl
  · intro channel _ wide newOnly cache
    rw [renderChannel_of_wide wide]

theorem showsAll (unknown : identity.number? = none)
    (isNew : ∀ channel ∈ channels, ∀ entry ∈ channel.changelog, entry.isNew = false) :
    ShowsAll identity width channels := by
  have one : ∀ channel ∈ channels, ∀ cache,
      renderChannel (identity.config width true) channel cache =
        renderChannel (identity.config width false) channel cache := by
    intro channel _ cache
    apply renderChannel_of_shownEntries false channel.changelog
    simp only [shownEntries, BuildIdentity.config, unknown]
  refine ⟨one, fun cache => ?_, fun channel member entry listed => ?_⟩
  · have mapped := @renderChannels_map channels cache _ _ id one
    rwa [List.map_id] at mapped
  · have old := isNew channel member entry listed
    exact ⟨by simp [marked_iff, old], old⟩

/-- How the printouts for a build agree, whether its version text is a version number or not. -/
structure NewsAgree (name raw : String) (width : Nat) (channels : List Channel) : Prop where
  known : ∀ running, VersionNumber.parse raw = .ok running →
    ShowsNews ⟨name, some raw⟩ width running channels
  unknown : ∀ error, VersionNumber.parse raw = .error error →
    ShowsAll ⟨name, some raw⟩ width channels

/-- The marks were set for the same version that the printout is made for. -/
theorem newsAgree {name raw : String} {manifest : Manifest}
    (built : Channel.ofManifest (BuildIdentity.marker ⟨name, some raw⟩) manifest = .ok channels)
    (width : Nat) : NewsAgree name raw width channels := by
  have shows : ∀ channel ∈ channels, ∀ entry ∈ channel.changelog, ∃ record,
      ChangelogEntry.Shows (BuildIdentity.marker ⟨name, some raw⟩) record entry := by
    intro channel member
    obtain ⟨_, shown⟩ := Channel.exists_shows built channel member
    exact forall_right_of_forall₂ shown.changelog fun record _ _ shows => ⟨record, shows⟩
  refine ⟨fun running parsed => ?_, fun error refused => ?_⟩
  · have known : BuildIdentity.number? ⟨name, some raw⟩ = some running := by
      simp [BuildIdentity.number?, parsed]
    refine showsNews known fun channel member entry listed => ?_
    obtain ⟨record, shows⟩ := shows channel member entry listed
    simp [shows.isNew, BuildIdentity.marker, known]
  · have unknown : BuildIdentity.number? ⟨name, some raw⟩ = none := by
      simp [BuildIdentity.number?, refused]
    refine showsAll unknown fun channel member entry listed => ?_
    obtain ⟨record, shows⟩ := shows channel member entry listed
    rw [← Bool.not_eq_true, shows.isNew]
    simp [BuildIdentity.marker, unknown]

/-- A record of changes above the running build, in it and below it. -/
def mixedRecord : ChannelRecord :=
  ⟨"stable", "", [],
    [⟨"1.2.0-rc.1", ⟨⟨2023, 3, 1⟩, 0, 0, 0, 0⟩, [⟨"Ada", "", "Faster start"⟩]⟩,
      ⟨"1.1.0+fix", ⟨⟨2023, 2, 2⟩, 0, 0, 0, 0⟩, []⟩, ⟨"1.1", ⟨⟨2023, 2, 1⟩, 0, 0, 0, 0⟩, []⟩,
      ⟨"1.1.0-beta", ⟨⟨2023, 1, 1⟩, 0, 0, 0, 0⟩, []⟩]⟩

def mixedChannel : Channel :=
  ⟨"stable", "", [],
    [⟨⟨1, 2, 0, [['r', 'c'], ['1']], []⟩, ⟨⟨2023, 3, 1⟩, 0, 0, 0, 0⟩, true,
        [⟨"Ada", "", "Faster start"⟩]⟩,
      ⟨⟨1, 1, 0, [], [['f', 'i', 'x']]⟩, ⟨⟨2023, 2, 2⟩, 0, 0, 0, 0⟩, true, []⟩,
      ⟨.ofComponents 1 1 0, ⟨⟨2023, 2, 1⟩, 0, 0, 0, 0⟩, false, []⟩,
      ⟨⟨1, 1, 0, [['b', 'e', 't', 'a']], []⟩, ⟨⟨2023, 1, 1⟩, 0, 0, 0, 0⟩, false, []⟩]⟩

theorem newsAgree_of_mixed :
    VersionNumber.parse "v1.1" = .ok (.ofComponents 1 1 0) ∧
      Channel.ofManifest (BuildIdentity.marker ⟨"stable", some "v1.1"⟩) ⟨[mixedRecord]⟩ =
        .ok [mixedChannel] ∧
        NewsAgree "stable" "v1.1" 80 [mixedChannel] := by
  have built : Channel.ofManifest (BuildIdentity.marker ⟨"stable", some "v1.1"⟩)
      ⟨[mixedRecord]⟩ = .ok [mixedChannel] := by decide +kernel
  exact ⟨by decide +kernel, built, newsAgree built 80⟩

end Report
end ReleaseFeed
