import ReleaseFeed.Proofs.Channel.Current
import ReleaseFeed.Proofs.Channel.Latest
import ReleaseFeed.Proofs.Report.Padding
import ReleaseFeed.Proofs.Report.Plain
import ReleaseFeed.Proofs.Time.Display
/-!
The latest release in a printout. Main statement: the line of the first greatest release is marked,
and the hint names it exactly when the running build has the channel and a lesser version; a channel
with a label that is too long to pad shows neither.
-/
namespace ReleaseFeed

open Report
open Std (OrientedCmp TransCmp)

/-- Whether a channel has an update for a build: the build has its channel and a lesser version. -/
def Channel.Updates (channel : Channel) (identity : BuildIdentity) : Prop :=
  channel.name = identity.channel ∧ ∃ running, identity.number? = some running ∧
    ∃ release ∈ channel.versions, compare release.number running = .gt

namespace Report

variable {identity : BuildIdentity} {width place : Nat} {newOnly isLatest : Bool}
  {config : Config} {channel : Channel} {channels : List Channel} {release latest : Release}

/-- The lines of the releases, one for each. -/
def releaseLines (channel : Channel) : List (List (List Char)) :=
  channel.versions.zipIdx.map fun (release, index) =>
    releasePieces (labelWidth channel) (channel.latestIndex? == some index) release

theorem tablePieces_eq_flatten : tablePieces channel = (releaseLines channel).flatten :=
  List.flatMap_def ..

theorem getElem?_releaseLines : (releaseLines channel)[place]? =
    channel.versions[place]?.map
      (releasePieces (labelWidth channel) (channel.latestIndex? == some place)) := by
  simp [releaseLines, Function.comp_def]

section Marks

/-- What follows the date on the line of a release. -/
def releaseMarks (isCurrent isLatest : Bool) : String :=
  match isCurrent, isLatest with
  | true, true => "  (current)  (latest)\n"
  | true, false => "  (current)\n"
  | false, true => "  (latest)\n"
  | false, false => "\n"

/-- What stands in front of the date on the line of a release. -/
def beforeDate (width : Nat) (release : Release) : List Char :=
  "  ".toList ++ padded width release.label.toList ++ "  ".toList

theorem flatten_releasePieces : (releasePieces width isLatest release).flatten =
    beforeDate width release ++ release.date.date.display ++
      (releaseMarks release.isCurrent isLatest).toList := by
  cases isCurrent : release.isCurrent <;> cases isLatest <;>
    simp [releasePieces, line, newline, beforeDate, isCurrent, releaseMarks]

theorem exists_flatten_releasePieces : ∃ front digit, digit.isDigit = true ∧
    (releasePieces width isLatest release).flatten =
      front ++ digit :: (releaseMarks release.isCurrent isLatest).toList := by
  obtain ⟨front, digit, last⟩ := List.eq_nil_or_concat (Time.zeroPadded 2 release.date.date.day)
    |>.resolve_left (Time.zeroPadded_ne_nil 2 _)
  have inside : digit ∈ Time.zeroPadded 2 release.date.date.day := by simp [last]
  have isDigit := Time.isDigit_of_mem_zeroPadded inside
  refine ⟨beforeDate width release ++ (Time.displayYear release.date.date.year ++
    '-' :: Time.zeroPadded 2 release.date.date.month ++ '-' :: front), digit, isDigit, ?_⟩
  simp [flatten_releasePieces, Time.Date.display, last]

/-- Behind the date stands nothing that could be taken for a mark. -/
theorem endsIn_releasePieces_iff {mark : String} (letters : mark.toList.any Char.isDigit = false) :
    EndsIn mark (releasePieces width isLatest release) ↔
      mark.toList <:+ (releaseMarks release.isCurrent isLatest).toList := by
  obtain ⟨front, digit, isDigit, same⟩ :=
    @exists_flatten_releasePieces width isLatest release
  have absent : digit ∉ mark.toList := fun inside =>
    List.any_eq_false.mp letters digit inside isDigit
  rw [EndsIn, same]
  constructor
  · intro ends
    rcases List.suffix_or_suffix_of_suffix ends (List.suffix_append front _) with shorter | longer
    · rcases List.suffix_cons_iff.mp shorter with whole | inside
      · exact absurd (whole ▸ List.mem_cons_self) absent
      · exact inside
    · exact absurd (longer.subset List.mem_cons_self) absent
  · intro ends
    exact ends.trans ((List.suffix_cons digit _).trans (List.suffix_append front _))

theorem endsIn_latest_iff :
    EndsIn "  (latest)\n" (releasePieces width isLatest release) ↔ isLatest = true := by
  rw [endsIn_releasePieces_iff rfl]
  cases release.isCurrent <;> cases isLatest <;> decide

theorem endsIn_current_latest_iff :
    EndsIn "  (current)  (latest)\n" (releasePieces width isLatest release) ↔
      release.isCurrent = true ∧ isLatest = true := by
  rw [endsIn_releasePieces_iff rfl]
  cases release.isCurrent <;> cases isLatest <;> decide

end Marks

section Latest

open Channel (FirstGreatest)

/-- The line of the first greatest release is marked, and no other one. -/
theorem endsIn_latest_releaseLines_iff {line : List (List Char)}
    (found : (releaseLines channel)[place]? = some line) :
    EndsIn "  (latest)\n" line ↔ ∃ latest, FirstGreatest channel.versions place latest := by
  rw [getElem?_releaseLines] at found
  obtain ⟨release, _, rfl⟩ := Option.map_eq_some_iff.mp found
  rw [endsIn_latest_iff, beq_iff_eq, Channel.latestIndex?_eq_some_iff]

theorem countP_releaseLines (channel : Channel) :
    (releaseLines channel).countP (fun line => decide (EndsIn "  (latest)\n" line)) =
      if channel.versions = [] then 0 else 1 := by
  have count : (releaseLines channel).countP (fun line => decide (EndsIn "  (latest)\n" line)) =
      (List.range channel.versions.length).countP fun index =>
        channel.latestIndex? == some index := by
    rw [releaseLines, List.countP_map, List.range_eq_range', ← List.zipIdx_map_snd,
      List.countP_map]
    refine List.countP_congr fun pair _ => ?_
    simp only [Function.comp_apply, decide_eq_true_iff]
    exact endsIn_latest_iff
  rw [count]
  cases found : channel.latest? with
  | none => simp [Channel.latest?_eq_none_iff.mp found]
  | some pair =>
    have first := Channel.latest?_eq_some_iff.mp found
    have same : (fun index => channel.latestIndex? == some index) = fun index => index == pair.2 := by
      funext index
      simp [Channel.latestIndex?, found, eq_comm]
    rw [same, if_neg (List.ne_nil_of_mem first.mem)]
    exact List.count_eq_one_of_mem List.nodup_range (List.mem_range.mpr first.lt_length)

end Latest

section Hint

open Channel (FirstGreatest)

/-- Some release is above a version exactly when the latest one is. -/
theorem updates_iff_of_firstGreatest (first : FirstGreatest channel.versions place latest) :
    channel.Updates identity ↔ channel.name = identity.channel ∧
      ∃ running, identity.number? = some running ∧ compare latest.number running = .gt := by
  refine and_congr_right fun _ => exists_congr fun running => and_congr_right fun _ => ?_
  constructor
  · rintro ⟨release, listed, above⟩
    have below : (compare release.number latest.number).isLE :=
      Ordering.isLE_iff_ne_gt.mpr (first.greatest release listed)
    exact OrientedCmp.gt_of_lt (TransCmp.lt_of_lt_of_isLE (OrientedCmp.lt_of_gt above) below)
  · exact fun above => ⟨latest, first.mem, above⟩

theorem update?_eq_some_iff :
    update? (identity.config width newOnly) channel = some latest ↔
      (∃ place, FirstGreatest channel.versions place latest) ∧ channel.name = identity.channel ∧
        ∃ running, identity.number? = some running ∧ compare latest.number running = .gt := by
  simp only [← Channel.latest?_eq_some_iff]
  cases found : channel.latest? with
  | none => simp [update?, Channel.latestVersion?, found]
  | some pair =>
    obtain ⟨release, place⟩ := pair
    cases known : identity.number? with
    | none => simp [update?, BuildIdentity.config, known]
    | some running =>
      simp only [update?, Channel.latestVersion?, found, BuildIdentity.config, known,
        Option.map_some, Option.bind_eq_bind, Option.bind_some, Option.ite_none_right_eq_some,
        Bool.and_eq_true, beq_iff_eq, VersionNumber.isNewerThan_iff, Option.some_inj,
        Prod.mk.injEq, exists_and_left, exists_eq', and_true, exists_eq_left']
      constructor
      · rintro ⟨offered, rfl⟩
        exact ⟨rfl, offered⟩
      · rintro ⟨rfl, offered⟩
        exact ⟨offered, rfl⟩

/-- The hint names the latest release of a channel that has an update. -/
theorem hintPieces_of_updates (updates : channel.Updates identity) :
    ∃ place latest, FirstGreatest channel.versions place latest ∧
      hintPieces (identity.config width newOnly) channel =
        line ["  Update available: ".toList, latest.label.toList] := by
  cases found : channel.latest? with
  | none =>
    obtain ⟨_, _, _, release, listed, _⟩ := updates
    rw [Channel.latest?_eq_none_iff] at found
    exact absurd listed (by simp [found])
  | some pair =>
    have first := Channel.latest?_eq_some_iff.mp found
    refine ⟨pair.2, pair.1, first, ?_⟩
    have update : update? (identity.config width newOnly) channel = some pair.1 :=
      update?_eq_some_iff.mpr ⟨⟨pair.2, first⟩, (updates_iff_of_firstGreatest first).mp updates⟩
    simp only [hintPieces, update]

theorem hintPieces_of_not_updates (current : ¬ channel.Updates identity) :
    hintPieces (identity.config width newOnly) channel = [] := by
  cases update : update? (identity.config width newOnly) channel with
  | none => simp only [hintPieces, update]
  | some latest =>
    obtain ⟨⟨place, first⟩, offered⟩ := update?_eq_some_iff.mp update
    exact absurd ((updates_iff_of_firstGreatest first).mpr offered) current

end Hint

open Channel (FirstGreatest)

/-- How a channel shows its latest release to the build that the channel was made for. -/
structure ShowsLatest (identity : BuildIdentity) (config : Config) (channel : Channel) :
    Prop where
  /-- A channel is shown as its heading, the lines of its releases, the hint and its changelog. -/
  parts : channelPieces config channel =
    headingPieces channel ++ (releaseLines channel).flatten ++ hintPieces config channel ++
      changelogPieces (bodyWidth config) (shownEntries config channel)
  whole : Narrow channel → ∀ calls,
    (renderChannel config channel (WrapCache.empty.after calls)).1 =
      .ofPieces (channelPieces config channel)
  /-- A label that is too long to pad cuts it off behind the heading. -/
  cutOff : ¬ Narrow channel → ∀ cache,
    (renderChannel config channel cache).1 = ⟨headingPieces channel, false⟩
  /-- The marked line is that of the first greatest release. -/
  latest : ∀ place line, (releaseLines channel)[place]? = some line →
    (EndsIn "  (latest)\n" line ↔ ∃ latest, FirstGreatest channel.versions place latest)
  once : (releaseLines channel).countP (fun line => decide (EndsIn "  (latest)\n" line)) =
    if channel.versions = [] then 0 else 1
  /-- The hint names that release. -/
  updates : channel.Updates identity → ∃ place latest,
    FirstGreatest channel.versions place latest ∧
      hintPieces config channel = line ["  Update available: ".toList, latest.label.toList]
  silent : ¬ channel.Updates identity → hintPieces config channel = []
  upToDate : ∀ line ∈ releaseLines channel, EndsIn "  (current)  (latest)\n" line →
    hintPieces config channel = []
  ahead : ∀ running, identity.number? = some running →
    (∀ release ∈ channel.versions, compare running release.number = .gt) →
      hintPieces config channel = []

/-- A running release that is the latest one leaves nothing to update to. -/
theorem not_updates_of_marked {record : ChannelRecord}
    (shows : Channel.Shows identity.marker record channel) {line : List (List Char)}
    (member : line ∈ releaseLines channel) (marked : EndsIn "  (current)  (latest)\n" line) :
    ¬ channel.Updates identity := by
  obtain ⟨place, found⟩ := List.mem_iff_getElem?.mp member
  rw [getElem?_releaseLines] at found
  obtain ⟨release, here, rfl⟩ := Option.map_eq_some_iff.mp found
  rw [endsIn_current_latest_iff, beq_iff_eq, Channel.latestIndex?_eq_some_iff] at marked
  obtain ⟨isCurrent, latest, first⟩ := marked
  obtain rfl : release = latest := Option.some.inj (here.symm.trans first.inRange)
  have runs : identity.number? = some release.number :=
    ((shows.isCurrent place release here).mp isCurrent).2.1
  rw [updates_iff_of_firstGreatest first]
  rintro ⟨_, running, known, above⟩
  obtain rfl : release.number = running := Option.some.inj (runs.symm.trans known)
  simp at above

theorem not_updates_of_ahead {running : VersionNumber} (known : identity.number? = some running)
    (ahead : ∀ release ∈ channel.versions, compare running release.number = .gt) :
    ¬ channel.Updates identity := by
  rintro ⟨_, other, same, release, listed, above⟩
  obtain rfl : running = other := Option.some.inj (known.symm.trans same)
  have below := OrientedCmp.lt_of_gt (ahead release listed)
  simp [below] at above

theorem showsLatest {record : ChannelRecord}
    (shows : Channel.Shows identity.marker record channel) (width : Nat) (newOnly : Bool) :
    ShowsLatest identity (identity.config width newOnly) channel where
  parts := by rw [channelPieces, topPieces, tablePieces_eq_flatten]
  whole := renderChannel_after
  cutOff wide cache := by rw [renderChannel_of_wide wide]
  latest _ _ := endsIn_latest_releaseLines_iff
  once := countP_releaseLines channel
  updates := hintPieces_of_updates
  silent := hintPieces_of_not_updates
  upToDate _ member marked := hintPieces_of_not_updates (not_updates_of_marked shows member marked)
  ahead _ known ahead := hintPieces_of_not_updates (not_updates_of_ahead known ahead)

/-- How channels show their latest releases to the build that they were made for. -/
structure LatestAgree (identity : BuildIdentity) (config : Config) (channels : List Channel) :
    Prop where
  one : ∀ channel ∈ channels, ShowsLatest identity config channel
  /-- Several channels are shown one by one. -/
  all : (∀ channel ∈ channels, Narrow channel) → ∀ calls,
    (renderChannels config channels (WrapCache.empty.after calls)).1 =
      .ofPieces ((line []).intercalate (channels.map (channelPieces config)))
  /-- Nothing is shown behind the heading of the first channel that is cut off. -/
  cutOff : (¬ ∀ channel ∈ channels, Narrow channel) → ∀ cache,
    ∃ before wide after, StopsAt config channels cache before wide after

theorem latestAgree {manifest : Manifest}
    (built : Channel.ofManifest identity.marker manifest = .ok channels) (width : Nat)
    (newOnly : Bool) : LatestAgree identity (identity.config width newOnly) channels where
  one channel member := by
    obtain ⟨record, shows⟩ := Channel.exists_shows built channel member
    exact showsLatest shows width newOnly
  all := renderChannels_after
  cutOff wide cache := exists_stopsAt wide

/-- A record of the running release, and of two releases of one number above it. -/
def tiedRecord : ChannelRecord :=
  ⟨"stable", "",
    [⟨"1.0.0", none, ⟨⟨2023, 1, 1⟩, 0, 0, 0, 0⟩⟩,
      ⟨"1.1.0", some "Spring", ⟨⟨2023, 4, 1⟩, 0, 0, 0, 0⟩⟩,
      ⟨"1.1", some "Again", ⟨⟨2023, 4, 2⟩, 0, 0, 0, 0⟩⟩], []⟩

def tiedChannel : Channel :=
  ⟨"stable", "",
    [⟨"1.0.0", .ofComponents 1 0 0, ⟨⟨2023, 1, 1⟩, 0, 0, 0, 0⟩, true⟩,
      ⟨"Spring", .ofComponents 1 1 0, ⟨⟨2023, 4, 1⟩, 0, 0, 0, 0⟩, false⟩,
      ⟨"Again", .ofComponents 1 1 0, ⟨⟨2023, 4, 2⟩, 0, 0, 0, 0⟩, false⟩], []⟩

theorem latestAgree_of_tied :
    Channel.ofManifest (BuildIdentity.marker ⟨"stable", some "1.0"⟩) ⟨[tiedRecord]⟩ =
        .ok [tiedChannel] ∧
      tiedChannel.Updates ⟨"stable", some "1.0"⟩ ∧
        LatestAgree ⟨"stable", some "1.0"⟩
          (BuildIdentity.config ⟨"stable", some "1.0"⟩ 80 false) [tiedChannel] := by
  have built : Channel.ofManifest (BuildIdentity.marker ⟨"stable", some "1.0"⟩) ⟨[tiedRecord]⟩ =
      .ok [tiedChannel] := by decide +kernel
  have known : BuildIdentity.number? ⟨"stable", some "1.0"⟩ = some (.ofComponents 1 0 0) := by
    decide +kernel
  refine ⟨built, ⟨rfl, .ofComponents 1 0 0, known, ?_⟩, latestAgree built 80 false⟩
  exact ⟨_, List.mem_cons_of_mem _ List.mem_cons_self, by decide +kernel⟩

/-- Nothing is marked in a channel whose only label has one character more than the padding. -/
theorem not_marked_of_wideLabel :
    Manifest.parse (labelled (labelOf 65536)).encode = .ok (labelled (labelOf 65536)) ∧
      Channel.ofManifest (BuildIdentity.marker ⟨"stable", some "dev"⟩) (labelled (labelOf 65536)) =
        .ok [labelledChannel (labelOf 65536)] ∧
      (labelledChannel (labelOf 65536)).versions ≠ [] ∧
      ¬ "(latest)".toList <:+: (renderChannel (BuildIdentity.config ⟨"stable", some "dev"⟩ 80 false)
        (labelledChannel (labelOf 65536)) .empty).1.text := by
  have unknown : BuildIdentity.marker ⟨"stable", some "dev"⟩ = ⟨"stable", none⟩ := by
    decide +kernel
  have wide : ¬ Narrow (labelledChannel (labelOf 65536)) := by
    simp [Narrow, labelledChannel, length_labelOf, maxPadding]
  refine ⟨parse_labelled _, ?_, List.cons_ne_nil _ _, ?_⟩
  · rw [unknown]
    exact Channel.ofManifest_eq_ok_iff.mpr (shows_labelled _)
  · have cut : (headingPieces (labelledChannel (labelOf 65536))).flatten = "stable\n".toList := rfl
    rw [renderChannel_of_wide wide, Printout.text, cut]
    decide

end Report
end ReleaseFeed
