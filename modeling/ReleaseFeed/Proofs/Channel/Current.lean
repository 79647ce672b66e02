import ReleaseFeed.Proofs.Channel.Conversion
import ReleaseFeed.Proofs.Channel.Lookup
/-!
The running release in a set of channels. Main statement: it is marked once, in the channel that a
lookup of the running build's channel finds, exactly when no later channel of that name lists the
running release again.
-/
namespace ReleaseFeed.Channel

variable {α : Type} {marker : BuildMarker}

/-- A channel of the running build that lists the running release. -/
def Runs (marker : BuildMarker) (channel : Channel) : Prop :=
  channel.name = marker.channel ∧
    ∃ release ∈ channel.versions, marker.version = some release.number

/-- At most one release of all channels is marked, and it stands in the channel that a lookup of the
running build's channel finds. -/
structure SingleCurrent (marker : BuildMarker) (channels : List Channel) : Prop where
  atMostOne : (channels.flatMap Channel.versions).countP Release.isCurrent ≤ 1
  active : ∀ place channel, channels[place]? = some channel →
    (∃ release ∈ channel.versions, release.isCurrent = true) →
      ∃ reference, ChannelRef.find? channels marker.channel = some reference ∧
        reference.index = place

theorem countP_le_one {holds : α → Bool} {members : List α}
    (exclude : members.Pairwise fun earlier later => holds earlier = true → holds later = false) :
    members.countP holds ≤ 1 := by
  induction exclude with
  | nil => exact Nat.zero_le 1
  | @cons head tail later _ ih =>
    rw [List.countP_cons]
    by_cases here : holds head = true
    · have none : tail.countP holds = 0 := by
        rw [List.countP_eq_zero]
        intro member inside
        simp [later member inside here]
      simp [none, here]
    · simpa [here] using ih

/-- Of two releases of a channel, one at most is marked. -/
theorem Shows.exclude {record : ChannelRecord} {channel : Channel}
    (shows : Shows marker record channel) :
    channel.versions.Pairwise fun earlier later =>
      earlier.isCurrent = true → later.isCurrent = false := by
  rw [List.pairwise_iff_getElem]
  intro earlier later before inside order first
  rw [← Bool.not_eq_true]
  intro second
  obtain ⟨_, running, _⟩ := (shows.isCurrent earlier _ (List.getElem?_eq_getElem before)).mp first
  obtain ⟨_, again, distinct⟩ :=
    (shows.isCurrent later _ (List.getElem?_eq_getElem inside)).mp second
  have member : channel.versions[earlier] ∈ channel.versions.take later :=
    List.mem_take_iff_getElem.mpr ⟨earlier, by omega, rfl⟩
  exact distinct _ member (Option.some.inj (running.symm.trans again))

/-- A channel marks a release exactly when it is one of the running build and lists the running
release. -/
theorem Shows.exists_isCurrent_iff {record : ChannelRecord} {channel : Channel}
    (shows : Shows marker record channel) :
    (∃ release ∈ channel.versions, release.isCurrent = true) ↔ channel.Runs marker := by
  constructor
  · rintro ⟨release, member, marked⟩
    obtain ⟨place, found⟩ := List.getElem?_of_mem member
    obtain ⟨named, running, _⟩ := (shows.isCurrent place release found).mp marked
    exact ⟨named, release, member, running⟩
  · rintro ⟨named, release, member, running⟩
    -- the first release of the running number is the one that is marked
    let runs : Release → Bool := fun other => decide (other.number = release.number)
    have inRange : channel.versions.findIdx runs < channel.versions.length :=
      List.findIdx_lt_length.mpr ⟨release, member, by simp [runs]⟩
    have same : (channel.versions[channel.versions.findIdx runs]).number = release.number := by
      simpa [runs] using List.findIdx_getElem (w := inRange)
    refine ⟨_, List.getElem_mem inRange, ?_⟩
    rw [shows.isCurrent _ _ (List.getElem?_eq_getElem inRange), same]
    refine ⟨named, running, ?_⟩
    intro earlier listed
    obtain ⟨place, bound, rfl⟩ := List.mem_take_iff_getElem.mp listed
    have skipped := List.not_of_lt_findIdx (Nat.lt_of_lt_of_le bound (Nat.min_le_left _ _))
    simpa [runs] using skipped

section Built

variable {manifest : Manifest} {channels : List Channel}

theorem exists_shows (built : ofManifest marker manifest = .ok channels) :
    ∀ channel ∈ channels, ∃ record, Shows marker record channel := by
  have shows := (ofManifest_eq_ok_iff.mp built).flip (R := flip (Shows marker))
  exact forall_left_of_forall₂ shows fun _ record shown => ⟨record, shown⟩

/-- No channel of the running build but the first one lists the running release. -/
def RunsFirst (marker : BuildMarker) (channels : List Channel) : Prop :=
  channels.Pairwise fun earlier later => earlier.name = marker.channel → ¬ later.Runs marker

theorem countP_isCurrent_le_one (built : ofManifest marker manifest = .ok channels)
    (runsFirst : RunsFirst marker channels) :
    (channels.flatMap Channel.versions).countP Release.isCurrent ≤ 1 := by
  apply countP_le_one
  rw [List.pairwise_flatMap]
  constructor
  · intro channel member
    obtain ⟨record, shows⟩ := exists_shows built channel member
    exact shows.exclude
  · refine runsFirst.imp_of_mem ?_
    intro earlier later before behind alone first inside second listed marked
    obtain ⟨_, earlierShows⟩ := exists_shows built earlier before
    obtain ⟨_, laterShows⟩ := exists_shows built later behind
    have runs := earlierShows.exists_isCurrent_iff.mp ⟨first, inside, marked⟩
    rw [← Bool.not_eq_true]
    intro again
    exact alone runs.1 (laterShows.exists_isCurrent_iff.mp ⟨second, listed, again⟩)

/-- A marked release stands in the channel that is found, if none of the later channels lists the
running one. -/
theorem exists_find?_of_isCurrent (built : ofManifest marker manifest = .ok channels)
    (runsFirst : RunsFirst marker channels) {place : Nat} {channel : Channel}
    (found : channels[place]? = some channel)
    (marked : ∃ release ∈ channel.versions, release.isCurrent = true) :
    ∃ reference, ChannelRef.find? channels marker.channel = some reference ∧
      reference.index = place := by
  have member := List.mem_of_getElem? found
  obtain ⟨_, shows⟩ := exists_shows built channel member
  have runs := shows.exists_isCurrent_iff.mp marked
  cases lookup : ChannelRef.find? channels marker.channel with
  | none => exact absurd runs.1 (ChannelRef.find?_eq_none_iff.mp lookup channel member)
  | some reference =>
    refine ⟨reference, rfl, ?_⟩
    rw [(ChannelRef.isFirst_of_find? lookup).index_eq_iff found runs.1]
    intro earlier listed named
    obtain ⟨before, bound, rfl⟩ := List.mem_take_iff_getElem.mp listed
    obtain ⟨inRange, rfl⟩ := List.getElem?_eq_some_iff.mp found
    exact List.pairwise_iff_getElem.mp runsFirst before place _ inRange (by omega) named runs

/-- A later channel that lists the running release is not the one that is found. -/
theorem runsFirst_of_singleCurrent (built : ofManifest marker manifest = .ok channels)
    (single : SingleCurrent marker channels) : RunsFirst marker channels := by
  rw [RunsFirst, List.pairwise_iff_getElem]
  intro earlier later before inside order named runs
  obtain ⟨_, shows⟩ := exists_shows built _ (List.getElem_mem inside)
  obtain ⟨reference, lookup, same⟩ := single.active later _ (List.getElem?_eq_getElem inside)
    (shows.exists_isCurrent_iff.mpr runs)
  have isFirst := ChannelRef.isFirst_of_find? lookup
  rw [isFirst.index_eq_iff (List.getElem?_eq_getElem inside) runs.1] at same
  exact same _ (List.mem_take_iff_getElem.mpr ⟨earlier, by omega, rfl⟩) named

/-- What is marked in the channels of a manifest. -/
structure MarksRunning (marker : BuildMarker) (channels : List Channel) : Prop where
  /-- A channel marks one release at most. -/
  atMostOne : ∀ channel ∈ channels, channel.versions.countP Release.isCurrent ≤ 1
  /-- A channel marks a release when it is one of the running build and lists the running release. -/
  runs : ∀ channel ∈ channels,
    (∃ release ∈ channel.versions, release.isCurrent = true) ↔ channel.Runs marker
  /-- One release of all channels is marked, in the channel that is found, exactly when no later
  channel of that name lists the running release. -/
  single : SingleCurrent marker channels ↔ RunsFirst marker channels
  /-- Channels of distinct names keep the mark single. -/
  distinct : (channels.map Channel.name).Nodup → SingleCurrent marker channels

theorem marksRunning (built : ofManifest marker manifest = .ok channels) :
    MarksRunning marker channels := by
  have single : SingleCurrent marker channels ↔ RunsFirst marker channels :=
    ⟨runsFirst_of_singleCurrent built, fun runsFirst =>
      ⟨countP_isCurrent_le_one built runsFirst, fun _ _ =>
        exists_find?_of_isCurrent built runsFirst⟩⟩
  refine ⟨?_, ?_, single, ?_⟩
  · intro channel member
    obtain ⟨_, shows⟩ := exists_shows built channel member
    exact countP_le_one shows.exclude
  · intro channel member
    obtain ⟨_, shows⟩ := exists_shows built channel member
    exact shows.exists_isCurrent_iff
  · intro distinct
    refine single.mpr ((List.pairwise_map.mp distinct).imp ?_)
    intro earlier later different named runs
    exact different (named.trans runs.1.symm)

end Built

def stableRecord : ChannelRecord :=
  ⟨"stable", "", [⟨"1.0.0", none, ⟨⟨2023, 1, 1⟩, 0, 0, 0, 0⟩⟩], []⟩

/-- The channel of `stableRecord`, seen from a build that runs its release. -/
def stableChannel : Channel :=
  ⟨"stable", "", [⟨"1.0.0", .ofComponents 1 0 0, ⟨⟨2023, 1, 1⟩, 0, 0, 0, 0⟩, true⟩], []⟩

theorem marksRunning_of_stable :
    ofManifest ⟨"stable", some (.ofComponents 1 0 0)⟩ ⟨[stableRecord]⟩ = .ok [stableChannel] ∧
      MarksRunning ⟨"stable", some (.ofComponents 1 0 0)⟩ [stableChannel] := by
  have built : ofManifest ⟨"stable", some (.ofComponents 1 0 0)⟩ ⟨[stableRecord]⟩ =
      .ok [stableChannel] := by decide +kernel
  exact ⟨built, marksRunning built⟩

/-- Two channels of the running build's name that list the running release mark it twice. -/
theorem not_singleCurrent_of_repeated :
    ¬ ∀ channels, ofManifest ⟨"stable", some (.ofComponents 1 0 0)⟩ ⟨[stableRecord, stableRecord]⟩ =
      .ok channels → SingleCurrent ⟨"stable", some (.ofComponents 1 0 0)⟩ channels := by
  intro single
  have built : ofManifest ⟨"stable", some (.ofComponents 1 0 0)⟩ ⟨[stableRecord, stableRecord]⟩ =
      .ok [stableChannel, stableChannel] := by decide +kernel
  have twice : ([stableChannel, stableChannel].flatMap Channel.versions).countP Release.isCurrent =
      2 := rfl
  have once := (single _ built).atMostOne
  omega

end ReleaseFeed.Channel
