import ReleaseFeed.Channel.Reference

namespace ReleaseFeed.ChannelRef

/-- A reference to the first channel of a name in a set. -/
structure IsFirst (reference : ChannelRef) (channels : List Channel) (name : String) : Prop where
  snapshot : reference.snapshot = channels
  inRange : channels[reference.index]? = some reference.channel
  named : reference.channel.name = name
  first : ∀ earlier ∈ channels.take reference.index, earlier.name ≠ name

variable {channels : List Channel} {name : String}

theorem isFirst_of_find? {reference : ChannelRef}
    (found : find? channels name = some reference) : reference.IsFirst channels name where
  snapshot := snapshot_of_find? found
  inRange := by
    rw [← snapshot_of_find? found]
    exact List.getElem?_eq_getElem reference.inRange
  named := name_of_find? found
  first := by
    unfold find? at found
    split at found
    · cases found
      intro earlier member
      obtain ⟨place, bound, same⟩ := List.mem_take_iff_getElem.mp member
      have skipped := List.not_of_lt_findIdx (Nat.lt_of_lt_of_le bound (Nat.min_le_left _ _))
      simpa [← same] using skipped
    · cases found

/-- A reference points to a channel of the name exactly when no earlier channel has the name. -/
theorem IsFirst.index_eq_iff {reference : ChannelRef} (isFirst : reference.IsFirst channels name)
    {place : Nat} {channel : Channel} (found : channels[place]? = some channel)
    (named : channel.name = name) :
    reference.index = place ↔ ∀ earlier ∈ channels.take place, earlier.name ≠ name := by
  constructor
  · rintro rfl
    exact isFirst.first
  · intro first
    rcases Nat.lt_trichotomy reference.index place with before | same | behind
    · have member := List.mem_of_getElem? ((List.getElem?_take_of_lt before).trans isFirst.inRange)
      exact absurd isFirst.named (first _ member)
    · exact same
    · have member := List.mem_of_getElem? ((List.getElem?_take_of_lt behind).trans found)
      exact absurd named (isFirst.first _ member)

theorem find?_eq_none_iff :
    find? channels name = none ↔ ∀ channel ∈ channels, channel.name ≠ name := by
  unfold find?
  split
  · rename_i inRange
    obtain ⟨channel, member, named⟩ := List.findIdx_lt_length.mp inRange
    simp only [reduceCtorEq, false_iff, Classical.not_forall]
    exact ⟨channel, member, by simpa using named⟩
  · rename_i outside
    rw [List.findIdx_lt_length] at outside
    simp only [true_iff]
    intro channel member named
    exact outside ⟨channel, member, by simpa using named⟩

theorem channel_find? (channels : List Channel) (name : String) :
    (find? channels name).map channel = Channel.find? channels name := by
  cases found : find? channels name with
  | none =>
    have missing := find?_eq_none_iff.mp found
    exact (List.find?_eq_none.mpr (by simpa using missing)).symm
  | some reference =>
    have first := isFirst_of_find? found
    obtain ⟨inRange, here⟩ := List.getElem?_eq_some_iff.mp first.inRange
    refine (List.find?_eq_some_iff_getElem.mpr ⟨by simpa using first.named, ?_⟩).symm
    refine ⟨reference.index, inRange, here, ?_⟩
    intro place before
    have listed : channels[place] ∈ channels.take reference.index :=
      List.mem_take_iff_getElem.mpr ⟨place, by omega, rfl⟩
    simpa using first.first _ listed

end ReleaseFeed.ChannelRef
