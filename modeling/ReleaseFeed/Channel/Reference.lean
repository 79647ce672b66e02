import ReleaseFeed.Channel.Basic

namespace ReleaseFeed

/-- A place in a set of channels. -/
structure ChannelRef where
  snapshot : List Channel
  index : Nat
  inRange : index < snapshot.length

namespace ChannelRef

def channel (reference : ChannelRef) : Channel :=
  reference.snapshot.get ⟨reference.index, reference.inRange⟩

def find? (channels : List Channel) (name : String) : Option ChannelRef :=
  if inRange : channels.findIdx (fun channel => channel.name == name) < channels.length then
    some ⟨channels, _, inRange⟩
  else none

/-- A reference keeps the set that it was looked up in. -/
theorem snapshot_of_find? {channels : List Channel} {name : String} {reference : ChannelRef}
    (found : find? channels name = some reference) : reference.snapshot = channels := by
  unfold find? at found
  split at found
  · exact (Option.some.inj found) ▸ rfl
  · cases found

/-- A reference denotes a channel of the name that was looked up. -/
theorem name_of_find? {channels : List Channel} {name : String} {reference : ChannelRef}
    (found : find? channels name = some reference) : reference.channel.name = name := by
  unfold find? at found
  split at found
  · rename_i inRange
    cases found
    simpa [channel] using List.findIdx_getElem (w := inRange)
  · cases found

end ChannelRef
end ReleaseFeed
