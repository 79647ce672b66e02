import ReleaseFeed.Proofs.Report.Printing
import ReleaseFeed.Proofs.Wrap.Requests

namespace ReleaseFeed

/-- How channels are shown to a build. -/
def BuildIdentity.config (identity : BuildIdentity) (width : Nat) (newOnly : Bool) :
    Report.Config :=
  ⟨width, identity.channel, identity.number?, newOnly⟩

namespace Report

open WrapCache (ofRequests requests wrap_ofRequests after_empty)

variable {config : Config} {channel : Channel} {channels : List Channel} {width : Nat}
  {items : List ChangelogItem} {entries : List ChangelogEntry} {earlier : List (List Char × Nat)}

/-- Whether the text of a line ends in a mark. -/
def EndsIn (mark : String) (line : List (List Char)) : Prop := mark.toList <:+ line.flatten

instance (mark : String) (line : List (List Char)) : Decidable (EndsIn mark line) :=
  inferInstanceAs (Decidable (_ <:+ _))

/-- The lines of changes, each of them wrapped anew. -/
def plainItems (width : Nat) (items : List ChangelogItem) : List (List Char) :=
  items.flatMap fun item => itemPieces item (Wrap.wrapText item.body.toList width)

def entryPieces (width : Nat) (entry : ChangelogEntry) : List (List Char) :=
  entryHeading entry ++ plainItems width entry.items

/-- A changelog under its heading; nothing if it has no entries. -/
def changelogPieces (width : Nat) (entries : List ChangelogEntry) : List (List Char) :=
  if entries.isEmpty then []
  else line [] ++ line ["  Changelog".toList] ++ entries.flatMap (entryPieces width)

/-- The lines of a channel above its changelog. -/
def topPieces (config : Config) (channel : Channel) : List (List Char) :=
  headingPieces channel ++ tablePieces channel ++ hintPieces config channel

/-- What changes ask of the cache, the latest first. -/
def requestsOf (width : Nat) (items : List ChangelogItem) : List (List Char × Nat) :=
  (items.map fun item => (item.body.toList, width)).reverse

theorem requestsOf_cons (item : ChangelogItem) :
    requestsOf width (item :: items) = requestsOf width items ++ [(item.body.toList, width)] := by
  simp [requestsOf]

theorem requestsOf_append (first second : List ChangelogItem) :
    requestsOf width (first ++ second) = requestsOf width second ++ requestsOf width first := by
  simp [requestsOf]

theorem renderItems_ofRequests : renderItems width items (ofRequests earlier) =
    (plainItems width items, ofRequests (requestsOf width items ++ earlier)) := by
  induction items generalizing earlier with
  | nil => rfl
  | cons item rest ih =>
    simp only [renderItems, WrapCache.wrapped, wrap_ofRequests, ih, requestsOf_cons,
      List.append_assoc, List.singleton_append]
    rfl

def itemsOf (entries : List ChangelogEntry) : List ChangelogItem :=
  entries.flatMap ChangelogEntry.items

theorem renderEntries_ofRequests : renderEntries width entries (ofRequests earlier) =
    (entries.flatMap (entryPieces width),
      ofRequests (requestsOf width (itemsOf entries) ++ earlier)) := by
  induction entries generalizing earlier with
  | nil => rfl
  | cons entry rest ih =>
    simp only [renderEntries, renderItems_ofRequests, ih, itemsOf, List.flatMap_cons,
      requestsOf_append, List.append_assoc, entryPieces]

theorem renderChangelog_ofRequests : renderChangelog config channel (ofRequests earlier) =
    (changelogPieces (bodyWidth config) (shownEntries config channel),
      ofRequests (requestsOf (bodyWidth config) (itemsOf (shownEntries config channel)) ++
        earlier)) := by
  unfold renderChangelog changelogPieces
  generalize shownEntries config channel = entries
  cases entries with
  | nil => rfl
  | cons entry rest =>
    simp only [List.isEmpty_cons, Bool.false_eq_true, if_false, renderEntries_ofRequests]

/-- The text of a channel, every change in it wrapped anew. -/
def channelPieces (config : Config) (channel : Channel) : List (List Char) :=
  topPieces config channel ++ changelogPieces (bodyWidth config) (shownEntries config channel)

/-- What a channel asks of the cache, the latest first. -/
def channelRequests (config : Config) (channel : Channel) : List (List Char × Nat) :=
  requestsOf (bodyWidth config) (itemsOf (shownEntries config channel))

/-- A channel is printed as if there was no cache, and its shown changes join the requests. -/
theorem renderChannel_ofRequests (narrow : Narrow channel) :
    renderChannel config channel (ofRequests earlier) =
      (.ofPieces (channelPieces config channel),
        ofRequests (channelRequests config channel ++ earlier)) := by
  have fits : ¬ maxPadding < labelWidth channel :=
    Nat.not_lt.mpr (labelWidth_le_iff.mpr narrow)
  simp only [renderChannel, fits, if_false, renderChangelog_ofRequests, channelPieces, topPieces,
    channelRequests, List.append_assoc]

/-- Whatever calls the cache has answered, they leave no trace in the text of a channel. -/
theorem renderChannel_after (narrow : Narrow channel) (calls : List WrapCache.Call) :
    (renderChannel config channel (WrapCache.empty.after calls)).1 =
      .ofPieces (channelPieces config channel) := by
  rw [after_empty, renderChannel_ofRequests narrow]

theorem renderChannels_after (narrow : ∀ channel ∈ channels, Narrow channel)
    (calls : List WrapCache.Call) :
    (renderChannels config channels (WrapCache.empty.after calls)).1 =
      .ofPieces ((line []).intercalate (channels.map (channelPieces config))) := by
  rw [after_empty]
  generalize requests calls = earlier
  induction channels generalizing earlier with
  | nil => rfl
  | cons channel rest ih =>
    rw [List.forall_mem_cons] at narrow
    cases rest with
    | nil =>
      rw [List.map_singleton, List.intercalate_singleton, renderChannels,
        renderChannel_ofRequests narrow.1]
    | cons next others =>
      rw [renderChannels_cons_of_narrow narrow.1 (List.cons_ne_nil _ _),
        renderChannel_ofRequests narrow.1, ih narrow.2]
      simp only [List.map_cons, List.intercalate_cons_cons]
      rfl

end Report
end ReleaseFeed
