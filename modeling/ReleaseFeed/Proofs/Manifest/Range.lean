import ReleaseFeed.Manifest.Decode
import ReleaseFeed.Proofs.Json.Invariant
import ReleaseFeed.Proofs.Time.Range

namespace ReleaseFeed

open Json (Gives gives_list gives_true keeps_member keeps_member_of_ne)
open Time (Instant)

theorem gives_instant : Gives readInstant Instant.InRange := by
  intro bytes instant rest found
  obtain ⟨⟨text, left⟩, -, found⟩ := bind_eq_ok_iff.mp found
  dsimp only at found
  split at found
  · rename_i read
    obtain ⟨rfl, -⟩ := Prod.mk.inj (Except.ok.inj found)
    exact Instant.parse_inRange read
  · cases found

theorem VersionRecord.gives_inRange : Gives schema.read fun record => record.date.InRange := by
  have kept : schema.Keeps fun seen record => "date" ∈ seen → record.date.InRange := by
    refine ⟨by simp, ?_⟩
    simp only [schema, List.forall_mem_cons]
    refine ⟨?version, ?name, ?date, List.forall_mem_nil _⟩
    case version => exact keeps_member_of_ne (by simp) fun _ _ inRange => inRange
    case name => exact keeps_member_of_ne (by simp) fun _ _ inRange => inRange
    case date => exact keeps_member gives_instant fun date inRange _ _ _ _ => inRange
  refine (Json.gives_record kept).imp ?_
  rintro record ⟨keys, holds, required⟩
  have known := required _ (.tail _ (.tail _ (.head _))) rfl
  exact holds known

theorem EntryRecord.gives_inRange : Gives schema.read fun record => record.date.InRange := by
  have kept : schema.Keeps fun seen record => "date" ∈ seen → record.date.InRange := by
    refine ⟨by simp, ?_⟩
    simp only [schema, List.forall_mem_cons]
    refine ⟨?version, ?date, ?items, List.forall_mem_nil _⟩
    case version => exact keeps_member_of_ne (by simp) fun _ _ inRange => inRange
    case date => exact keeps_member gives_instant fun date inRange _ _ _ _ => inRange
    case items => exact keeps_member_of_ne (by simp) fun _ _ inRange => inRange
  refine (Json.gives_record kept).imp ?_
  rintro record ⟨keys, holds, required⟩
  have known := required _ (.tail _ (.head _)) rfl
  exact holds known

structure ChannelRecord.InRange (record : ChannelRecord) : Prop where
  versions : ∀ version ∈ record.versions, version.date.InRange
  changelog : ∀ entry ∈ record.changelog, entry.date.InRange

theorem ChannelRecord.gives_inRange : Gives schema.read InRange := by
  have kept : schema.Keeps fun _ record => record.InRange := by
    refine ⟨⟨by simp [schema], by simp [schema]⟩, ?_⟩
    simp only [schema, List.forall_mem_cons]
    refine ⟨?name, ?description, ?versions, ?changelog, List.forall_mem_nil _⟩
    case name =>
      exact keeps_member (gives_true _) fun _ _ _ _ before => ⟨before.versions, before.changelog⟩
    case description =>
      exact keeps_member (gives_true _) fun _ _ _ _ before => ⟨before.versions, before.changelog⟩
    case versions =>
      exact keeps_member (gives_list VersionRecord.gives_inRange)
        fun versions inRange _ _ before => ⟨inRange, before.changelog⟩
    case changelog =>
      exact keeps_member (gives_list EntryRecord.gives_inRange)
        fun changelog inRange _ _ before => ⟨before.versions, inRange⟩
  refine (Json.gives_record kept).imp ?_
  rintro record ⟨keys, holds, -⟩
  exact holds

theorem Manifest.gives_inRange :
    Gives schema.read fun manifest => ∀ channel ∈ manifest.channels, channel.InRange := by
  have kept : schema.Keeps fun _ manifest => ∀ channel ∈ manifest.channels, channel.InRange := by
    refine ⟨by simp [schema], ?_⟩
    simp only [schema, List.forall_mem_cons]
    refine ⟨?channels, List.forall_mem_nil _⟩
    exact keeps_member (gives_list ChannelRecord.gives_inRange) fun _ inRange _ _ _ => inRange
  refine (Json.gives_record kept).imp ?_
  rintro manifest ⟨keys, holds, -⟩
  exact holds

theorem Manifest.parse_inRange {payload : List UInt8} {manifest : Manifest}
    (parsed : parse payload = .ok manifest) :
    ∀ channel ∈ manifest.channels, channel.InRange := by
  rw [parse] at parsed
  split at parsed
  · cases parsed
  split at parsed
  · rename_i read
    obtain rfl := Except.ok.inj parsed
    exact Json.gives_document gives_inRange read
  · cases parsed

end ReleaseFeed
