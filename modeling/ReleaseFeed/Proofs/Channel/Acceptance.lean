import ReleaseFeed.Channel.Build
import ReleaseFeed.Proofs.Traversal

namespace ReleaseFeed

/-- The version texts of a channel, those of its versions before those of its changelog. -/
def ChannelRecord.versionTexts (record : ChannelRecord) : List String :=
  record.versions.map VersionRecord.version ++ record.changelog.map EntryRecord.version

def Manifest.versionTexts (manifest : Manifest) : List String :=
  manifest.channels.flatMap ChannelRecord.versionTexts

namespace Channel

variable {α : Type}

theorem exists_numbered_eq_ok_iff {channel : String} {version : α → String} {record : α} :
    (∃ pair, numbered channel version record = .ok pair) ↔
      ∃ number, VersionNumber.parse (version record) = .ok number := by
  simp only [numbered, bind_eq_ok_iff, numberIn]
  cases VersionNumber.parse (version record) <;> simp [pure, Except.pure]

theorem exists_ofRecord_eq_ok_iff {marker : BuildMarker} {record : ChannelRecord} :
    (∃ channel, ofRecord marker record = .ok channel) ↔
      ∀ text ∈ record.versionTexts, ∃ number, VersionNumber.parse text = .ok number := by
  have both : (∃ channel, ofRecord marker record = .ok channel) ↔
      (∃ versions, record.versions.mapM (numbered record.name VersionRecord.version) =
        .ok versions) ∧
      ∃ changelog, record.changelog.mapM (numbered record.name EntryRecord.version) =
        .ok changelog := by
    simp only [ofRecord, bind_eq_ok_iff]
    constructor
    · rintro ⟨_, versions, first, changelog, second, _⟩
      exact ⟨⟨versions, first⟩, ⟨changelog, second⟩⟩
    · rintro ⟨⟨versions, first⟩, ⟨changelog, second⟩⟩
      exact ⟨_, versions, first, changelog, second, rfl⟩
  rw [both, exists_mapM_eq_ok_iff, exists_mapM_eq_ok_iff]
  simp only [exists_numbered_eq_ok_iff, ChannelRecord.versionTexts, List.mem_append, or_imp,
    forall_and, List.forall_mem_map]

/-- A manifest becomes channels exactly when each of its version texts is a version number. -/
theorem exists_ofManifest_eq_ok_iff {marker : BuildMarker} {manifest : Manifest} :
    (∃ channels, ofManifest marker manifest = .ok channels) ↔
      ∀ text ∈ manifest.versionTexts, ∃ number, VersionNumber.parse text = .ok number := by
  simp only [ofManifest, exists_mapM_eq_ok_iff, exists_ofRecord_eq_ok_iff, Manifest.versionTexts,
    List.mem_flatMap]
  constructor
  · rintro accepted text ⟨record, member, found⟩
    exact accepted record member text found
  · intro accepted record member text found
    exact accepted text ⟨record, member, found⟩

/-- A manifest is refused exactly when one of its version texts is no version number. -/
theorem exists_ofManifest_eq_error_iff {marker : BuildMarker} {manifest : Manifest} :
    (∃ error, ofManifest marker manifest = .error error) ↔
      ∃ text ∈ manifest.versionTexts, ∃ error, VersionNumber.parse text = .error error := by
  have accepted : (∃ channels, ofManifest marker manifest = .ok channels) ↔ _ :=
    exists_ofManifest_eq_ok_iff
  constructor
  · rintro ⟨error, refused⟩
    apply Classical.byContradiction
    intro none
    obtain ⟨channels, built⟩ := accepted.mpr fun text member => by
      cases read : VersionNumber.parse text with
      | ok number => exact ⟨number, rfl⟩
      | error error => exact absurd ⟨text, member, error, read⟩ none
    simp [built] at refused
  · rintro ⟨text, member, error, bad⟩
    cases built : ofManifest marker manifest with
    | error error => exact ⟨error, rfl⟩
    | ok channels =>
      obtain ⟨number, good⟩ := accepted.mp ⟨channels, built⟩ text member
      simp [good] at bad

end Channel
end ReleaseFeed
