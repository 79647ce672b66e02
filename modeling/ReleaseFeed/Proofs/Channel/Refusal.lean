import ReleaseFeed.Proofs.Channel.Acceptance

namespace ReleaseFeed

/-- The version texts of a manifest with the names of their channels, in the order of reading. -/
def Manifest.placedTexts (manifest : Manifest) : List (String × String) :=
  manifest.channels.flatMap fun record => record.versionTexts.map fun text => (record.name, text)

namespace Channel

variable {α : Type}

theorem refusal?_numbered (channel : String) (version : α → String) (record : α) :
    refusal? (numbered channel version record) = refusal? (numberIn channel (version record)) := by
  unfold numbered
  cases numberIn channel (version record) <;> rfl

theorem refusal?_ofRecord (marker : BuildMarker) (record : ChannelRecord) :
    refusal? (ofRecord marker record) =
      record.versionTexts.findSome? fun text => refusal? (numberIn record.name text) := by
  have stages : refusal? (ofRecord marker record) =
      (refusal? (record.versions.mapM (numbered record.name VersionRecord.version))).or
        (refusal? (record.changelog.mapM (numbered record.name EntryRecord.version))) := by
    unfold ofRecord
    cases record.versions.mapM (numbered record.name VersionRecord.version) with
    | error error => rfl
    | ok versions =>
      cases record.changelog.mapM (numbered record.name EntryRecord.version) <;> rfl
  rw [stages, refusal?_mapM, refusal?_mapM, ChannelRecord.versionTexts, List.findSome?_append,
    List.findSome?_map, List.findSome?_map]
  simp only [refusal?_numbered]
  rfl

/-- A manifest is refused for its first bad version text. -/
theorem refusal?_ofManifest (marker : BuildMarker) (manifest : Manifest) :
    refusal? (ofManifest marker manifest) =
      manifest.placedTexts.findSome? fun placed => refusal? (numberIn placed.1 placed.2) := by
  rw [ofManifest, refusal?_mapM, Manifest.placedTexts, findSome?_flatMap]
  congr 1
  funext record
  rw [refusal?_ofRecord, List.findSome?_map]
  rfl

theorem numberIn_eq_error_iff {channel text : String} {error : PayloadError} :
    numberIn channel text = .error error ↔
      ∃ reason, VersionNumber.parse text = .error reason ∧
        error = .invalidVersion channel text reason.message := by
  unfold numberIn
  cases VersionNumber.parse text <;> simp [eq_comm]

theorem refusal?_numberIn_eq_none_iff {channel text : String} :
    refusal? (numberIn channel text) = none ↔
      ∃ number, VersionNumber.parse text = .ok number := by
  unfold numberIn
  cases VersionNumber.parse text <;> simp [refusal?]

/-- The first version text of a manifest that is no version number, with its channel. -/
structure FirstBad (manifest : Manifest) (channel text : String)
    (reason : VersionNumber.ParseError) : Prop where
  bad : VersionNumber.parse text = .error reason
  first : ∃ before behind, manifest.placedTexts = before ++ (channel, text) :: behind ∧
    ∀ earlier ∈ before, ∃ number, VersionNumber.parse earlier.2 = .ok number

/-- A manifest is refused with the error of its first bad version text. -/
theorem ofManifest_eq_error_iff {marker : BuildMarker} {manifest : Manifest}
    {error : PayloadError} :
    ofManifest marker manifest = .error error ↔
      ∃ channel text reason, FirstBad manifest channel text reason ∧
        error = .invalidVersion channel text reason.message := by
  rw [← refusal?_eq_some_iff, refusal?_ofManifest, List.findSome?_eq_some_iff]
  constructor
  · rintro ⟨before, ⟨channel, text⟩, behind, split, refused, accepted⟩
    obtain ⟨reason, bad, rfl⟩ := numberIn_eq_error_iff.mp (refusal?_eq_some_iff.mp refused)
    exact ⟨channel, text, reason, ⟨bad, before, behind, split, fun earlier member =>
      refusal?_numberIn_eq_none_iff.mp (accepted earlier member)⟩, rfl⟩
  · rintro ⟨channel, text, reason, ⟨bad, before, behind, split, accepted⟩, rfl⟩
    exact ⟨before, (channel, text), behind, split,
      refusal?_eq_some_iff.mpr (numberIn_eq_error_iff.mpr ⟨reason, bad, rfl⟩),
      fun earlier member => refusal?_numberIn_eq_none_iff.mpr (accepted earlier member)⟩

end Channel
end ReleaseFeed
