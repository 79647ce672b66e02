import ReleaseFeed.Proofs.Channel.Refusal
/-!
Channels against the records that they come from. Main statement: a manifest becomes the one list of
channels that shows its records in order, or is refused for its first bad version text.
-/
namespace ReleaseFeed

structure ChangelogItem.Shows (record : ItemRecord) (item : ChangelogItem) : Prop where
  author : item.author = record.author
  commit : item.commit = record.commit
  body : item.body = record.body

/-- A changelog entry shows its record; it is new when the running build is known to be older. -/
structure ChangelogEntry.Shows (marker : BuildMarker) (record : EntryRecord)
    (entry : ChangelogEntry) : Prop where
  version : VersionNumber.parse record.version = .ok entry.version
  date : entry.date = record.date
  isNew : entry.isNew = true ↔
    ∃ running, marker.version = some running ∧ compare entry.version running = .gt
  items : List.Forall₂ ChangelogItem.Shows record.items entry.items

/-- A release shows its record but for the mark of the running one. -/
structure Release.Shows (record : VersionRecord) (release : Release) : Prop where
  label : release.label = record.name.getD record.version
  number : VersionNumber.parse record.version = .ok release.number
  date : release.date = record.date

/-- A channel shows its record. In a channel of the running build, the first release of the running
number is marked. -/
structure Channel.Shows (marker : BuildMarker) (record : ChannelRecord) (channel : Channel) :
    Prop where
  name : channel.name = record.name
  description : channel.description = record.description
  versions : List.Forall₂ Release.Shows record.versions channel.versions
  isCurrent : ∀ place release, channel.versions[place]? = some release →
    (release.isCurrent = true ↔ channel.name = marker.channel ∧
      marker.version = some release.number ∧
        ∀ earlier ∈ channel.versions.take place, earlier.number ≠ release.number)
  changelog : List.Forall₂ (ChangelogEntry.Shows marker) record.changelog channel.changelog

namespace Channel

variable {α : Type} {marker : BuildMarker}

theorem numbered_eq_ok_iff {channel : String} {version : α → String} {record : α}
    {pair : α × VersionNumber} :
    numbered channel version record = .ok pair ↔
      record = pair.1 ∧ VersionNumber.parse (version record) = .ok pair.2 := by
  obtain ⟨same, number⟩ := pair
  unfold numbered numberIn
  cases VersionNumber.parse (version record) <;> simp [bind, Except.bind, pure, Except.pure]

theorem markReleases_cons (isRunning : VersionNumber → Bool) (claimed : Bool)
    (record : VersionRecord) (number : VersionNumber)
    (rest : List (VersionRecord × VersionNumber)) :
    markReleases isRunning claimed ((record, number) :: rest) =
      releaseOf record number (!claimed && isRunning number) ::
        markReleases isRunning (claimed || (!claimed && isRunning number)) rest := rfl

theorem shows_markReleases {records : List VersionRecord}
    {pairs : List (VersionRecord × VersionNumber)}
    (read : List.Forall₂ (fun record pair => record = pair.1 ∧
      VersionNumber.parse record.version = .ok pair.2) records pairs)
    (isRunning : VersionNumber → Bool) (claimed : Bool) :
    List.Forall₂ Release.Shows records (markReleases isRunning claimed pairs) := by
  induction read generalizing claimed with
  | nil => exact .nil
  | @cons record pair records pairs here _ ih =>
    obtain ⟨same, number⟩ := pair
    obtain ⟨rfl, parsed⟩ := here
    rw [markReleases_cons]
    exact .cons ⟨rfl, parsed, rfl⟩ (ih _)

/-- The first running release is marked, unless one was marked before. -/
theorem isCurrent_markReleases {isRunning : VersionNumber → Bool} {claimed : Bool}
    {pairs : List (VersionRecord × VersionNumber)} {place : Nat} {release : Release}
    (found : (markReleases isRunning claimed pairs)[place]? = some release) :
    release.isCurrent = true ↔ claimed = false ∧ isRunning release.number = true ∧
      ∀ earlier ∈ (markReleases isRunning claimed pairs).take place,
        isRunning earlier.number = false := by
  induction pairs generalizing claimed place with
  | nil => simp [markReleases] at found
  | cons pair rest ih =>
    obtain ⟨record, number⟩ := pair
    rw [markReleases_cons] at found ⊢
    cases place with
    | zero =>
      obtain rfl : releaseOf record number (!claimed && isRunning number) = release := by
        simpa using found
      simp [releaseOf]
    | succ place =>
      -- a mark at the head counts for all releases behind it
      rw [List.getElem?_cons_succ] at found
      rw [ih found, List.take_succ_cons, List.forall_mem_cons]
      have unclaimed : (claimed || (!claimed && isRunning number)) = false ↔
          claimed = false ∧ isRunning number = false := by
        cases claimed <;> simp
      rw [unclaimed]
      simp only [releaseOf]
      tauto

theorem isRunning_iff {number : VersionNumber} :
    marker.isRunning number = true ↔ marker.version = some number := by
  simp [BuildMarker.isRunning]

theorem isOlderThan_iff {number : VersionNumber} :
    marker.isOlderThan number = true ↔
      ∃ running, marker.version = some running ∧ compare number running = .gt := by
  unfold BuildMarker.isOlderThan VersionNumber.isNewerThan
  simp only [Option.any_eq_true, beq_iff_eq]
  rfl

theorem shows_entryOf {record : EntryRecord} {number : VersionNumber}
    (parsed : VersionNumber.parse record.version = .ok number) :
    ChangelogEntry.Shows marker record (entryOf marker record number) where
  version := parsed
  date := rfl
  isNew := isOlderThan_iff
  items := List.forall₂_map_right_iff.mpr (List.forall₂_same.mpr fun _ _ => ⟨rfl, rfl, rfl⟩)

theorem shows_of_ofRecord {record : ChannelRecord} {channel : Channel}
    (built : ofRecord marker record = .ok channel) : Shows marker record channel := by
  simp only [ofRecord, bind_eq_ok_iff] at built
  obtain ⟨versions, readVersions, changelog, readChangelog, same⟩ := built
  cases same
  rw [mapM_eq_ok_iff] at readVersions readChangelog
  refine ⟨rfl, rfl, ?_, ?_, ?_⟩
  · exact shows_markReleases (readVersions.imp fun _ _ => numbered_eq_ok_iff.mp) _ _
  · intro place release found
    rw [isCurrent_markReleases found, isRunning_iff, bne_eq_false_iff_eq]
    refine and_congr_right fun _ => and_congr_right fun running => ?_
    refine forall₂_congr fun earlier _ => ?_
    rw [← Bool.not_eq_true, isRunning_iff, running, Option.some_inj, eq_comm]
  · refine List.forall₂_map_right_iff.mpr (readChangelog.imp fun record pair read => ?_)
    obtain ⟨rfl, parsed⟩ := numbered_eq_ok_iff.mp read
    exact shows_entryOf parsed

end Channel

section Unique

variable {marker : BuildMarker}

theorem ChangelogItem.shows_unique : Relator.RightUnique ChangelogItem.Shows := by
  rintro record ⟨author, commit, body⟩ second left right
  obtain rfl : author = second.author := left.author.trans right.author.symm
  obtain rfl : commit = second.commit := left.commit.trans right.commit.symm
  obtain rfl : body = second.body := left.body.trans right.body.symm
  rfl

theorem ChangelogEntry.shows_unique : Relator.RightUnique (ChangelogEntry.Shows marker) := by
  rintro record ⟨version, date, isNew, items⟩ second left right
  obtain rfl : version = second.version :=
    Except.ok.inj (left.version.symm.trans right.version)
  obtain rfl : date = second.date := left.date.trans right.date.symm
  obtain rfl : isNew = second.isNew := Bool.eq_iff_iff.mpr (left.isNew.trans right.isNew.symm)
  obtain rfl : items = second.items :=
    List.right_unique_forall₂' ChangelogItem.shows_unique left.items right.items
  rfl

theorem Release.Shows.eq_of_marked {record : VersionRecord} {first second : Release}
    (left : Release.Shows record first) (right : Release.Shows record second)
    (marked : first.isCurrent = second.isCurrent) : first = second := by
  obtain ⟨label, number, date, isCurrent⟩ := first
  obtain rfl : label = second.label := left.label.trans right.label.symm
  obtain rfl : number = second.number := Except.ok.inj (left.number.symm.trans right.number)
  obtain rfl : date = second.date := left.date.trans right.date.symm
  obtain rfl : isCurrent = second.isCurrent := marked
  rfl

theorem Release.forall_number_ne_iff {releases : List Release} {number : VersionNumber} :
    (∀ release ∈ releases, release.number ≠ number) ↔ number ∉ releases.map Release.number := by
  simp

theorem Release.numbers_unique {records : List VersionRecord} {first second : List Release}
    (left : List.Forall₂ Release.Shows records first)
    (right : List.Forall₂ Release.Shows records second) :
    first.map Release.number = second.map Release.number := by
  have unique : Relator.RightUnique fun (record : VersionRecord) number =>
      VersionNumber.parse record.version = .ok number :=
    fun record number other here there => Except.ok.inj (here.symm.trans there)
  exact List.right_unique_forall₂' unique
    (List.forall₂_map_right_iff.mpr (left.imp fun _ _ shows => shows.number))
    (List.forall₂_map_right_iff.mpr (right.imp fun _ _ shows => shows.number))

theorem Channel.shows_unique : Relator.RightUnique (Channel.Shows marker) := by
  rintro record ⟨name, description, versions, changelog⟩ second left right
  obtain rfl : name = second.name := left.name.trans right.name.symm
  obtain rfl : description = second.description :=
    left.description.trans right.description.symm
  obtain rfl : changelog = second.changelog :=
    List.right_unique_forall₂' ChangelogEntry.shows_unique left.changelog right.changelog
  have numbers := Release.numbers_unique left.versions right.versions
  obtain rfl : versions = second.versions := by
    apply List.ext_getElem (left.versions.length_eq.symm.trans right.versions.length_eq)
    intro place here there
    have inside : place < record.versions.length := left.versions.length_eq ▸ here
    have shown := left.versions.get inside here
    have again := right.versions.get inside there
    simp only [List.get_eq_getElem] at shown again
    apply shown.eq_of_marked again
    have number : versions[place].number = second.versions[place].number :=
      Except.ok.inj (shown.number.symm.trans again.number)
    have earlier : (versions.take place).map Release.number =
        (second.versions.take place).map Release.number := by
      rw [List.map_take, List.map_take, numbers]
    apply Bool.eq_iff_iff.mpr
    rw [left.isCurrent place _ (List.getElem?_eq_getElem here),
      right.isCurrent place _ (List.getElem?_eq_getElem there), Release.forall_number_ne_iff,
      Release.forall_number_ne_iff, earlier, number]
  rfl

end Unique

namespace Channel

variable {marker : BuildMarker}

/-- Every version text of a record that is shown is a version number. -/
theorem Shows.accepted {record : ChannelRecord} {channel : Channel}
    (shows : Shows marker record channel) :
    ∀ text ∈ record.versionTexts, ∃ number, VersionNumber.parse text = .ok number := by
  have versions : ∀ version ∈ record.versions,
      ∃ number, VersionNumber.parse version.version = .ok number :=
    forall_left_of_forall₂ shows.versions fun _ _ shown => ⟨_, shown.number⟩
  have changelog : ∀ entry ∈ record.changelog,
      ∃ number, VersionNumber.parse entry.version = .ok number :=
    forall_left_of_forall₂ shows.changelog fun _ _ shown => ⟨_, shown.version⟩
  intro text member
  rcases List.mem_append.mp member with listed | listed
  · obtain ⟨version, inside, rfl⟩ := List.mem_map.mp listed
    exact versions version inside
  · obtain ⟨entry, inside, rfl⟩ := List.mem_map.mp listed
    exact changelog entry inside

theorem ofRecord_eq_ok_iff {record : ChannelRecord} {channel : Channel} :
    ofRecord marker record = .ok channel ↔ Shows marker record channel := by
  constructor
  · exact shows_of_ofRecord
  · intro shows
    have built : ∃ other, ofRecord marker record = .ok other :=
      exists_ofRecord_eq_ok_iff.mpr shows.accepted
    obtain ⟨other, same⟩ := built
    rw [same, shows_unique (shows_of_ofRecord same) shows]

/-- Channels are built exactly when they show the records of the manifest in order. -/
theorem ofManifest_eq_ok_iff {manifest : Manifest} {channels : List Channel} :
    ofManifest marker manifest = .ok channels ↔
      List.Forall₂ (Shows marker) manifest.channels channels := by
  rw [ofManifest, mapM_eq_ok_iff]
  constructor
  · exact List.Forall₂.imp fun _ _ => ofRecord_eq_ok_iff.mp
  · exact List.Forall₂.imp fun _ _ => ofRecord_eq_ok_iff.mpr

theorem names_ofManifest {manifest : Manifest} {channels : List Channel}
    (built : ofManifest marker manifest = .ok channels) :
    channels.map Channel.name = manifest.channels.map ChannelRecord.name := by
  rw [ofManifest_eq_ok_iff] at built
  generalize manifest.channels = records at built ⊢
  induction built with
  | nil => rfl
  | cons shows _ ih => simp [shows.name, ih]

/-- What becomes of a manifest. -/
structure Converts (marker : BuildMarker) (manifest : Manifest) : Prop where
  accepted : (∃ channels, ofManifest marker manifest = .ok channels) ↔
    ∀ text ∈ manifest.versionTexts, ∃ number, VersionNumber.parse text = .ok number
  /-- The channels are the ones that show the records. -/
  shows : ∀ channels, ofManifest marker manifest = .ok channels ↔
    List.Forall₂ (Shows marker) manifest.channels channels
  /-- The error names the first bad version text. -/
  refused : ∀ error, ofManifest marker manifest = .error error ↔
    ∃ channel text reason, FirstBad manifest channel text reason ∧
      error = .invalidVersion channel text reason.message

/-- Every manifest is converted exactly and as a whole, or refused. -/
theorem converts (marker : BuildMarker) (manifest : Manifest) : Converts marker manifest where
  accepted := exists_ofManifest_eq_ok_iff
  shows _ := ofManifest_eq_ok_iff
  refused _ := ofManifest_eq_error_iff

end Channel
end ReleaseFeed
