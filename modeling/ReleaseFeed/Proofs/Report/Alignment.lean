import ReleaseFeed.Proofs.Report.Hint
import ReleaseFeed.Proofs.Text.Measure
/-!
The columns in which the releases of a channel show their dates. Main statement: the dates stand
below each other exactly if the labels differ in columns by what they differ in characters, as
labels of ASCII letters do; a wide character moves the date of its release.
-/
namespace ReleaseFeed

/-- The written form of a date stays on its line. -/
theorem Time.lineFeed_not_mem_display (date : Time.Date) : '\n' ∉ date.display := by
  have digits {width value : Nat} : '\n' ∉ zeroPadded width value := fun inside =>
    absurd (isDigit_of_mem_zeroPadded inside) (by decide)
  have year : '\n' ∉ displayYear date.year := by
    unfold displayYear
    split
    · exact digits
    · split <;> simp [digits]
  simp [Date.display, digits, year]

namespace Report

open Text (width)

variable {config : Config} {channel : Channel} {release : Release}

/-- The columns in front of the date of a release. -/
def dateColumn (channel : Channel) (release : Release) : Nat :=
  width (beforeDate (labelWidth channel) release)

/-- Whether the dates of a channel stand below each other. -/
def Aligned (channel : Channel) : Prop :=
  ∀ first ∈ channel.versions, ∀ second ∈ channel.versions,
    dateColumn channel first = dateColumn channel second

instance : Decidable (Aligned channel) := inferInstanceAs (Decidable (∀ _ ∈ _, _))

/-- The padding is counted in characters, beside the columns of the label. -/
theorem dateColumn_eq : dateColumn channel release =
    4 + width release.label.toList + (labelWidth channel - release.label.length) := by
  have parts : beforeDate (labelWidth channel) release =
      [] ++ ' ' :: ([] ++ ' ' :: (release.label.toList ++
        List.replicate (labelWidth channel - release.label.length + 2) ' ')) := by
    simp [beforeDate, padded, List.replicate_add, String.length_toList]
  have empty : width [] = 0 := rfl
  rw [dateColumn, parts, Text.width_append_space, Text.width_append_space,
    Text.width_append_spaces, empty]
  omega

theorem length_le_labelWidth (listed : release ∈ channel.versions) :
    release.label.length ≤ labelWidth channel :=
  (foldl_max_le_iff.mp (Nat.le_refl (labelWidth channel))).2 _ (List.mem_map_of_mem listed)

/-- Two dates stand below each other if their labels differ in columns as they do in characters. -/
theorem dateColumn_eq_iff {first second : Release} (here : first ∈ channel.versions)
    (there : second ∈ channel.versions) :
    dateColumn channel first = dateColumn channel second ↔
      width first.label.toList + second.label.length =
        width second.label.toList + first.label.length := by
  have left := length_le_labelWidth here
  have right := length_le_labelWidth there
  rw [dateColumn_eq, dateColumn_eq]
  omega

theorem aligned_iff : Aligned channel ↔
    ∀ first ∈ channel.versions, ∀ second ∈ channel.versions,
      width first.label.toList + second.label.length =
        width second.label.toList + first.label.length := by
  refine forall₂_congr fun first here => forall₂_congr fun second there => ?_
  exact dateColumn_eq_iff here there

theorem aligned_of_latin
    (latin : ∀ release ∈ channel.versions, ∀ c ∈ release.label.toList,
      c.toNat ≤ 0xA0 ∧ c ≠ '\n') : Aligned channel := by
  have columns : ∀ release ∈ channel.versions,
      width release.label.toList = release.label.length := fun release listed => by
    rw [Text.width_latin (latin release listed), String.length_toList]
  refine aligned_iff.mpr fun first here second there => ?_
  rw [columns first here, columns second there, Nat.add_comm]

/-- The line of a release: its label and the padding, the date, and the marks. -/
structure ShowsRelease (channel : Channel) (place : Nat) (release : Release) : Prop where
  line : (releaseLines channel)[place]?.map List.flatten =
    some (beforeDate (labelWidth channel) release ++ release.date.date.display ++
      (releaseMarks release.isCurrent (channel.latestIndex? == some place)).toList)
  /-- It is one line if the label is none but one line. -/
  single : '\n' ∉ release.label.toList →
    '\n' ∉ beforeDate (labelWidth channel) release ++ release.date.date.display
  column : dateColumn channel release =
    4 + width release.label.toList + (labelWidth channel - release.label.length)

theorem showsRelease {place : Nat} (here : channel.versions[place]? = some release) :
    ShowsRelease channel place release where
  line := by rw [getElem?_releaseLines, here, Option.map_some, Option.map_some,
    flatten_releasePieces]
  single unbroken := by
    simp [beforeDate, padded, unbroken, Time.lineFeed_not_mem_display]
  column := dateColumn_eq

/-- How the releases of a channel stand below each other. -/
structure ShowsTable (config : Config) (channel : Channel) : Prop where
  /-- Behind the heading stand the lines of the releases, and then the hint and the changelog. -/
  shown : Narrow channel → ∀ cache, ∃ behind, (renderChannel config channel cache).1 =
    .ofPieces (headingPieces channel ++ (releaseLines channel).flatten ++ behind)
  /-- No release is shown if a label is too long to pad. -/
  cutOff : ¬ Narrow channel → ∀ cache,
    (renderChannel config channel cache).1 = ⟨headingPieces channel, false⟩
  releases : ∀ place release, channel.versions[place]? = some release →
    ShowsRelease channel place release
  /-- The labels have to differ in columns by what they differ in characters. -/
  exact : Aligned channel ↔ ∀ first ∈ channel.versions, ∀ second ∈ channel.versions,
    width first.label.toList + second.label.length =
      width second.label.toList + first.label.length
  /-- Labels of the first Latin characters do. -/
  latin : (∀ release ∈ channel.versions, ∀ c ∈ release.label.toList,
    c.toNat ≤ 0xA0 ∧ c ≠ '\n') → Aligned channel

theorem showsTable (config : Config) (channel : Channel) : ShowsTable config channel where
  shown narrow cache := by
    have fits : ¬ maxPadding < labelWidth channel :=
      Nat.not_lt.mpr (labelWidth_le_iff.mpr narrow)
    refine ⟨hintPieces config channel ++ (renderChangelog config channel cache).1, ?_⟩
    simp only [← tablePieces_eq_flatten, renderChannel, if_neg fits, List.append_assoc]
  cutOff wide cache := by rw [renderChannel_of_wide wide]
  releases _ _ := showsRelease
  exact := aligned_iff
  latin := aligned_of_latin

/-- A channel with a label of wide letters and one of narrow letters. -/
def unevenChannel : Channel :=
  ⟨"stable", "",
    [⟨"日本", .ofComponents 1 0 0, ⟨⟨2023, 1, 1⟩, 0, 0, 0, 0⟩, false⟩,
      ⟨"ab", .ofComponents 1 1 0, ⟨⟨2023, 6, 1⟩, 0, 0, 0, 0⟩, false⟩], []⟩

/-- Two labels of two letters each get no padding, though wide letters take twice the columns. -/
theorem wideLetters_moveDate :
    (∀ release ∈ unevenChannel.versions, ∀ c ∈ release.label.toList, Text.isControl c = false) ∧
      (renderChannel ⟨80, "stable", none, false⟩ unevenChannel .empty).1.text =
        "stable\n  日本  2023-01-01\n  ab  2023-06-01  (latest)\n".toList ∧
      ¬ Aligned unevenChannel :=
  ⟨by simp [unevenChannel, Text.isControl], by decide +kernel, by decide +kernel⟩

end Report
end ReleaseFeed
