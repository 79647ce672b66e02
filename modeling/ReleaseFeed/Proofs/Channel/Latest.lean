import Mathlib.Data.List.Induction
import ReleaseFeed.Channel.Basic
import ReleaseFeed.Proofs.Version.Order
/-!
The latest release of a channel. Main statement: it is the first of the releases with the greatest
number, and only a channel without releases has none.
-/
namespace ReleaseFeed.Channel

open Std (LawfulEqCmp OrientedCmp TransCmp)

/-- No release has a greater number than the one at a place, and every earlier one has a lesser. -/
structure FirstGreatest (versions : List Release) (place : Nat) (release : Release) : Prop where
  inRange : versions[place]? = some release
  greatest : ∀ other ∈ versions, compare other.number release.number ≠ .gt
  first : ∀ earlier ∈ versions.take place, compare earlier.number release.number = .lt

namespace FirstGreatest

variable {versions : List Release} {place other : Nat} {release next : Release}

theorem lt_length (first : FirstGreatest versions place release) : place < versions.length :=
  (List.getElem?_eq_some_iff.mp first.inRange).1

theorem mem (first : FirstGreatest versions place release) : release ∈ versions :=
  List.mem_of_getElem? first.inRange

theorem single (next : Release) : FirstGreatest [next] 0 next where
  inRange := rfl
  greatest other member := by
    obtain rfl := List.mem_singleton.mp member
    simp
  first := by simp

/-- A greater release behind the others replaces the latest one. -/
theorem replace (first : FirstGreatest versions place release)
    (above : compare next.number release.number = .gt) :
    FirstGreatest (versions ++ [next]) versions.length next := by
  have below : ∀ earlier ∈ versions, compare earlier.number next.number = .lt := by
    intro earlier member
    have least : (compare earlier.number release.number).isLE :=
      Ordering.isLE_iff_ne_gt.mpr (first.greatest earlier member)
    exact TransCmp.lt_of_isLE_of_lt least (OrientedCmp.lt_of_gt above)
  refine ⟨by simp, ?_, by simpa using below⟩
  intro other member
  rcases List.mem_append.mp member with earlier | last
  · simp [below other earlier]
  · obtain rfl := List.mem_singleton.mp last
    simp

/-- Releases behind the others that are not greater do not. -/
theorem append {more : List Release} (first : FirstGreatest versions place release)
    (below : ∀ next ∈ more, compare next.number release.number ≠ .gt) :
    FirstGreatest (versions ++ more) place release where
  inRange := by rw [List.getElem?_append_left first.lt_length, first.inRange]
  greatest := by
    intro other member
    rcases List.mem_append.mp member with earlier | later
    · exact first.greatest other earlier
    · exact below other later
  first := by
    rw [List.take_append_of_le_length (Nat.le_of_lt first.lt_length)]
    exact first.first

/-- There is no second one: the later of two would be above the earlier. -/
theorem place_le (left : FirstGreatest versions place release)
    (right : FirstGreatest versions other next) : place ≤ other := by
  by_contra behind
  have earlier : next ∈ versions.take place := by
    rw [Nat.not_le] at behind
    exact List.mem_of_getElem? ((List.getElem?_take_of_lt behind).trans right.inRange)
  have above : compare release.number next.number = .gt :=
    OrientedCmp.gt_of_lt (left.first next earlier)
  exact right.greatest release left.mem above

theorem unique (left : FirstGreatest versions place release)
    (right : FirstGreatest versions other next) : place = other ∧ release = next := by
  obtain rfl := Nat.le_antisymm (left.place_le right) (right.place_le left)
  exact ⟨rfl, Option.some.inj (left.inRange.symm.trans right.inRange)⟩

theorem number_eq_of_perm {others : List Release} (left : FirstGreatest versions place release)
    (right : FirstGreatest others other next) (same : versions.Perm others) :
    release.number = next.number := by
  have notAbove := right.greatest release (same.mem_iff.mp left.mem)
  have notBelow := left.greatest next (same.mem_iff.mpr right.mem)
  cases order : compare release.number next.number with
  | lt => exact absurd (OrientedCmp.gt_of_lt order) notBelow
  | eq => exact LawfulEqCmp.eq_of_compare order
  | gt => exact absurd order notAbove

end FirstGreatest

theorem foldl_greater (versions : List Release) :
    (versions = [] ∧ versions.zipIdx.foldl greater none = none) ∨
      ∃ release place, versions.zipIdx.foldl greater none = some (release, place) ∧
        FirstGreatest versions place release := by
  induction versions using List.reverseRecOn with
  | nil => exact .inl ⟨rfl, rfl⟩
  | append_singleton versions next ih =>
    refine .inr ?_
    rw [List.zipIdx_append, List.foldl_append, List.zipIdx_singleton, Nat.zero_add]
    rcases ih with ⟨rfl, scanned⟩ | ⟨release, place, scanned, first⟩
    · exact ⟨next, 0, rfl, .single next⟩
    · rw [scanned]
      by_cases above : compare next.number release.number = .gt
      · refine ⟨next, versions.length, ?_, first.replace above⟩
        simp [greater, above]
      · refine ⟨release, place, ?_, first.append (List.forall_mem_singleton.mpr above)⟩
        simp [greater, above]

variable {channel : Channel} {place : Nat} {release : Release}

theorem latest?_eq_none_iff : channel.latest? = none ↔ channel.versions = [] := by
  rcases foldl_greater channel.versions with ⟨none, scanned⟩ | ⟨release, place, scanned, first⟩
  · exact iff_of_true scanned none
  · refine iff_of_false (by simp [latest?, scanned]) (List.ne_nil_of_mem first.mem)

/-- The latest release is the first one with the greatest number. -/
theorem latest?_eq_some_iff :
    channel.latest? = some (release, place) ↔ FirstGreatest channel.versions place release := by
  rcases foldl_greater channel.versions with ⟨none, scanned⟩ | ⟨latest, found, scanned, first⟩
  · refine iff_of_false (by simp [latest?, scanned]) fun first => ?_
    exact List.not_mem_nil (none ▸ first.mem)
  · rw [latest?, scanned]
    constructor
    · intro same
      obtain ⟨rfl, rfl⟩ := Prod.mk.inj (Option.some.inj same)
      exact first
    · intro other
      obtain ⟨rfl, rfl⟩ := first.unique other
      rfl

theorem latestIndex?_eq_some_iff :
    channel.latestIndex? = some place ↔ ∃ latest, FirstGreatest channel.versions place latest := by
  simp [latestIndex?, ← latest?_eq_some_iff]

theorem latestVersion?_eq_some_iff :
    channel.latestVersion? = some release ↔
      ∃ place, FirstGreatest channel.versions place release := by
  simp [latestVersion?, ← latest?_eq_some_iff]

theorem latestVersion?_eq_none_iff : channel.latestVersion? = none ↔ channel.versions = [] :=
  Option.map_eq_none_iff.trans latest?_eq_none_iff

/-- What a channel has for its latest release. -/
structure SelectsLatest (channel : Channel) : Prop where
  none_iff : channel.latestVersion? = none ↔ channel.versions = []
  /-- Otherwise it is the first release that no other one has a greater number than. -/
  some_iff : ∀ release, channel.latestVersion? = some release ↔
    ∃ place, channel.latestIndex? = some place ∧ FirstGreatest channel.versions place release
  /-- Its number is the same in whatever order the releases are declared. -/
  perm : ∀ versions, versions.Perm channel.versions →
    (Channel.latestVersion? { channel with versions }).map Release.number =
      channel.latestVersion?.map Release.number
  /-- Releases behind the others that are not greater never replace it. -/
  append : ∀ latest more, channel.latestVersion? = some latest →
    (∀ next ∈ more, compare next.number latest.number ≠ .gt) →
      Channel.latest? { channel with versions := channel.versions ++ more } = channel.latest?

/-- The latest release of every channel is its first greatest one. -/
theorem selectsLatest (channel : Channel) : SelectsLatest channel where
  none_iff := latestVersion?_eq_none_iff
  some_iff release := by
    rw [latestVersion?_eq_some_iff]
    refine exists_congr fun place => ?_
    exact (and_iff_right_of_imp fun first => latestIndex?_eq_some_iff.mpr ⟨release, first⟩).symm
  perm := by
    intro versions same
    cases found : channel.latestVersion? with
    | none =>
      rw [latestVersion?_eq_none_iff] at found
      have none : versions = [] := List.perm_nil.mp (found ▸ same)
      rw [latestVersion?_eq_none_iff.mpr none]
    | some latest =>
      obtain ⟨place, first⟩ := latestVersion?_eq_some_iff.mp found
      cases other : Channel.latestVersion? { channel with versions } with
      | none =>
        rw [latestVersion?_eq_none_iff] at other
        exact absurd (same.mem_iff.mpr first.mem) (by simp [show versions = [] from other])
      | some next =>
        obtain ⟨_, greatest⟩ := latestVersion?_eq_some_iff.mp other
        exact congrArg some (greatest.number_eq_of_perm first same)
  append := by
    intro latest more found below
    obtain ⟨place, first⟩ := latestVersion?_eq_some_iff.mp found
    rw [latest?_eq_some_iff.mpr first, latest?_eq_some_iff]
    exact first.append below

end ReleaseFeed.Channel
