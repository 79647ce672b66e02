import ReleaseFeed.Proofs.Files.Parent
import ReleaseFeed.Proofs.Files.Rewriting

namespace ReleaseFeed.Files.Tree

variable {tree made : Tree} {location place removed : Location} {names front : List Name}
  {name last : Name} {path : Path} {node : Node}

/-! ### Single places -/

@[simp]
theorem node?_root (tree : Tree) : tree.node? [] = some .directory := rfl

theorem node?_of_ne_nil (filled : location ≠ []) :
    tree.node? location = tree.entries.lookup location := by
  simp [node?, filled]

theorem node?_put (free : tree.node? place = none) (node : Node) (location : Location) :
    (tree.put place node).node? location =
      if location = place then some node else tree.node? location := by
  by_cases root : location = []
  · subst root
    have apart : [] ≠ place := fun same => by simp [← same] at free
    rw [if_neg apart]
    rfl
  · rw [node?_of_ne_nil root, node?_of_ne_nil root, put, List.lookup_append, List.lookup_cons]
    by_cases here : location = place
    · subst here
      rw [node?_of_ne_nil root] at free
      simp [free]
    · simp [here, beq_eq_false_iff_ne.mpr here]

theorem lookup_remove (entries : List (Location × Node)) (removed location : Location) :
    (entries.filter fun (other, _) => !removed.isPrefixOf other).lookup location =
      if removed <+: location then none else entries.lookup location := by
  induction entries with
  | nil => simp
  | cons entry rest ih =>
    obtain ⟨other, node⟩ := entry
    rw [List.filter_cons, List.lookup_cons]
    by_cases here : location = other
    · subst here
      by_cases inside : removed <+: location
      · simp [List.isPrefixOf_iff_prefix.mpr inside, ih, inside]
      · have kept : removed.isPrefixOf location = false :=
          Bool.eq_false_iff.mpr (mt List.isPrefixOf_iff_prefix.mp inside)
        simp [kept, inside]
    · have apart := beq_eq_false_iff_ne.mpr here
      cases kept : removed.isPrefixOf other <;> simp [kept, ih, apart, List.lookup_cons]

theorem node?_remove (tree : Tree) (removed : Location) (filled : location ≠ []) :
    (tree.remove removed).node? location =
      if removed <+: location then none else tree.node? location := by
  rw [node?_of_ne_nil filled, node?_of_ne_nil filled]
  exact lookup_remove tree.entries removed location

theorem node?_of_node?_remove (found : (tree.remove removed).node? location = some node) :
    tree.node? location = some node := by
  by_cases root : location = []
  · subst root
    exact found
  · rw [node?_remove tree removed root] at found
    split at found
    · contradiction
    · exact found

/-! ### Along names -/

/-- The places that names lead to, one after the other. -/
def stops (location : Location) : List Name → List Location
  | [] => []
  | name :: rest => enter location name :: stops (enter location name) rest

/-- Nothing but directories at some places. -/
def Clear (tree : Tree) (places : List Location) : Prop :=
  ∀ place ∈ places, ∀ node, tree.node? place = some node → node = .directory

theorem walk_cons_eq_ok_iff {rest : List Name} :
    tree.walk location (name :: rest) = .ok place ↔ tree.node? location = some .directory ∧
      byteLength name ≤ maxNameBytes ∧ tree.walk (enter location name) rest = .ok place := by
  rw [walk]
  cases tree.node? location with
  | none => simp
  | some node =>
    cases node with
    | directory => simp [ite_error_eq_ok_iff]
    | file _ _ => simp
    | pipe => simp

/-- Names are followed through directories to the place behind the last of them. -/
theorem walk_append_singleton_eq_ok_iff :
    tree.walk location (front ++ [last]) = .ok place ↔
      (∀ stop ∈ location :: stops location front, tree.node? stop = some .directory) ∧
      (∀ name ∈ front ++ [last], byteLength name ≤ maxNameBytes) ∧
      place = enter (front.foldl enter location) last := by
  induction front generalizing location with
  | nil =>
    rw [List.nil_append, walk_cons_eq_ok_iff, walk, Except.ok.injEq, eq_comm (b := place)]
    simp [stops]
  | cons name rest ih =>
    rw [List.cons_append, walk_cons_eq_ok_iff, ih, stops, List.forall_mem_cons,
      List.forall_mem_cons]
    grind

theorem foldl_enter_mem (location : Location) (names : List Name) :
    names.foldl enter location ∈ location :: stops location names := by
  induction names generalizing location with
  | nil => exact List.mem_cons_self
  | cons name rest ih => exact List.mem_cons_of_mem _ (ih (enter location name))

/-! ### Directories that are made -/

theorem clear_cons {places : List Location} : tree.Clear (place :: places) ↔
    (∀ node, tree.node? place = some node → node = .directory) ∧ tree.Clear places :=
  List.forall_mem_cons

theorem Clear.put {places : List Location} (clear : tree.Clear places)
    (free : tree.node? place = none) : (tree.put place .directory).Clear places := by
  intro stop inside node stands
  rw [node?_put free] at stands
  split at stands
  · exact (Option.some.inj stands).symm
  · exact clear stop inside node stands

/-- Directories are made along names only if nothing else stands there. -/
theorem clear_of_makeAlong (makes : tree.makeAlong location names = .ok made) :
    tree.Clear (stops location names) := by
  induction names generalizing tree location with
  | nil => exact nofun
  | cons name rest ih =>
    rw [makeAlong] at makes
    split at makes
    · rename_i directory
      refine clear_cons.mpr ⟨?_, ih makes⟩
      intro node found
      exact Option.some.inj (found.symm.trans directory)
    · contradiction
    · rename_i free
      refine clear_cons.mpr ⟨?_, ?_⟩
      · intro node found
        rw [free] at found
        contradiction
      · -- what stands further on stood there before the directory was made
        intro stop inside node found
        refine ih makes stop inside node ?_
        rw [node?_put free, if_neg, found]
        rintro rfl
        rw [free] at found
        contradiction

/-- The directories along names are made where there is nothing else, and nothing more. -/
theorem exists_makeAlong (clear : tree.Clear (stops location names)) :
    ∃ made, tree.makeAlong location names = .ok made ∧ made.current = tree.current ∧
      ∀ place, made.node? place =
        if place ∈ stops location names then some .directory else tree.node? place := by
  induction names generalizing tree location with
  | nil => exact ⟨tree, rfl, rfl, fun place => rfl⟩
  | cons name rest ih =>
    obtain ⟨here, later⟩ := clear_cons.mp clear
    rw [makeAlong]
    cases found : tree.node? (enter location name) with
    | some node =>
      obtain rfl := here node found
      obtain ⟨made, makes, current, stands⟩ := ih later
      refine ⟨made, makes, current, fun place => ?_⟩
      rw [stands, stops]
      by_cases first : place = enter location name
      · simp [first, found]
      · simp [first]
    | none =>
      obtain ⟨made, makes, current, stands⟩ := ih (later.put found)
      refine ⟨made, makes, current, fun place => ?_⟩
      rw [stands, stops, node?_put found]
      by_cases first : place = enter location name <;> simp [first]

/-- The name for the directory itself adds nothing behind directories that are there. -/
theorem makeAlong_append_selfName (starts : tree.node? location = some .directory)
    (clear : tree.Clear (stops location names)) :
    tree.makeAlong location (names ++ [selfName]) = tree.makeAlong location names := by
  induction names generalizing tree location with
  | nil => simp [makeAlong, enter, starts]
  | cons name rest ih =>
    obtain ⟨here, later⟩ := clear_cons.mp clear
    rw [List.cons_append, makeAlong, makeAlong]
    cases found : tree.node? (enter location name) with
    | some node =>
      obtain rfl := here node found
      exact ih found later
    | none => exact ih (by rw [node?_put found, if_pos rfl]) (later.put found)

/-- The directories in a path are made where there is nothing else, and nothing more. -/
theorem exists_makeDirectories (starts : tree.node? (tree.start path) = some .directory)
    (clear : tree.Clear (stops (tree.start path) path.pieces)) :
    ∃ made, tree.makeDirectories path = .ok made ∧ made.current = tree.current ∧
      ∀ place, made.node? place =
        if place ∈ stops (tree.start path) path.pieces then some .directory
        else tree.node? place := by
  rw [makeDirectories]
  by_cases empty : path = []
  · subst empty
    exact ⟨tree, rfl, rfl, fun place => rfl⟩
  · have along : tree.makeAlong (tree.start path) path.names =
        tree.makeAlong (tree.start path) path.pieces := by
      rcases path.names_cases with names | names
      · rw [names]
      · rw [names, makeAlong_append_selfName starts clear]
    rw [if_neg (by simpa using empty), along]
    exact exists_makeAlong clear

end ReleaseFeed.Files.Tree
