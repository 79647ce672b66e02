import ReleaseFeed.Proofs.Files.Making

namespace ReleaseFeed.Files

variable {tree later opened made : Tree} {location place removed : Location} {front : List Name}
  {last : Name} {path : Path} {node : Node} {id : Nat}

/-- A path that can be followed wherever there are the directories in it. -/
structure Path.IsValid (path : Path) : Prop where
  noNull : '\x00' ∉ path
  nonempty : path ≠ []
  short : byteLength path ≤ maxPathBytes
  shortNames : ∀ name ∈ path.names, byteLength name ≤ maxNameBytes

namespace Tree

theorem resolve_eq_ok_iff (names : path.names = front ++ [last]) :
    tree.resolve path = .ok place ↔ path.IsValid ∧
      (∀ stop ∈ tree.start path :: stops (tree.start path) front,
        tree.node? stop = some .directory) ∧
      place = enter (front.foldl enter (tree.start path)) last := by
  rw [resolve, ite_error_eq_ok_iff, ite_error_eq_ok_iff, ite_error_eq_ok_iff, names,
    walk_append_singleton_eq_ok_iff, List.contains_iff_mem, List.isEmpty_iff, Nat.not_lt]
  constructor
  · rintro ⟨noNull, nonempty, short, directories, shortNames, leads⟩
    exact ⟨⟨noNull, nonempty, short, names ▸ shortNames⟩, directories, leads⟩
  · rintro ⟨valid, directories, leads⟩
    exact ⟨valid.noNull, valid.nonempty, valid.short, directories, names ▸ valid.shortNames, leads⟩

/-! ### What stays -/

/-- A tree in which all of another one still stands. -/
structure Grows (tree later : Tree) : Prop where
  current : later.current = tree.current
  stands : ∀ place node, tree.node? place = some node → later.node? place = some node

theorem Grows.refl (tree : Tree) : tree.Grows tree := ⟨rfl, fun _ _ found => found⟩

theorem Grows.trans {last : Tree} (first : tree.Grows later) (second : later.Grows last) :
    tree.Grows last :=
  ⟨second.current.trans first.current, fun place node found =>
    second.stands place node (first.stands place node found)⟩

theorem start_eq (current : later.current = tree.current) (path : Path) :
    later.start path = tree.start path := by
  rw [start, start, current]

theorem Grows.resolve (grows : tree.Grows later) (leads : tree.resolve path = .ok place) :
    later.resolve path = .ok place := by
  obtain ⟨front, last, names⟩ : ∃ front last, path.names = front ++ [last] := ⟨_, _, rfl⟩
  obtain ⟨valid, directories, same⟩ := (resolve_eq_ok_iff names).mp leads
  rw [resolve_eq_ok_iff names, start_eq grows.current]
  exact ⟨valid, fun stop inside => grows.stands stop _ (directories stop inside), same⟩

theorem Grows.find (grows : tree.Grows later) (found : tree.find path = .ok node) :
    later.find path = .ok node := by
  obtain ⟨place, leads, stands⟩ := find_eq_ok_iff.mp found
  exact find_eq_ok_iff.mpr ⟨place, grows.resolve leads, grows.stands place node stands⟩

theorem Grows.read {content : List UInt8} (grows : tree.Grows later)
    (held : tree.read path = .ok content) : later.read path = .ok content := by
  rw [read_eq_ok_iff] at *
  exact held.imp (fun ⟨id, found⟩ => ⟨id, grows.find found⟩)
    fun ⟨found, empty⟩ => ⟨grows.find found, empty⟩

theorem grows_makeDirectories (makes : tree.makeDirectories path = .ok made) :
    tree.Grows made := by
  rw [makeDirectories] at makes
  split at makes
  · cases makes
    exact .refl tree
  · have clear := clear_of_makeAlong makes
    obtain ⟨same, again, current, stands⟩ := exists_makeAlong clear
    obtain rfl := Except.ok.inj (makes.symm.trans again)
    refine ⟨current, fun place node found => ?_⟩
    rw [stands]
    split
    · rename_i inside
      rw [clear place inside node found]
    · exact found

/-! ### Files that are opened -/

theorem node?_putFile (free : tree.node? place = none) (content : List UInt8)
    (location : Location) : (tree.putFile place content).node? location =
      if location = place then some (.file tree.nextId content) else tree.node? location :=
  node?_put free _ location

theorem grows_putFile (free : tree.node? place = none) (content : List UInt8) :
    tree.Grows (tree.putFile place content) := by
  refine ⟨rfl, fun location node found => ?_⟩
  rw [node?_putFile free, if_neg, found]
  rintro rfl
  rw [free] at found
  contradiction

/-- What opening does at the place that a path leads to. -/
inductive Opens (tree : Tree) (place : Location) : Nat → Tree → Prop
  | file {id : Nat} {content : List UInt8} (found : tree.node? place = some (.file id content)) :
      Opens tree place id tree
  | pipe (found : tree.node? place = some .pipe) : Opens tree place tree.nextId tree
  | new (free : tree.node? place = none) : Opens tree place tree.nextId (tree.putFile place [])

theorem openFile_eq_ok_iff : tree.openFile path = .ok (id, opened) ↔
    ∃ place, tree.resolve path = .ok place ∧ Opens tree place id opened := by
  rw [openFile, bind_eq_ok_iff]
  refine exists_congr fun place => and_congr_right fun _ => ?_
  constructor
  · intro opens
    split at opens
    · rename_i found
      cases opens
      exact .file found
    · rename_i found
      cases opens
      exact .pipe found
    · contradiction
    · rename_i free
      cases opens
      exact .new free
  · intro opens
    cases opens with
    | file found => rw [found]; rfl
    | pipe found => rw [found]; rfl
    | new free => rw [free]; rfl

theorem openFile_of_none (leads : tree.resolve path = .ok place) (free : tree.node? place = none) :
    tree.openFile path = .ok (tree.nextId, tree.putFile place []) ∧
      (tree.putFile place []).find path = .ok (.file tree.nextId []) := by
  refine ⟨openFile_eq_ok_iff.mpr ⟨place, leads, .new free⟩, ?_⟩
  refine find_eq_ok_iff.mpr ⟨place, (grows_putFile free []).resolve leads, ?_⟩
  rw [node?_putFile free, if_pos rfl]

theorem grows_openFile (opens : tree.openFile path = .ok (id, opened)) : tree.Grows opened := by
  obtain ⟨place, -, opens⟩ := openFile_eq_ok_iff.mp opens
  cases opens with
  | file _ => exact .refl tree
  | pipe _ => exact .refl tree
  | new free => exact grows_putFile free []

/-- A path that leads to a place for a file, once there are the directories in it. -/
structure Offers (tree : Tree) (path : Path) (place : Location) : Prop where
  valid : path.IsValid
  starts : tree.node? (tree.start path) = some .directory
  clear : tree.Clear (stops (tree.start path) path.parent.pieces)
  apart : place ∉ tree.start path :: stops (tree.start path) path.parent.pieces
  belowRoot : place ≠ []
  leads : ∃ last, path.NamesFile path.parent.pieces last ∧
    place = enter (path.parent.pieces.foldl enter (tree.start path)) last

/-- What is opened for writing is no directory, so that it has a name of its own. -/
theorem offers_of_opens (leads : tree.resolve path = .ok place)
    (opens : Opens tree place id opened) : tree.Offers path place := by
  obtain ⟨front, last, names⟩ : ∃ front last, path.names = front ++ [last] := ⟨_, _, rfl⟩
  obtain ⟨valid, directories, same⟩ := (resolve_eq_ok_iff names).mp leads
  have other : tree.node? place ≠ some .directory := by
    intro directory
    cases opens with
    | file found => simp [directory] at found
    | pipe found => simp [directory] at found
    | new free => simp [directory] at free
  have apart : place ∉ tree.start path :: stops (tree.start path) front :=
    fun inside => other (directories place inside)
  have belowRoot : place ≠ [] := by
    rintro rfl
    exact other rfl
  have named : last ≠ selfName := by
    -- the name for the directory itself leads to the last of the directories
    rintro rfl
    exact apart (same ▸ foldl_enter_mem (tree.start path) front)
  have file := Path.namesFile names named
  obtain rfl := file.parent
  refine ⟨valid, directories _ List.mem_cons_self, ?_, apart, belowRoot, last, file, same⟩
  intro stop inside node found
  exact Option.some.inj (found.symm.trans (directories stop (List.mem_cons_of_mem _ inside)))

namespace Offers

variable (offers : tree.Offers path place)
include offers

theorem resolve_iff : tree.resolve path = .ok location ↔
    (∀ stop ∈ stops (tree.start path) path.parent.pieces, tree.node? stop = some .directory) ∧
      location = place := by
  obtain ⟨last, file, same⟩ := offers.leads
  rw [resolve_eq_ok_iff file.names, List.forall_mem_cons, ← same]
  constructor
  · exact fun ⟨_, ⟨_, directories⟩, leads⟩ => ⟨directories, leads⟩
  · exact fun ⟨directories, leads⟩ => ⟨offers.valid, ⟨offers.starts, directories⟩, leads⟩

/-- Nothing is found by a path that leads to an empty place. -/
theorem contains_eq_false (free : tree.node? place = none) : tree.contains path = false := by
  rw [contains, Option.isSome_eq_false_iff, Option.isNone_iff_eq_none]
  cases found : tree.find path with
  | error reason => rfl
  | ok node =>
    obtain ⟨location, leads, stands⟩ := find_eq_ok_iff.mp found
    rw [(offers.resolve_iff.mp leads).2, free] at stands
    contradiction

/-- What matters in a tree are the places that the path leads through. -/
theorem congr (current : later.current = tree.current)
    (starts : later.node? (tree.start path) = some .directory)
    (clear : later.Clear (stops (tree.start path) path.parent.pieces)) :
    later.Offers path place := by
  rw [← start_eq current] at starts clear
  refine ⟨offers.valid, starts, clear, ?_, offers.belowRoot, ?_⟩
  · rw [start_eq current]
    exact offers.apart
  · rw [start_eq current]
    exact offers.leads

/-- Removing the file or a directory above it leaves the way to it open, unless the path starts in
what is removed. -/
theorem remove (spared : removed <+: tree.start path → tree.start path = []) :
    (tree.remove removed).Offers path place := by
  refine offers.congr rfl ?_ fun stop inside node found =>
    offers.clear stop inside node (node?_of_node?_remove found)
  by_cases root : tree.start path = []
  · rw [root]
    rfl
  · rw [node?_remove tree removed root, if_neg (mt spared root)]
    exact offers.starts

theorem modifyFile (id : Nat) (change : List UInt8 → List UInt8) :
    (tree.modifyFile id change).Offers path place := by
  refine offers.congr rfl ?_ ?_
  · rw [node?_modifyFile, offers.starts]
    rfl
  · intro stop inside node found
    rw [node?_modifyFile, Option.map_eq_some_iff] at found
    obtain ⟨before, found, rfl⟩ := found
    rw [offers.clear stop inside before found]
    rfl

theorem putFile (free : tree.node? place = none) (content : List UInt8) :
    (tree.putFile place content).Offers path place := by
  have elsewhere {stop : Location}
      (inside : stop ∈ tree.start path :: stops (tree.start path) path.parent.pieces) :
      (tree.putFile place content).node? stop = tree.node? stop := by
    rw [node?_putFile free, if_neg (ne_of_mem_of_not_mem inside offers.apart)]
  refine offers.congr rfl ?_ ?_
  · rw [elsewhere List.mem_cons_self]
    exact offers.starts
  · intro stop inside node found
    rw [elsewhere (List.mem_cons_of_mem _ inside)] at found
    exact offers.clear stop inside node found

/-- The directories in the path can be made, which leaves the place of the file as it is. -/
theorem exists_made : ∃ made, tree.makeDirectories path.parent = .ok made ∧
    made.current = tree.current ∧ made.Offers path place ∧ made.resolve path = .ok place ∧
      made.node? place = tree.node? place := by
  obtain ⟨last, file, -⟩ := offers.leads
  have start : tree.start path.parent = tree.start path := by
    rw [Tree.start, file.start]
    rfl
  obtain ⟨made, makes, current, stands⟩ :=
    exists_makeDirectories (start ▸ offers.starts) (start ▸ offers.clear)
  rw [start] at stands
  have directories : ∀ stop ∈ stops (tree.start path) path.parent.pieces,
      made.node? stop = some .directory := fun stop inside => by rw [stands, if_pos inside]
  have reached : made.Offers path place := by
    refine offers.congr current ?_ fun stop inside node found =>
      Option.some.inj (found.symm.trans (directories stop inside))
    rw [stands, offers.starts, ite_self]
  refine ⟨made, makes, current, reached, ?_, ?_⟩
  · rw [reached.resolve_iff, start_eq current]
    exact ⟨directories, rfl⟩
  · rw [stands, if_neg (List.not_mem_of_not_mem_cons offers.apart)]

end Offers

end Tree
end ReleaseFeed.Files
