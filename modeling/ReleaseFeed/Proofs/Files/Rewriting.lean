import ReleaseFeed.Files.Tree
import ReleaseFeed.Proofs.Traversal

namespace ReleaseFeed.Files

variable {tree : Tree} {id : Nat} {change : List UInt8 → List UInt8} {path : Path} {node : Node}
  {content : List UInt8}

namespace Tree

theorem find_eq_ok_iff : tree.find path = .ok node ↔
    ∃ location, tree.resolve path = .ok location ∧ tree.node? location = some node := by
  unfold find
  rw [bind_eq_ok_iff]
  refine exists_congr fun location => and_congr_right fun _ => ?_
  cases tree.node? location with
  | none => exact iff_of_false nofun nofun
  | some found => exact ⟨fun same => by cases same; rfl, fun same => by cases same; rfl⟩

/-- Bytes come from a file; a pipe yields none. -/
theorem read_eq_ok_iff : tree.read path = .ok content ↔
    (∃ id, tree.find path = .ok (.file id content)) ∨
      tree.find path = .ok .pipe ∧ content = [] := by
  unfold read
  cases found : tree.find path with
  | error reason => simp [bind, Except.bind]
  | ok node =>
    cases node with
    | directory => simp [bind, Except.bind, throw, throwThe, MonadExceptOf.throw]
    | pipe => simp [bind, Except.bind, pure, Except.pure, eq_comm]
    | file other held => simp [bind, Except.bind, pure, Except.pure]

theorem contains_of_read (found : tree.read path = .ok content) : tree.contains path = true := by
  rcases read_eq_ok_iff.mp found with ⟨id, stands⟩ | ⟨stands, -⟩ <;> simp [contains, stands]

/-! ### Changes of content -/

theorem lookup_modifyFile (entries : List (Location × Node)) (location : Location) :
    (entries.map fun (place, node) => (place, node.modifyFile id change)).lookup location =
      (entries.lookup location).map (Node.modifyFile id change) := by
  induction entries with
  | nil => rfl
  | cons entry rest ih =>
    obtain ⟨place, node⟩ := entry
    rw [List.map_cons, List.lookup_cons, List.lookup_cons, ih]
    cases location == place <;> rfl

theorem node?_modifyFile (location : Location) : (tree.modifyFile id change).node? location =
    (tree.node? location).map (Node.modifyFile id change) := by
  unfold node?
  split
  · rfl
  · exact lookup_modifyFile tree.entries location

theorem walk_modifyFile (names : List Name) (location : Location) :
    (tree.modifyFile id change).walk location names = tree.walk location names := by
  induction names generalizing location with
  | nil => rfl
  | cons name rest ih =>
    simp only [walk, node?_modifyFile]
    cases tree.node? location with
    | none => rfl
    | some node =>
      cases node with
      | directory => simp only [Option.map_some, Node.modifyFile, ih]
      | file _ _ => rfl
      | pipe => rfl

theorem resolve_modifyFile :
    (tree.modifyFile id change).resolve path = tree.resolve path := by
  unfold resolve
  rw [walk_modifyFile]
  rfl

theorem find_modifyFile (found : tree.find path = .ok node) :
    (tree.modifyFile id change).find path = .ok (node.modifyFile id change) := by
  obtain ⟨location, leads, stands⟩ := find_eq_ok_iff.mp found
  refine find_eq_ok_iff.mpr ⟨location, resolve_modifyFile.trans leads, ?_⟩
  rw [node?_modifyFile, stands, Option.map_some]

/-- A file that is there is opened as it is. -/
theorem openFile_of_file (found : tree.find path = .ok (.file id content)) :
    tree.openFile path = .ok (id, tree) := by
  obtain ⟨location, leads, stands⟩ := find_eq_ok_iff.mp found
  simp [openFile, leads, stands, bind, Except.bind, pure, Except.pure]

/-- What is written to a file is what is read from it. -/
theorem read_write (found : tree.find path = .ok (.file id content)) (written : List UInt8) :
    ∃ after, tree.write path written = .ok after ∧ after.read path = .ok written := by
  refine ⟨tree.modifyFile id fun _ => written, ?_, ?_⟩
  · simp [write, openFile_of_file found, bind, Except.bind, pure, Except.pure]
  · refine read_eq_ok_iff.mpr (.inl ⟨id, ?_⟩)
    rw [find_modifyFile found, Node.modifyFile, if_pos rfl]

end Tree
end ReleaseFeed.Files
