import ReleaseFeed.Files.Path
import ReleaseFeed.Proofs.Text.Trim

namespace ReleaseFeed.Files.Path

variable {path front name slashes : Path} {directories : List Name} {last : Name}

/-- The names in a path, without the one that a slash at its end stands for. -/
def pieces (path : Path) : List Name :=
  (Text.splitOn '/' path).filter fun piece => !piece.isEmpty

theorem pieces_append_slash (front back : Path) :
    pieces (front ++ '/' :: back) = pieces front ++ pieces back := by
  rw [pieces, Text.splitOn_append_cons, List.filter_append]
  rfl

theorem pieces_of_slashes (slash : ∀ c ∈ slashes, c = '/') : pieces slashes = [] := by
  induction slashes with
  | nil => rfl
  | cons first rest ih =>
    have here := slash first List.mem_cons_self
    subst here
    exact (pieces_append_slash [] rest).trans (ih fun c inside => slash c (.tail _ inside))

/-- Slashes at the end of a path add no names. -/
theorem pieces_append_slashes (slash : ∀ c ∈ slashes, c = '/') :
    pieces (front ++ slashes) = pieces front := by
  cases slashes with
  | nil => rw [List.append_nil]
  | cons first rest =>
    have here := slash first List.mem_cons_self
    subst here
    rw [pieces_append_slash, pieces_of_slashes fun c inside => slash c (.tail _ inside),
      List.append_nil]

theorem names_append_slash (unbroken : '/' ∉ name) :
    names (front ++ '/' :: name) = pieces front ++ [if name.isEmpty then selfName else name] := by
  simp [names, pieces, Text.splitOn_append_cons, Text.splitOn_of_not_mem unbroken]

theorem names_of_slash_not_mem (unbroken : '/' ∉ name) :
    names name = [if name.isEmpty then selfName else name] := by
  simp [names, Text.splitOn_of_not_mem unbroken]

/-! ### The path of the directory -/

/-- What is dropped at the end of a path stands behind what is left of it. -/
theorem exists_dropped (drops : Char → Bool) (path : Path) : ∃ dropped,
    path = (path.reverse.dropWhile drops).reverse ++ dropped ∧ ∀ c ∈ dropped, drops c = true := by
  refine ⟨(path.reverse.takeWhile drops).reverse, ?_, ?_⟩
  · rw [← List.reverse_append, List.takeWhile_append_dropWhile, List.reverse_reverse]
  · exact fun c inside => List.mem_takeWhile_imp (List.mem_reverse.mp inside)

/-- Of a path of slashes one is left, and any other path loses the slashes at its end. -/
theorem withoutEnd_cases (path : Path) :
    (∀ c ∈ path, c = '/') ∧ withoutEnd path = path.take 1 ∨
      withoutEnd path ≠ [] ∧ ∃ slashes, (∀ c ∈ slashes, c = '/') ∧
        path = withoutEnd path ++ slashes := by
  obtain ⟨slashes, shape, slash⟩ := exists_dropped (· == '/') path
  simp only [beq_iff_eq] at slash
  unfold withoutEnd
  split
  · rename_i nothing
    rw [nothing] at shape
    exact .inl ⟨shape ▸ slash, rfl⟩
  · rename_i something
    exact .inr ⟨by simpa using something, slashes, slash, shape⟩

theorem pieces_withoutEnd (path : Path) : pieces (withoutEnd path) = pieces path := by
  rcases withoutEnd_cases path with ⟨slash, same⟩ | ⟨-, slashes, slash, shape⟩
  · rw [same, pieces_of_slashes slash,
      pieces_of_slashes fun c inside => slash c (List.mem_of_mem_take inside)]
  · rw [← pieces_append_slashes slash, ← shape]

theorem isAbsolute_append (nonempty : front ≠ []) (back : Path) :
    isAbsolute (front ++ back) = isAbsolute front := by
  cases front with
  | nil => contradiction
  | cons first rest => rfl

theorem isAbsolute_withoutEnd (path : Path) : isAbsolute (withoutEnd path) = isAbsolute path := by
  rcases withoutEnd_cases path with ⟨-, same⟩ | ⟨nonempty, slashes, -, shape⟩
  · rw [same]
    cases path <;> rfl
  · rw [← isAbsolute_append nonempty slashes, ← shape]

/-- A path that ends with a name has nothing to strip off. -/
theorem withoutEnd_append (nonempty : name ≠ []) (unbroken : '/' ∉ name) :
    withoutEnd (front ++ name) = front ++ name := by
  obtain ⟨rest, c, rfl⟩ := List.eq_nil_or_concat name |>.resolve_left nonempty
  have apart : c ≠ '/' := by
    rintro rfl
    exact unbroken (by simp)
  simp [withoutEnd, apart]

/-- The directory of a file is what stands ahead of the last slash. -/
theorem parent_append_slash (nonempty : name ≠ []) (unbroken : '/' ∉ name) :
    parent (front ++ '/' :: name) = withoutEnd (front ++ ['/']) := by
  have kept : withoutEnd ((front ++ ['/']) ++ name) = (front ++ ['/']) ++ name :=
    withoutEnd_append nonempty unbroken
  have whole : front ++ '/' :: name = (front ++ ['/']) ++ name := by simp
  rw [whole, parent, kept, List.reverse_append, Text.dropWhile_append_of_stops]
  · simp
  · intro c inside
    rw [bne_iff_ne]
    rintro rfl
    exact unbroken (List.mem_reverse.mp inside)
  · simp

theorem parent_of_slash_not_mem (nonempty : name ≠ []) (unbroken : '/' ∉ name) :
    parent name = [] := by
  have kept : withoutEnd ([] ++ name) = [] ++ name := withoutEnd_append nonempty unbroken
  rw [List.nil_append] at kept
  have dropped : name.reverse.dropWhile (· != '/') = [] := by
    rw [List.dropWhile_eq_nil_iff]
    intro c inside
    rw [bne_iff_ne]
    rintro rfl
    exact unbroken (List.mem_reverse.mp inside)
  rw [parent, kept, dropped]
  rfl

/-- A path that ends with the name of a file, below directories. -/
structure NamesFile (path : Path) (directories : List Name) (last : Name) : Prop where
  names : path.names = directories ++ [last]
  parent : path.parent.pieces = directories
  start : path.parent.isAbsolute = path.isAbsolute

theorem exists_lastSlash (broken : '/' ∈ path) :
    ∃ front name, path = front ++ '/' :: name ∧ '/' ∉ name := by
  obtain ⟨behind, before, shape, unbroken⟩ :=
    List.eq_append_cons_of_mem (List.mem_reverse.mpr broken)
  refine ⟨before.reverse, behind.reverse, ?_, fun inside => unbroken (List.mem_reverse.mp inside)⟩
  rw [← List.reverse_reverse path, shape]
  simp

/-- Every path names a file but those that end with a slash or with a dot for the directory. -/
theorem namesFile (names : path.names = directories ++ [last]) (named : last ≠ selfName) :
    NamesFile path directories last := by
  by_cases broken : '/' ∈ path
  · obtain ⟨front, name, rfl, unbroken⟩ := exists_lastSlash broken
    rw [names_append_slash unbroken] at names
    obtain ⟨rfl, same⟩ := List.append_inj' names rfl
    have nonempty : name ≠ [] := by
      rintro rfl
      exact named (List.cons.inj same).1.symm
    have parent : (front ++ '/' :: name).parent = withoutEnd (front ++ ['/']) :=
      parent_append_slash nonempty unbroken
    refine ⟨by rw [names_append_slash unbroken, same], ?_, ?_⟩
    · rw [parent, pieces_withoutEnd, pieces_append_slash]
      exact List.append_nil _
    · rw [parent, isAbsolute_withoutEnd, List.append_cons front '/' name]
      exact (isAbsolute_append (by simp) name).symm
  · rw [names_of_slash_not_mem broken, ← List.nil_append [_]] at names
    obtain ⟨rfl, same⟩ := List.append_inj' names rfl
    have nonempty : path ≠ [] := by
      rintro rfl
      exact named (List.cons.inj same).1.symm
    refine ⟨by rw [names_of_slash_not_mem broken, same]; rfl, ?_, ?_⟩
    · rw [parent_of_slash_not_mem nonempty broken]
      rfl
    · rw [parent_of_slash_not_mem nonempty broken]
      cases path with
      | nil => contradiction
      | cons first rest =>
        have apart : first ≠ '/' := fun same => broken (same ▸ List.mem_cons_self)
        simp [isAbsolute, apart]

/-- A name for the directory itself is all that can follow the names in a path. -/
theorem names_cases (path : Path) :
    names path = pieces path ∨ names path = pieces path ++ [selfName] := by
  rcases List.eq_nil_or_concat (Text.splitOn '/' path) with none | ⟨front, name, split⟩
  · exact absurd none (Text.splitBy_ne_nil _ path)
  · by_cases empty : name = []
    · exact .inr (by simp [names, pieces, split, empty])
    · exact .inl (by simp [names, pieces, split, empty])

end ReleaseFeed.Files.Path
