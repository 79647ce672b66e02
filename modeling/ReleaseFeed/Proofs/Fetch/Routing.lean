import ReleaseFeed.Fetch.Request
/-!
Which file an endpoint names. Main statement: a path without scheme names itself, a file mark is
taken off the path behind it, and any other scheme but those of servers is refused; of a path that
starts with a file mark of its own, that mark is lost too.
-/
namespace ReleaseFeed

open Files (Path)

namespace Endpoint

variable {text before behind scheme : List Char} {endpoint : Endpoint}

/-- A text that is cut in two at the first scheme mark in it. -/
structure CutsAtMark (text before behind : List Char) : Prop where
  shape : text = before ++ (schemeMark ++ behind)
  first : ∀ other rest, text = other ++ (schemeMark ++ rest) → before.length ≤ other.length

namespace CutsAtMark

/-- A character ahead of a text belongs to the part ahead of the mark, unless the mark starts with
it. -/
theorem cons {c : Char} (cuts : CutsAtMark text before behind)
    (unmarked : ¬ schemeMark <+: c :: text) : CutsAtMark (c :: text) (c :: before) behind := by
  refine ⟨by rw [cuts.shape, List.cons_append], ?_⟩
  intro other rest shape
  cases other with
  | nil => exact absurd ⟨rest, shape.symm⟩ unmarked
  | cons first other =>
    have shorter := cuts.first other rest (List.cons.inj shape).2
    simpa using shorter

theorem of_cons {c : Char} (cuts : CutsAtMark (c :: text) before behind)
    (unmarked : ¬ schemeMark <+: c :: text) :
    ∃ others, before = c :: others ∧ CutsAtMark text others behind := by
  cases before with
  | nil => exact absurd ⟨behind, cuts.shape.symm⟩ unmarked
  | cons first others =>
    obtain ⟨rfl, shape⟩ := List.cons.inj cuts.shape
    refine ⟨others, rfl, shape, ?_⟩
    intro other rest same
    have shorter := cuts.first (c :: other) rest (by rw [same, List.cons_append])
    simpa using shorter

end CutsAtMark

theorem beforeMark?_eq_some_iff :
    beforeMark? text = some before ↔ ∃ behind, CutsAtMark text before behind := by
  induction text generalizing before with
  | nil =>
    constructor
    · intro found
      cases found
    · rintro ⟨behind, cuts⟩
      have shape := congrArg List.length cuts.shape
      simp [schemeMark] at shape
  | cons c rest ih =>
    rw [beforeMark?]
    by_cases marked : schemeMark <+: c :: rest
    · rw [if_pos (List.isPrefixOf_iff_prefix.mpr marked)]
      obtain ⟨behind, shape⟩ := marked
      constructor
      · intro found
        obtain rfl := Option.some.inj found
        exact ⟨behind, shape.symm, fun _ _ _ => Nat.zero_le _⟩
      · rintro ⟨_, cuts⟩
        have empty := cuts.first [] behind shape.symm
        rw [List.length_nil, Nat.le_zero, List.length_eq_zero_iff] at empty
        rw [empty]
    · rw [if_neg (mt List.isPrefixOf_iff_prefix.mp marked), Option.map_eq_some_iff]
      constructor
      · rintro ⟨others, found, rfl⟩
        obtain ⟨behind, cuts⟩ := ih.mp found
        exact ⟨behind, cuts.cons marked⟩
      · rintro ⟨behind, cuts⟩
        obtain ⟨others, rfl, later⟩ := cuts.of_cons marked
        exact ⟨others, ih.mpr ⟨behind, later⟩, rfl⟩

theorem beforeMark?_eq_none_iff : beforeMark? text = none ↔ ¬ schemeMark <:+: text := by
  induction text with
  | nil => simp [beforeMark?, schemeMark]
  | cons c rest ih =>
    rw [beforeMark?, List.infix_cons_iff]
    by_cases marked : schemeMark <+: c :: rest
    · simp [List.isPrefixOf_iff_prefix.mpr marked, marked]
    · rw [if_neg (mt List.isPrefixOf_iff_prefix.mp marked), Option.map_eq_none_iff, ih]
      simp [marked]

theorem scheme?_eq_some_iff : endpoint.scheme? = some scheme ↔
    scheme ≠ [] ∧ ∃ behind, CutsAtMark endpoint.text.toList scheme behind := by
  rw [scheme?, Option.filter_eq_some_iff, beforeMark?_eq_some_iff, And.comm]
  simp

/-- A text without any mark has no scheme, and neither has one that starts with a mark. -/
theorem scheme?_eq_none_iff : endpoint.scheme? = none ↔
    ¬ schemeMark <:+: endpoint.text.toList ∨ schemeMark <+: endpoint.text.toList := by
  rw [← beforeMark?_eq_none_iff, scheme?]
  cases found : beforeMark? endpoint.text.toList with
  | none => simp
  | some before =>
    obtain ⟨behind, cuts⟩ := beforeMark?_eq_some_iff.mp found
    have marked : schemeMark <+: endpoint.text.toList ↔ before = [] := by
      constructor
      · rintro ⟨rest, shape⟩
        have empty := cuts.first [] rest shape.symm
        simpa using empty
      · rintro rfl
        exact ⟨behind, cuts.shape.symm⟩
    simp [marked]

/-- What is put in front of the path of a file. -/
def fileMark : List Char := "file://".toList

theorem dropFileMarks_fileMark_append : dropFileMarks (fileMark ++ text) = dropFileMarks text :=
  rfl

theorem dropFileMarks_of_unmarked (unmarked : ¬ fileMark <+: text) : dropFileMarks text = text := by
  unfold dropFileMarks
  split
  · rename_i rest
    exact absurd ⟨rest, rfl⟩ unmarked
  · rfl

theorem length_dropFileMarks_le (text : List Char) : (dropFileMarks text).length ≤ text.length := by
  fun_induction dropFileMarks text with
  | case1 rest ih =>
    simp only [List.length_cons]
    omega
  | case2 => exact Nat.le_refl _

/-- A path that starts with a file mark is not found behind another one. -/
theorem dropFileMarks_eq_self_iff : dropFileMarks text = text ↔ ¬ fileMark <+: text := by
  refine ⟨?_, dropFileMarks_of_unmarked⟩
  rintro kept ⟨rest, rfl⟩
  have shorter := length_dropFileMarks_le rest
  rw [dropFileMarks_fileMark_append] at kept
  rw [kept, List.length_append] at shorter
  have longer : 0 < fileMark.length := by decide
  omega

section File

variable (path : String)

theorem scheme?_file : scheme? ⟨"file://" ++ path⟩ = some "file".toList := by
  rw [scheme?, String.toList_append]
  rfl

theorem transport_file : transport ⟨"file://" ++ path⟩ = .file := by
  rw [transport, scheme?_file]
  decide

theorem path_file :
    Endpoint.path ⟨"file://" ++ path⟩ = .ok (dropFileMarks path.toList) := by
  rw [Endpoint.path, scheme?_file]
  change Except.ok (dropFileMarks ("file://" ++ path).toList) = _
  rw [String.toList_append]
  rfl

end File

theorem transport_of_scheme? (file : ∀ scheme ∈ endpoint.scheme?, scheme ≠ "http".toList ∧
    scheme ≠ "https".toList) : endpoint.transport = .file := by
  apply if_neg
  rintro (http | https)
  · exact (file _ http).1 rfl
  · exact (file _ https).2 rfl

end Endpoint

namespace Fetch

open Endpoint (CutsAtMark fileMark schemeMark)

/-- The content of the file at a path, as a transport hands it back. -/
def Surroundings.fileAt (surroundings : Surroundings) (path : Path) :
    Except TransportError (List UInt8) :=
  (surroundings.tree.read path).mapError .system

/-- What is fetched from endpoints through the transports that they select. -/
structure ReadsNamedFile (surroundings : Surroundings) : Prop where
  /-- A file mark is followed by the path. -/
  file : ∀ path : String, ¬ fileMark <+: path.toList →
    surroundings.fetch ⟨"file://" ++ path⟩ = surroundings.fileAt path.toList
  /-- Any number of further file marks changes nothing. -/
  marked : ∀ path : String,
    surroundings.fetch ⟨"file://" ++ ("file://" ++ path)⟩ = surroundings.fetch ⟨"file://" ++ path⟩
  exact : ∀ path : String,
    Endpoint.path ⟨"file://" ++ path⟩ = .ok path.toList ↔ ¬ fileMark <+: path.toList
  /-- A text without scheme is a path. -/
  plain : ∀ text : String, ¬ schemeMark <:+: text.toList ∨ schemeMark <+: text.toList →
    surroundings.fetch ⟨text⟩ = surroundings.fileAt text.toList
  /-- A scheme of a server is no business of files. -/
  server : ∀ (text : String) before behind, CutsAtMark text.toList before behind →
    before = "http".toList ∨ before = "https".toList →
      surroundings.fetch ⟨text⟩ = Http.payload (surroundings.exchange ⟨text⟩)
  /-- Any other scheme is refused, and no file is opened. -/
  refused : ∀ (text : String) before behind, CutsAtMark text.toList before behind →
    before ≠ [] → before ∉ ["http".toList, "https".toList, "file".toList] →
      surroundings.fetch ⟨text⟩ = .error (.unsupportedEndpoint text
        "only file:// endpoints and plain paths are readable from disk") ∧
        requestRecords ⟨text⟩ = []

section Routes

variable {surroundings : Surroundings} {endpoint : Endpoint} {path : Path}

theorem fetch_of_path (transport : endpoint.transport = .file) (named : endpoint.path = .ok path) :
    surroundings.fetch endpoint = surroundings.fileAt path := by
  rw [Surroundings.fetch, transport]
  dsimp only
  rw [Endpoint.content, named]
  rfl

theorem fetch_file (path : String) : surroundings.fetch ⟨"file://" ++ path⟩ =
    surroundings.fileAt (Endpoint.dropFileMarks path.toList) :=
  fetch_of_path (Endpoint.transport_file path) (Endpoint.path_file path)

end Routes

/-- An endpoint is fetched from the place that its scheme names. -/
theorem readsNamedFile (surroundings : Surroundings) : ReadsNamedFile surroundings where
  file path unmarked := by
    rw [fetch_file, Endpoint.dropFileMarks_of_unmarked unmarked]
  marked path := by
    rw [fetch_file, fetch_file, String.toList_append]
    rfl
  exact path := by
    rw [Endpoint.path_file, Except.ok.injEq]
    exact Endpoint.dropFileMarks_eq_self_iff
  plain text unmarked := by
    have none : Endpoint.scheme? ⟨text⟩ = none := Endpoint.scheme?_eq_none_iff.mpr unmarked
    refine fetch_of_path (Endpoint.transport_of_scheme? (by simp [none])) ?_
    rw [Endpoint.path, none]
  server text before behind cuts served := by
    have named : Endpoint.scheme? ⟨text⟩ = some before := by
      refine Endpoint.scheme?_eq_some_iff.mpr ⟨?_, behind, cuts⟩
      rcases served with rfl | rfl <;> decide
    have transport : Endpoint.transport ⟨text⟩ = .http := by
      rw [Endpoint.transport, named]
      exact if_pos (by simpa using served)
    rw [Surroundings.fetch, transport]
  refused text before behind cuts visible other := by
    have named : Endpoint.scheme? ⟨text⟩ = some before :=
      Endpoint.scheme?_eq_some_iff.mpr ⟨visible, behind, cuts⟩
    simp only [List.mem_cons, List.not_mem_nil, or_false, not_or] at other
    have transport : Endpoint.transport ⟨text⟩ = .file := by
      apply Endpoint.transport_of_scheme?
      intro scheme found
      obtain rfl : before = scheme := Option.some.inj (named.symm.trans found)
      exact ⟨other.1, other.2.1⟩
    have path : Endpoint.path ⟨text⟩ = .error (.unsupportedEndpoint text
        "only file:// endpoints and plain paths are readable from disk") := by
      rw [Endpoint.path, named]
      exact if_neg other.2.2
    constructor
    · rw [Surroundings.fetch, transport]
      dsimp only
      rw [Endpoint.content, path]
      rfl
    · rw [requestRecords, transport, path]

/-- Two files, one of them in a directory whose name is that of a scheme. -/
def twoFiles : Files.Tree where
  entries := [(["file:".toList], .directory), (["file:".toList, ['x']], .file 0 [0x61]),
    ([['x']], .file 1 [0x62])]
  current := []
  nextId := 2

/-- Behind a file mark the path of the first file is taken for that of the second. -/
theorem repeatedMark_is_lost :
    ¬ ∀ (surroundings : Surroundings) (path : String),
      surroundings.fetch ⟨"file://" ++ path⟩ = surroundings.fileAt path.toList := by
  intro exact
  have first : Surroundings.fileAt ⟨fun _ _ => .unanswered "", twoFiles⟩ "file://x".toList =
      .ok [0x61] := rfl
  have second : Surroundings.fetch ⟨fun _ _ => .unanswered "", twoFiles⟩ ⟨"file://" ++ "file://x"⟩ =
      .ok [0x62] := rfl
  have same := second.symm.trans ((exact _ _).trans first)
  simp at same

end Fetch
end ReleaseFeed
