import ReleaseFeed.Log.Writer
import ReleaseFeed.Proofs.Files.Opening
/-!
A log that is removed while it is written. Main statement: no call of the writer fails, and after
any calls and removals the log holds all that was written since the last removal, behind what it
held when it was opened if it was never removed.
-/
namespace ReleaseFeed.Log

open Files (Path Tree Location)

/-- What happens to a log that is open: calls of its writer, and removals between them. -/
inductive Event where
  | write (bytes : List UInt8)
  | flush
  | removal (place : Location)
deriving DecidableEq

namespace Event

/-- The writer and the files after an event. -/
def apply (writer : Writer) (tree : Tree) : Event → Except SystemError (Writer × Tree)
  | write bytes => writer.write bytes tree
  | flush => writer.flush tree
  | removal place => .ok (writer, tree.remove place)

def bytes : Event → List UInt8
  | write bytes => bytes
  | _ => []

def isRemoval : Event → Bool
  | removal _ => true
  | _ => false

/-- What the log holds after an event; nothing at all stands at its path where it is removed. -/
def after (held : Option (List UInt8)) : Event → Option (List UInt8)
  | removal _ => none
  | event => some (held.getD [] ++ event.bytes)

end Event

/-- The writer and the files after all events in turn. -/
def run (writer : Writer) (tree : Tree) : List Event → Except SystemError (Writer × Tree)
  | [] => .ok (writer, tree)
  | event :: rest => do
    let (writer, tree) ← event.apply writer tree
    run writer tree rest

def written (events : List Event) : List UInt8 := events.flatMap Event.bytes

section History

variable {events calls front : List Event} {held : List UInt8} {place : Location}

theorem foldl_after_some (kept : ∀ event ∈ events, event.isRemoval = false)
    (held : List UInt8) : events.foldl Event.after (some held) = some (held ++ written events) := by
  induction events generalizing held with
  | nil => simp [written]
  | cons event rest ih =>
    obtain ⟨call, kept⟩ := List.forall_mem_cons.mp kept
    have here : Event.after (some held) event = some (held ++ event.bytes) := by
      cases event with
      | removal place => contradiction
      | write bytes => rfl
      | flush => rfl
    rw [List.foldl_cons, here, ih kept, List.append_assoc]
    rfl

/-- The first call behind a removal starts an empty log. -/
theorem foldl_after_removal (kept : ∀ event ∈ calls, event.isRemoval = false)
    (called : calls ≠ []) (held : Option (List UInt8)) :
    (front ++ .removal place :: calls).foldl Event.after held = some (written calls) := by
  rw [List.foldl_append, List.foldl_cons]
  obtain ⟨call, rest, rfl⟩ := List.exists_cons_of_ne_nil called
  -- to a call, no log and an empty one are the same
  have empty : Event.after none call = Event.after (some []) call := by cases call <;> rfl
  calc (call :: rest).foldl Event.after none
      = (call :: rest).foldl Event.after (some []) := by
        rw [List.foldl_cons, List.foldl_cons, empty]
    _ = some (written (call :: rest)) := foldl_after_some kept []

end History

/-! ### The writer and its file -/

section Steps

variable {path : Path} {origin place removed : Location} {held : Option (List UInt8)}
  {writer : Writer} {tree : Tree} {event : Event} {events : List Event}

/-- What a log disappears with: its own place or one above it. A path that starts in the current
directory leads nowhere once that one is gone, so it is left out. -/
structure Above (origin place removed : Location) : Prop where
  isPrefix : removed <+: place
  spared : removed <+: origin → origin = []

/-- What stands at the path of a writer. -/
def Stands (path : Path) (place : Location) (writer : Writer) (tree : Tree) :
    Option (List UInt8) → Prop
  | some content => tree.find path = .ok (.file writer.id content)
  | none => tree.node? place = none

/-- A writer that writes to the file at its path, or that makes it anew where there is none. -/
structure Serves (path : Path) (origin place : Location) (held : Option (List UInt8))
    (writer : Writer) (tree : Tree) : Prop where
  path_eq : writer.path = path
  start_eq : tree.start path = origin
  offers : tree.Offers path place
  stands : Stands path place writer tree held

namespace Serves

variable (serves : Serves path origin place held writer tree)
include serves

/-- The look whether the file is still there leaves a file. -/
theorem refresh : ∃ later after, writer.refresh tree = .ok (later, after) ∧
    Serves path origin place (some (held.getD [])) later after := by
  obtain ⟨rfl, start, offers, stands⟩ := serves
  cases held with
  | some content =>
    refine ⟨writer, tree, ?_, rfl, start, offers, stands⟩
    have there : tree.contains writer.path = true := by
      rw [Tree.contains, stands]
      rfl
    rw [Writer.refresh, if_pos there]
  | none =>
    obtain ⟨made, makes, current, reached, leads, same⟩ := offers.exists_made
    have free : made.node? place = none := same.trans stands
    obtain ⟨opens, found⟩ := Tree.openFile_of_none leads free
    refine ⟨⟨writer.path, made.nextId⟩, made.putFile place [], ?_, rfl,
      (Tree.start_eq current _).trans start, reached.putFile free [], found⟩
    have absent : ¬ tree.contains writer.path = true := by
      simp [offers.contains_eq_false stands]
    rw [Writer.refresh, if_neg absent, makes, ok_bind, Writer.openAt, opens]
    rfl

theorem write (bytes : List UInt8) : ∃ later after, writer.write bytes tree = .ok (later, after) ∧
    Serves path origin place (some (held.getD [] ++ bytes)) later after := by
  obtain ⟨later, after, looks, rfl, start, offers, found⟩ := serves.refresh
  refine ⟨later, after.append later.id bytes, ?_, rfl, start, offers.modifyFile _ _, ?_⟩
  · rw [Writer.write, looks]
    rfl
  · have grown : (after.append later.id bytes).find later.path = _ := Tree.find_modifyFile found
    rwa [Files.Node.modifyFile, if_pos rfl] at grown

theorem remove (above : Above origin place removed) :
    Serves path origin place none writer (tree.remove removed) := by
  obtain ⟨same, rfl, offers, -⟩ := serves
  refine ⟨same, rfl, offers.remove above.spared, ?_⟩
  rw [Stands, Tree.node?_remove tree removed offers.belowRoot, if_pos above.isPrefix]

/-- No event fails, and the log then holds what it has to hold. -/
theorem apply (above : ∀ removed, event = .removal removed → Above origin place removed) :
    ∃ later after, event.apply writer tree = .ok (later, after) ∧
      Serves path origin place (event.after held) later after := by
  cases event with
  | write bytes => exact serves.write bytes
  | flush =>
    obtain ⟨later, after, looks, stands⟩ := serves.refresh
    have nothing : Event.after held .flush = some (held.getD []) :=
      congrArg some (List.append_nil _)
    exact ⟨later, after, looks, nothing ▸ stands⟩
  | removal removed =>
    exact ⟨writer, tree.remove removed, rfl, serves.remove (above removed rfl)⟩

theorem run (above : ∀ removed, .removal removed ∈ events → Above origin place removed) :
    ∃ later after, Log.run writer tree events = .ok (later, after) ∧
      Serves path origin place (events.foldl Event.after held) later after := by
  induction events generalizing held writer tree with
  | nil => exact ⟨writer, tree, rfl, serves⟩
  | cons event rest ih =>
    obtain ⟨next, between, applied, stands⟩ :=
      serves.apply fun removed same => above removed (same ▸ List.mem_cons_self)
    obtain ⟨later, after, runs, ends⟩ :=
      ih stands fun removed inside => above removed (List.mem_cons_of_mem _ inside)
    refine ⟨later, after, ?_, ends⟩
    rw [Log.run, applied]
    exact runs

end Serves

/-! ### A log that was opened -/

/-- What a log holds when it is opened; it is empty if it is made then. -/
def heldAt (path : Path) (tree : Tree) : List UInt8 := (tree.read path).toOption.getD []

theorem openAt_eq_ok_iff {opened : Tree} : Writer.openAt path tree = .ok (writer, opened) ↔
    writer.path = path ∧ tree.openFile path = .ok (writer.id, opened) := by
  rw [Writer.openAt, bind_eq_ok_iff]
  constructor
  · rintro ⟨⟨id, after⟩, opens, same⟩
    cases same
    exact ⟨rfl, opens⟩
  · rintro ⟨rfl, opens⟩
    exact ⟨_, opens, rfl⟩

theorem serves_of_openAt {opened : Tree} (opens : Writer.openAt path tree = .ok (writer, opened))
    (leads : tree.resolve path = .ok place) (noPipe : tree.isPipe path = false) :
    Serves path (tree.start path) place (some (heldAt path tree)) writer opened := by
  obtain ⟨same, opens⟩ := openAt_eq_ok_iff.mp opens
  obtain ⟨other, leadsToo, opens⟩ := Tree.openFile_eq_ok_iff.mp opens
  obtain rfl := Except.ok.inj (leads.symm.trans leadsToo)
  have offers := Tree.offers_of_opens leads opens
  generalize known : writer.id = id at opens
  cases opens with
  | @file _ content stands =>
    have found := Tree.find_eq_ok_iff.mpr ⟨place, leads, stands⟩
    have held : heldAt path tree = content := by
      rw [heldAt, Tree.read_eq_ok_iff.mpr (.inl ⟨id, found⟩)]
      rfl
    refine ⟨same, rfl, offers, ?_⟩
    rw [Stands, found, held, known]
  | pipe stands =>
    have found := Tree.find_eq_ok_iff.mpr ⟨place, leads, stands⟩
    simp [Tree.isPipe, found] at noPipe
  | new free =>
    have absent : tree.find path = .error Files.notFound := by
      rw [Tree.find, leads, ok_bind, free]
      rfl
    have held : heldAt path tree = [] := by
      rw [heldAt, Tree.read, absent]
      rfl
    refine ⟨same, rfl, offers.putFile free [], ?_⟩
    rw [Stands, (Tree.openFile_of_none leads free).2, held, known]

/-- What a log holds after calls and removals. -/
structure Recorded (path : Path) (held : List UInt8) (events : List Event) (tree : Tree) :
    Prop where
  /-- A log that was never removed holds all that was written behind what it held at first. -/
  whole : (∀ event ∈ events, event.isRemoval = false) →
    tree.read path = .ok (held ++ written events)
  /-- A log that was removed holds all that was written since the last removal. -/
  recent : ∀ front removed calls, events = front ++ .removal removed :: calls →
    (∀ event ∈ calls, event.isRemoval = false) → calls ≠ [] →
      tree.read path = .ok (written calls)
  /-- There is no log between a removal and the next call. -/
  gone : ∀ front removed, events = front ++ [.removal removed] → tree.contains path = false

/-- No call of an open writer fails, whatever is removed between the calls, and nothing is lost that
was written since the last removal. A pipe is no log, since it keeps nothing that is written. -/
theorem losesNothing {opened : Tree} (opens : Writer.openAt path tree = .ok (writer, opened))
    (noPipe : tree.isPipe path = false) (leads : tree.resolve path = .ok place)
    (above : ∀ removed, .removal removed ∈ events → Above (tree.start path) place removed) :
    ∃ later after, run writer opened events = .ok (later, after) ∧
      Recorded path (heldAt path tree) events after := by
  obtain ⟨later, after, runs, -, -, offers, stands⟩ :=
    (serves_of_openAt opens leads noPipe).run above
  refine ⟨later, after, runs, ?_, ?_, ?_⟩
  · intro kept
    rw [foldl_after_some kept] at stands
    exact Tree.read_eq_ok_iff.mpr (.inl ⟨_, stands⟩)
  · rintro front removed calls rfl kept called
    rw [foldl_after_removal kept called] at stands
    exact Tree.read_eq_ok_iff.mpr (.inl ⟨_, stands⟩)
  · rintro front removed rfl
    rw [List.foldl_append] at stands
    exact offers.contains_eq_false stands

end Steps

/-- A log of one byte below a directory, which is removed with the directory and once more alone. -/
theorem losesNothing_of_removed_directory :
    Writer.openAt "/a/b".toList ((Tree.empty.put [['a']] .directory).putFile [['a'], ['b']] [0]) =
      .ok (⟨"/a/b".toList, 0⟩, (Tree.empty.put [['a']] .directory).putFile [['a'], ['b']] [0]) ∧
    ((Tree.empty.put [['a']] .directory).putFile [['a'], ['b']] [0]).isPipe "/a/b".toList = false ∧
    ((Tree.empty.put [['a']] .directory).putFile [['a'], ['b']] [0]).resolve "/a/b".toList =
      .ok [['a'], ['b']] ∧
    Above [] [['a'], ['b']] [['a']] ∧ Above [] [['a'], ['b']] [['a'], ['b']] ∧
    ∃ later after, run ⟨"/a/b".toList, 0⟩
        ((Tree.empty.put [['a']] .directory).putFile [['a'], ['b']] [0])
        [.write [1], .removal [['a']], .flush, .write [2], .removal [['a'], ['b']], .write [3],
          .write [4]] = .ok (later, after) ∧
      after.read "/a/b".toList = .ok [3, 4] := by
  have directory : Above [] [['a'], ['b']] [['a']] := ⟨by decide, by decide⟩
  have file : Above [] [['a'], ['b']] [['a'], ['b']] := ⟨by decide, by decide⟩
  have above : ∀ removed, .removal removed ∈ [Event.write [1], .removal [['a']], .flush, .write [2],
      .removal [['a'], ['b']], .write [3], .write [4]] → Above [] [['a'], ['b']] removed := by
    intro removed inside
    simp only [List.mem_cons, reduceCtorEq, Event.removal.injEq, false_or, List.not_mem_nil,
      or_false] at inside
    rcases inside with rfl | rfl
    · exact directory
    · exact file
  have opens : Writer.openAt "/a/b".toList
      ((Tree.empty.put [['a']] .directory).putFile [['a'], ['b']] [0]) =
    .ok (⟨"/a/b".toList, 0⟩,
      (Tree.empty.put [['a']] .directory).putFile [['a'], ['b']] [0]) := rfl
  obtain ⟨later, after, runs, recorded⟩ := losesNothing opens rfl rfl above
  refine ⟨opens, rfl, rfl, directory, file, later, after, runs, ?_⟩
  exact recorded.recent [.write [1], .removal [['a']], .flush, .write [2]] [['a'], ['b']]
    [.write [3], .write [4]] rfl (by decide) (by decide)

end ReleaseFeed.Log
