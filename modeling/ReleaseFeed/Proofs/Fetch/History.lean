import Mathlib.Data.List.Induction
import ReleaseFeed.Fetch.Operation
/-!
The past of an engine as an observer knows it: which requests were accepted, what completed or gave
up the attempts that they launched, and which of them the subscribers were told of. It is read off
the operations and their answers alone, never off the state of the engine. Main statement: a run can
be cut at any place.
-/
namespace ReleaseFeed.Fetch

structure Attempt where
  number : Nat
  response : Response

/-- What subscribers are told of an attempt. -/
def Attempt.completion (identity : BuildIdentity) (attempt : Attempt) : Completion :=
  ⟨attempt.number, outcomeOf identity attempt.response⟩

/-- What was seen of the attempts so far. Those that the subscribers were told of stand in the order
in which that was done. -/
structure History where
  launched : Nat
  inFlight : List Nat
  completed : List Attempt
  told : List Attempt
  untold : List Attempt
  abandoned : List Nat
  isClosed : Bool

namespace History

def initial : History := ⟨0, [], [], [], [], [], false⟩

/-- An attempt was launched; attempts are numbered as they are launched. -/
def launch (history : History) : History :=
  { history with
    launched := history.launched + 1
    inFlight := history.inFlight ++ [history.launched + 1] }

/-- A response came for the oldest attempt in flight. -/
def settle (response : Response) (history : History) : History :=
  match history.inFlight with
  | [] => history
  | number :: rest =>
    { history with
      inFlight := rest
      completed := history.completed ++ [⟨number, response⟩]
      untold := history.untold ++ [⟨number, response⟩] }

def tell (number : Nat) (history : History) : History :=
  match history.untold.find? (·.number = number) with
  | none => history
  | some attempt =>
    { history with
      told := history.told ++ [attempt]
      untold := history.untold.filter (·.number ≠ number) }

def tellAll (history : History) : History :=
  { history with
    told := history.told ++ history.untold
    untold := [] }

def abandon (history : History) : History :=
  { history with
    inFlight := []
    abandoned := history.abandoned ++ history.inFlight }

def close (history : History) : History := { history with isClosed := true }

def note (history : History) : Operation → Answer → History
  | .start, .admission .accepted => history.launch
  | .retry, .admission .accepted => history.launch
  | .finish response, _ => history.settle response
  | .tell number, _ => history.tell number
  | .shutdown response, _ => (history.settle response).tellAll.close
  | .cancel, _ => history.abandon.tellAll.close
  | _, _ => history

end History

section Runs

variable (identity : BuildIdentity)

/-- The state behind operations on a new engine. -/
def Engine.after (operations : List Operation) : Engine :=
  (Engine.initial.run identity operations).2

/-- Operations on a new engine with their answers. -/
def Engine.trace (operations : List Operation) : List (Operation × Answer) :=
  operations.zip (Engine.initial.run identity operations).1

/-- What was seen during operations on a new engine. -/
def History.after (operations : List Operation) : History :=
  (Engine.trace identity operations).foldl (fun history seen => history.note seen.1 seen.2) .initial

/-- The attempts that completed behind the first of the operations. -/
def completedSince (before operations : List Operation) : List Attempt :=
  (History.after identity operations).completed.drop
    (History.after identity before).completed.length

/-- The attempts that the subscribers were told of behind the first of the operations. -/
def toldSince (before operations : List Operation) : List Attempt :=
  (History.after identity operations).told.drop (History.after identity before).told.length

end Runs

variable {identity : BuildIdentity}

namespace Engine

theorem length_run (engine : Engine) (operations : List Operation) :
    (engine.run identity operations).1.length = operations.length := by
  induction operations generalizing engine with
  | nil => rfl
  | cons operation rest ih => simp [run, ih]

theorem run_append (engine : Engine) (first second : List Operation) :
    engine.run identity (first ++ second) =
      ((engine.run identity first).1 ++ ((engine.run identity first).2.run identity second).1,
        ((engine.run identity first).2.run identity second).2) := by
  induction first generalizing engine with
  | nil => rfl
  | cons operation rest ih => simp only [List.cons_append, run, ih]

@[simp]
theorem after_nil : after identity [] = initial := rfl

theorem after_append (first second : List Operation) :
    after identity (first ++ second) = ((after identity first).run identity second).2 := by
  simp only [after, run_append]

@[simp]
theorem after_concat (operations : List Operation) (operation : Operation) :
    after identity (operations ++ [operation]) =
      ((after identity operations).step identity operation).2 := by
  rw [after_append]
  rfl

theorem trace_append (first second : List Operation) :
    trace identity (first ++ second) =
      trace identity first ++ second.zip ((after identity first).run identity second).1 := by
  simp only [trace, run_append, after]
  exact List.zip_append (length_run _ _).symm

@[simp]
theorem trace_concat (operations : List Operation) (operation : Operation) :
    trace identity (operations ++ [operation]) =
      trace identity operations ++
        [(operation, ((after identity operations).step identity operation).1)] := by
  rw [trace_append]
  rfl

theorem length_trace (operations : List Operation) :
    (trace identity operations).length = operations.length := by
  simp [trace, length_run]

/-- The answer that stands at a place of a trace is the one given by the state at that place. -/
theorem trace_getElem? (before later : List Operation) (operation : Operation) :
    (trace identity (before ++ operation :: later))[before.length]? =
      some (operation, ((after identity before).step identity operation).1) := by
  rw [trace_append, List.getElem?_append_right (by simp [length_trace])]
  simp [length_trace, run]

end Engine

namespace History

theorem isClosed_settle (history : History) (response : Response) :
    (history.settle response).isClosed = history.isClosed := by
  unfold settle
  split <;> rfl

theorem tell_fields (history : History) (number : Nat) :
    (history.tell number).launched = history.launched ∧
      (history.tell number).inFlight = history.inFlight ∧
        (history.tell number).completed = history.completed ∧
          (history.tell number).abandoned = history.abandoned ∧
            (history.tell number).isClosed = history.isClosed := by
  unfold tell
  split <;> exact ⟨rfl, rfl, rfl, rfl, rfl⟩

theorem completed_prefix_note (history : History) (operation : Operation) (answer : Answer) :
    history.completed <+: (history.note operation answer).completed := by
  have settled (response : Response) :
      history.completed <+: (history.settle response).completed := by
    unfold settle
    split
    · exact List.prefix_rfl
    · exact List.prefix_append _ _
  unfold note
  split
  · exact List.prefix_rfl
  · exact List.prefix_rfl
  · exact settled _
  · exact (history.tell_fields _).2.2.1 ▸ List.prefix_rfl
  · exact settled _
  · exact List.prefix_rfl
  · exact List.prefix_rfl

@[simp]
theorem after_nil : after identity [] = initial := rfl

@[simp]
theorem after_concat (operations : List Operation) (operation : Operation) :
    after identity (operations ++ [operation]) =
      (after identity operations).note operation
        ((Engine.after identity operations).step identity operation).1 := by
  simp [after]

theorem completed_prefix_after (before later : List Operation) :
    (after identity before).completed <+: (after identity (before ++ later)).completed := by
  induction later using List.reverseRecOn with
  | nil => simp
  | append_singleton later operation ih =>
    rw [← List.append_assoc, after_concat]
    exact ih.trans (completed_prefix_note _ _ _)

end History
end ReleaseFeed.Fetch
