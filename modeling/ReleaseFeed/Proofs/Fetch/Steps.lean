import ReleaseFeed.Proofs.Fetch.Conclusion

namespace ReleaseFeed.Fetch

variable {identity : BuildIdentity} {engine : Engine}

theorem Engine.finish_of_idle {response : Response} (idle : engine.inFlight = none) :
    engine.finish identity response = engine := by
  simp only [Engine.finish, idle]

/-- One attempt completes: its channels replace the published ones if it has any. -/
theorem Engine.finish_of_inFlight {response : Response} {number : Nat}
    (flying : engine.inFlight = some number) :
    engine.finish identity response =
      (engine.publish ((retrieve identity response).toOption.getD engine.channels)).complete
        ⟨number, outcomeOfEnd (retrieve identity response)⟩ := by
  simp only [Engine.finish, flying]
  cases retrieve identity response with
  | ok channels => rfl
  | error outcome => rfl

/-- The part of an engine that attempts change. -/
def Engine.core (engine : Engine) : Engine :=
  { engine with subscribers := [], receivers := [], waiters := [] }

/-- The part of an engine that requests leave alone. -/
def Engine.frame (engine : Engine) : Engine :=
  { engine with isStarted := false, isDone := false, attempts := 0, calls := 0, inFlight := none }

def Operation.isRequest : Operation → Bool
  | .start | .retry => true
  | _ => false

/-- Whether an operation has nothing to do with attempts. -/
def Operation.isQuiet : Operation → Bool
  | .start | .retry | .finish _ | .tell _ | .shutdown _ | .cancel => false
  | _ => true

namespace Engine

/-- A request for the first attempt is accepted once, or leaves everything as it is. -/
theorem start_cases (engine : Engine) :
    (engine.isOpen = true ∧ engine.isStarted = false ∧
        engine.start = (.accepted, { engine with isStarted := true }.launch)) ∨
      ((engine.isOpen = false ∨ engine.isStarted = true) ∧
        ∃ admission, admission ≠ .accepted ∧ engine.start = (admission, engine)) := by
  cases granting : engine.isOpen with
  | false => exact .inr ⟨.inl rfl, .closed, by simp, by simp [start, granting]⟩
  | true =>
    cases started : engine.isStarted with
    | false => exact .inl ⟨rfl, rfl, by simp [start, granting, started]⟩
    | true => exact .inr ⟨.inr rfl, .refused, by simp, by simp [start, granting, started]⟩

/-- A request for another attempt is accepted behind a completed one, or leaves everything as it
is. -/
theorem retry_cases (engine : Engine) :
    (engine.isOpen = true ∧ engine.isStarted = true ∧ engine.isDone = true ∧
        engine.retry = (.accepted, { engine with isDone := false }.launch)) ∨
      ((engine.isOpen = false ∨ engine.isStarted = false ∨ engine.isDone = false) ∧
        ∃ admission, admission ≠ .accepted ∧ engine.retry = (admission, engine)) := by
  cases granting : engine.isOpen with
  | false => exact .inr ⟨.inl rfl, .closed, by simp, by simp [retry, granting]⟩
  | true =>
    cases started : engine.isStarted with
    | false =>
      exact .inr ⟨.inr (.inl rfl), .refused, by simp, by simp [retry, granting, started]⟩
    | true =>
      cases done : engine.isDone with
      | false =>
        exact .inr ⟨.inr (.inr rfl), .refused, by simp, by simp [retry, granting, started, done]⟩
      | true => exact .inl ⟨rfl, rfl, rfl, by simp [retry, granting, started, done]⟩

/-- A wait is over at once in an engine that was never started or has completed an attempt; else it
has begun. -/
theorem beginWait_cases (engine : Engine) :
    (engine.isStarted = false ∧ engine.beginWait = .ended none) ∨
      (engine.isStarted = true ∧ engine.isDone = true ∧
        engine.beginWait = .ended (some engine.outcome)) ∨
      (engine.isStarted = true ∧ engine.isDone = false ∧ engine.beginWait = .begun) := by
  cases started : engine.isStarted with
  | false => exact .inl ⟨rfl, by simp [beginWait, started]⟩
  | true =>
    cases done : engine.isDone with
    | true => exact .inr (.inl ⟨rfl, rfl, by simp [beginWait, started, done]⟩)
    | false => exact .inr (.inr ⟨rfl, rfl, by simp [beginWait, started, done]⟩)

/-- A wait without patience is over at once, or is listed and leaves again. -/
theorem waitNow_cases (engine : Engine) :
    (engine.isStarted = false ∧ engine.waitNow = (none, engine)) ∨
      (engine.isStarted = true ∧ engine.isDone = true ∧
        engine.waitNow = (some engine.outcome, engine)) ∨
      (engine.isStarted = true ∧ engine.isDone = false ∧
        engine.waitNow = (none, engine.register.leave engine.waiters.length)) := by
  rcases engine.beginWait_cases with
    ⟨fresh, ended⟩ | ⟨started, done, ended⟩ | ⟨started, running, begun⟩
  · exact .inl ⟨fresh, by simp [waitNow, ended, advanceWait, endWait]⟩
  · exact .inr (.inl ⟨started, done, by simp [waitNow, ended, advanceWait, endWait]⟩)
  · have still : engine.register.isDone = false := running
    have silent : engine.register.toldFirst? engine.waiters.length = none := by
      simp [toldFirst?, register, Mailbox.empty]
    refine .inr (.inr ⟨started, running, ?_⟩)
    simp [waitNow, begun, advanceWait, endWait, still, silent]

theorem fields_of_frame {other : Engine} (same : other.frame = engine.frame) :
    other.isOpen = engine.isOpen ∧ other.outcome = engine.outcome ∧
      other.untold = engine.untold ∧ other.channels = engine.channels ∧
        other.subscribers = engine.subscribers ∧ other.receivers = engine.receivers ∧
          other.waiters = engine.waiters := by
  simpa [frame] using same

/-- Requests leave all but attempts alone. -/
theorem frame_step {operation : Operation} (request : operation.isRequest = true) :
    (engine.step identity operation).2.frame = engine.frame := by
  cases operation with
  | start =>
    rcases engine.start_cases with ⟨_, _, accepted⟩ | ⟨_, admission, _, same⟩
    · simp only [step, accepted]
      rfl
    · simp only [step, same]
      rfl
  | retry =>
    rcases engine.retry_cases with ⟨_, _, _, accepted⟩ | ⟨_, admission, _, same⟩
    · simp only [step, accepted]
      rfl
    · simp only [step, same]
      rfl
  | _ => cases request

theorem fields_of_core {other : Engine} (same : other.core = engine.core) :
    other.isOpen = engine.isOpen ∧ other.isStarted = engine.isStarted ∧
      other.isDone = engine.isDone ∧ other.outcome = engine.outcome ∧
        other.attempts = engine.attempts ∧ other.calls = engine.calls ∧
          other.inFlight = engine.inFlight ∧ other.untold = engine.untold ∧
            other.channels = engine.channels := by
  simpa [core] using same

theorem core_foldl_notify (completions : List Completion) (engine : Engine) :
    (completions.foldl notify engine).core = engine.core := by
  induction completions generalizing engine with
  | nil => rfl
  | cons completion rest ih => exact ih (engine.notify completion)

theorem core_tellAll (engine : Engine) :
    engine.tellAll.core = { engine with untold := [] }.core :=
  core_foldl_notify engine.untold _

theorem core_receive (slot : Nat) : (engine.receive slot).2.core = engine.core := by
  unfold receive
  split
  · rfl
  · split
    · rfl
    · split <;> rfl

theorem core_advanceWait (wait : Wait) : (engine.advanceWait wait).2.core = engine.core := by
  cases wait <;> rfl

theorem core_endWait (wait : Wait) : (engine.endWait wait).2.core = engine.core := by
  cases wait <;> rfl

theorem core_waitNow : engine.waitNow.2.core = engine.core :=
  (core_endWait _).trans ((core_advanceWait _).trans (core_advanceWait _))

/-- Subscriptions, waits and lookups leave attempts alone. -/
theorem core_step {operation : Operation} (quiet : operation.isQuiet = true) :
    (engine.step identity operation).2.core = engine.core := by
  cases operation with
  | start => cases quiet
  | retry => cases quiet
  | finish response => cases quiet
  | tell number => cases quiet
  | shutdown response => cases quiet
  | cancel => cases quiet
  | subscribe => rfl
  | unsubscribe slot => rfl
  | receive slot => exact core_receive slot
  | beginWait => rfl
  | advanceWait wait => exact core_advanceWait wait
  | endWait wait => exact core_endWait wait
  | waitNow => exact core_waitNow
  | channel name => rfl

end Engine

namespace History

variable {history : History} {operation : Operation}

/-- A request that is not accepted is nothing to remember. -/
theorem note_of_refused {admission : Admission} (request : operation.isRequest = true)
    (refused : admission ≠ .accepted) :
    history.note operation (.admission admission) = history := by
  cases operation with
  | start =>
    cases admission with
    | accepted => exact absurd rfl refused
    | refused => rfl
    | closed => rfl
  | retry =>
    cases admission with
    | accepted => exact absurd rfl refused
    | refused => rfl
    | closed => rfl
  | _ => cases request

/-- No answer to a request completes an attempt, tells of one or closes anything. -/
theorem note_request (request : operation.isRequest = true) (answer : Answer) :
    (history.note operation answer).completed = history.completed ∧
      (history.note operation answer).told = history.told ∧
        (history.note operation answer).isClosed = history.isClosed := by
  unfold note
  split
  · exact ⟨rfl, rfl, rfl⟩
  · exact ⟨rfl, rfl, rfl⟩
  · cases request
  · cases request
  · cases request
  · cases request
  · exact ⟨rfl, rfl, rfl⟩

end History
end ReleaseFeed.Fetch
