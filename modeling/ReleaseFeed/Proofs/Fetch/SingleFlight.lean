import ReleaseFeed.Proofs.Fetch.Agreement
/-!
Requests and attempts. Main statement: in every run at most one attempt is in flight, the answers to
requests follow from the requests and completions before them, a request that is not accepted
changes nothing, and attempts, calls of the transport and accepted requests are equally many.
-/
namespace ReleaseFeed.Fetch

variable {identity : BuildIdentity} {engine : Engine}

def isStart : Operation × Answer → Bool
  | (.start, .admission .accepted) => true
  | _ => false

/-- Whether a request for an attempt was accepted, the first one or another. -/
def isLaunch : Operation × Answer → Bool
  | (.start, .admission .accepted) => true
  | (.retry, .admission .accepted) => true
  | _ => false

/-- How requests, attempts and completions hang together during operations. -/
structure SingleFlight (identity : BuildIdentity) (operations : List Operation) : Prop where
  atMostOne : (History.after identity operations).inFlight.length ≤ 1
  inFlight : (Engine.after identity operations).inFlight.toList =
    (History.after identity operations).inFlight
  /-- Before the engine closes, its two flags tell whether an attempt is in flight. -/
  flags : (History.after identity operations).isClosed = false →
    ((History.after identity operations).inFlight ≠ [] ↔
      (Engine.after identity operations).isStarted = true ∧
        (Engine.after identity operations).isDone = false)
  start : ((Engine.after identity operations).step identity .start).1 = .admission .accepted ↔
    (History.after identity operations).isClosed = false ∧
      (Engine.trace identity operations).countP isStart = 0
  startOnce : (Engine.trace identity operations).countP isStart ≤ 1
  retry : ((Engine.after identity operations).step identity .retry).1 = .admission .accepted ↔
    (History.after identity operations).isClosed = false ∧
      0 < (Engine.trace identity operations).countP isStart ∧
        (History.after identity operations).inFlight = []
  /-- A request that is not accepted leaves the whole state as it was. -/
  refusal : ∀ request ∈ [Operation.start, .retry],
    ((Engine.after identity operations).step identity request).1 ≠ .admission .accepted →
      ((Engine.after identity operations).step identity request).2 =
        Engine.after identity operations
  /-- Attempts are numbered one after another; at most the last one has not completed. -/
  numbers : (History.after identity operations).completed.map Attempt.number ++
      (History.after identity operations).abandoned ++
        (History.after identity operations).inFlight =
    List.range' 1 (Engine.after identity operations).attempts
  calls : (Engine.after identity operations).calls =
    (Engine.trace identity operations).countP isLaunch
  launches : (Engine.trace identity operations).countP isLaunch =
    (History.after identity operations).completed.length +
      ((History.after identity operations).inFlight.length +
        (History.after identity operations).abandoned.length)

/-- Every accepted request launches one attempt, and nothing else does. -/
theorem launched_note (history : History) (operation : Operation) (answer : Answer) :
    (history.note operation answer).launched =
      history.launched + if isLaunch (operation, answer) then 1 else 0 := by
  have settled (response : Response) : (history.settle response).launched = history.launched := by
    unfold History.settle
    split <;> rfl
  cases operation with
  | start =>
    cases answer with
    | admission admission => cases admission <;> rfl
    | _ => rfl
  | retry =>
    cases answer with
    | admission admission => cases admission <;> rfl
    | _ => rfl
  | finish response => exact settled response
  | tell number => exact (history.tell_fields number).1
  | shutdown response => exact settled response
  | _ => rfl

theorem launched_eq_countP (operations : List Operation) :
    (History.after identity operations).launched =
      (Engine.trace identity operations).countP isLaunch := by
  induction operations using List.reverseRecOn with
  | nil => rfl
  | append_singleton operations operation ih =>
    rw [History.after_concat, launched_note, Engine.trace_concat, List.countP_append, ih]
    simp [List.countP_singleton]

/-- The first request is accepted in an engine that grants attempts and was not started. -/
theorem start_accepted_iff :
    (engine.step identity .start).1 = .admission .accepted ↔
      engine.isOpen = true ∧ engine.isStarted = false := by
  rcases engine.start_cases with ⟨granting, fresh, accepted⟩ | ⟨hindered, admission, refused, same⟩
  · simp [Engine.step, accepted, granting, fresh]
  · simp only [Engine.step, same, Prod.map_apply, Answer.admission.injEq, refused, false_iff]
    rintro ⟨granting, fresh⟩
    simp [granting, fresh] at hindered

/-- Another request is accepted in an engine that grants attempts and has completed one. -/
theorem retry_accepted_iff :
    (engine.step identity .retry).1 = .admission .accepted ↔
      engine.isOpen = true ∧ engine.isStarted = true ∧ engine.isDone = true := by
  rcases engine.retry_cases with
    ⟨granting, started, done, accepted⟩ | ⟨hindered, admission, refused, same⟩
  · simp [Engine.step, accepted, granting, started, done]
  · simp only [Engine.step, same, Prod.map_apply, Answer.admission.injEq, refused, false_iff]
    rintro ⟨granting, started, done⟩
    simp [granting, started, done] at hindered

theorem isStarted_finish (response : Response) :
    (engine.finish identity response).isStarted = engine.isStarted := by
  cases current : engine.inFlight with
  | none => rw [Engine.finish_of_idle current]
  | some number => rw [Engine.finish_of_inFlight current]; rfl

theorem isStarted_tellAll (engine : Engine) : engine.tellAll.isStarted = engine.isStarted :=
  (Engine.fields_of_core (Engine.core_tellAll engine)).2.1

/-- The engine counts as started from the first accepted request on. -/
theorem isStarted_step (operation : Operation) :
    (engine.step identity operation).2.isStarted =
      (engine.isStarted || isStart (operation, (engine.step identity operation).1)) := by
  cases operation with
  | start =>
    rcases engine.start_cases with ⟨_, _, accepted⟩ | ⟨_, admission, refused, same⟩
    · simp [Engine.step, accepted, Engine.launch, Engine.beginJob, isStart]
    · cases admission with
      | accepted => exact absurd rfl refused
      | refused => simp [Engine.step, same, isStart]
      | closed => simp [Engine.step, same, isStart]
  | retry =>
    rcases engine.retry_cases with ⟨_, started, _, accepted⟩ | ⟨_, admission, _, same⟩
    · simp [Engine.step, accepted, Engine.launch, Engine.beginJob, started]
    · simp [Engine.step, same, isStart]
  | finish response => simp [Engine.step, isStarted_finish, isStart]
  | tell number =>
    simp only [Engine.step, Engine.tell, isStart, Bool.or_false]
    split <;> rfl
  | shutdown response =>
    simp only [Engine.step, Engine.shutdown, isStart, Bool.or_false]
    split
    · exact (isStarted_tellAll _).trans (isStarted_finish response)
    · rfl
  | cancel =>
    simp only [Engine.step, Engine.cancel, isStart, Bool.or_false]
    split
    · exact isStarted_tellAll _
    · rfl
  | _ => exact (Engine.fields_of_core (Engine.core_step rfl)).2.1.trans (Bool.or_false _).symm

theorem not_started_of_isStart {operation : Operation}
    (first : isStart (operation, (engine.step identity operation).1) = true) :
    engine.isStarted = false := by
  unfold isStart at first
  split at first
  · rename_i same
    obtain ⟨rfl, accepted⟩ := Prod.mk.inj same
    exact (start_accepted_iff.mp accepted).2
  · cases first

/-- The first request was accepted once if the engine counts as started, and else never. -/
theorem countP_isStart (operations : List Operation) :
    (Engine.trace identity operations).countP isStart =
      if (Engine.after identity operations).isStarted then 1 else 0 := by
  induction operations using List.reverseRecOn with
  | nil => rfl
  | append_singleton operations operation ih =>
    rw [Engine.trace_concat, List.countP_append, ih, List.countP_singleton, Engine.after_concat,
      isStarted_step]
    cases first : isStart (operation,
        ((Engine.after identity operations).step identity operation).1) with
    | false => simp
    | true => simp [not_started_of_isStart first]

theorem step_request_of_refused {request : Operation} (member : request ∈ [Operation.start, .retry])
    (refused : (engine.step identity request).1 ≠ .admission .accepted) :
    (engine.step identity request).2 = engine := by
  simp only [List.mem_cons, List.not_mem_nil, or_false] at member
  rcases member with rfl | rfl
  · rcases engine.start_cases with ⟨_, _, accepted⟩ | ⟨_, admission, _, same⟩
    · exact absurd (by simp [Engine.step, accepted]) refused
    · simp [Engine.step, same]
  · rcases engine.retry_cases with ⟨_, _, _, accepted⟩ | ⟨_, admission, _, same⟩
    · exact absurd (by simp [Engine.step, accepted]) refused
    · simp [Engine.step, same]

/-- As long as attempts are granted, the engine is done exactly when it rests behind an attempt. -/
theorem isDone_iff {history : History} (agrees : Agrees identity engine history)
    (granting : history.isClosed = false) :
    engine.isDone = true ↔ engine.isStarted = true ∧ history.inFlight = [] := by
  simp [agrees.isDone, agrees.noneAbandoned granting]

end ReleaseFeed.Fetch
