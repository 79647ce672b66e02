import ReleaseFeed.Proofs.Fetch.Mailboxes

namespace ReleaseFeed.Fetch

variable {identity : BuildIdentity} {engine : Engine}

/-- Whether an operation is a wait or a part of one. -/
def Operation.isWait : Operation → Bool
  | .beginWait | .advanceWait _ | .endWait _ | .waitNow => true
  | _ => false

def withoutWaits (operations : List Operation) : List Operation :=
  operations.filter fun operation => !operation.isWait

def receiversIn (subscribers : List Subscriber) : List Subscriber :=
  subscribers.filter fun subscriber => subscriber.number?.isNone

namespace Engine

/-- An engine that nobody waits for. -/
def unwaited (engine : Engine) : Engine :=
  { engine with subscribers := receiversIn engine.subscribers, waiters := [] }

theorem unwaited_register : engine.register.unwaited = engine.unwaited := by
  simp [unwaited, register, receiversIn, Subscriber.number?]

theorem unwaited_leave (number : Nat) : (engine.leave number).unwaited = engine.unwaited := by
  have same : receiversIn (engine.subscribers.filter (· ≠ .waiter number)) =
      receiversIn engine.subscribers := by
    rw [receiversIn, List.filter_filter]
    refine List.filter_congr fun subscriber _ => ?_
    cases subscriber <;> simp [Subscriber.number?]
  simp only [leave, unwaited, same]

theorem unwaited_advanceWait (wait : Wait) :
    (engine.advanceWait wait).2.unwaited = engine.unwaited := by
  cases wait with
  | begun => exact unwaited_register
  | _ => rfl

theorem unwaited_endWait (wait : Wait) : (engine.endWait wait).2.unwaited = engine.unwaited := by
  cases wait with
  | pending number => exact unwaited_leave number
  | answered number outcome => exact unwaited_leave number
  | _ => rfl

/-- A wait is forgotten as if it had never been. -/
theorem unwaited_step_of_isWait {operation : Operation} (part : operation.isWait = true) :
    (engine.step identity operation).2.unwaited = engine.unwaited := by
  cases operation with
  | beginWait => rfl
  | advanceWait wait => exact unwaited_advanceWait wait
  | endWait wait => exact unwaited_endWait wait
  | waitNow =>
    exact (unwaited_endWait _).trans ((unwaited_advanceWait _).trans (unwaited_advanceWait _))
  | _ => cases part

theorem listeners_unwaited : engine.unwaited.listeners = receiversIn engine.listeners := by
  have listed : engine.unwaited.subscribers = receiversIn engine.subscribers := rfl
  rw [listeners, listeners, listed, receiversIn, receiversIn, List.filter_filter,
    List.filter_filter]
  refine List.filter_congr fun subscriber _ => ?_
  cases subscriber with
  | receiver slot => exact Bool.and_comm _ _
  | waiter number => simp [Subscriber.number?]

theorem unwaited_notify (engine : Engine) (completion : Completion) :
    (engine.notify completion).unwaited = engine.unwaited.notify completion := by
  have slots (listeners : List Subscriber) :
      (receiversIn listeners).filterMap (·.slot?) = listeners.filterMap (·.slot?) := by
    rw [receiversIn, List.filterMap_filter]
    refine List.filterMap_congr fun subscriber _ => ?_
    cases subscriber <;> rfl
  have numbers (listeners : List Subscriber) :
      (receiversIn listeners).filterMap (·.number?) = [] := by
    rw [receiversIn, List.filterMap_filter, List.filterMap_eq_nil_iff]
    intro subscriber _
    cases subscriber <;> rfl
  simp only [notify, listeners_unwaited, slots, numbers]
  rfl

theorem unwaited_tell (number : Nat) :
    (engine.tell number).unwaited = engine.unwaited.tell number := by
  have untold : engine.unwaited.untold = engine.untold := rfl
  unfold tell
  rw [untold]
  split
  · rfl
  · exact unwaited_notify { engine with untold := engine.untold.filter (·.attempt ≠ number) } _

theorem unwaited_tellAll (engine : Engine) : engine.tellAll.unwaited = engine.unwaited.tellAll := by
  have told (completions : List Completion) (engine : Engine) :
      (completions.foldl notify engine).unwaited = completions.foldl notify engine.unwaited := by
    induction completions generalizing engine with
    | nil => rfl
    | cons completion rest ih =>
      rw [List.foldl_cons, List.foldl_cons, ih, unwaited_notify]
  exact told engine.untold { engine with untold := [] }

theorem unwaited_finish (response : Response) :
    (engine.finish identity response).unwaited = engine.unwaited.finish identity response := by
  cases flying : engine.inFlight with
  | none =>
    have still : engine.unwaited.inFlight = none := flying
    rw [finish_of_idle flying, finish_of_idle still]
  | some number =>
    have still : engine.unwaited.inFlight = some number := flying
    rw [finish_of_inFlight flying, finish_of_inFlight still]
    rfl

/-- Every other operation is answered and carried out as if nobody waited. -/
theorem step_unwaited {operation : Operation} (other : operation.isWait = false) :
    engine.unwaited.step identity operation =
      ((engine.step identity operation).1, (engine.step identity operation).2.unwaited) := by
  cases operation with
  | start =>
    obtain ⟨isOpen, isStarted⟩ := engine
    cases isOpen <;> cases isStarted <;> rfl
  | retry =>
    obtain ⟨isOpen, isStarted, isDone⟩ := engine
    cases isOpen <;> cases isStarted <;> cases isDone <;> rfl
  | finish response => exact congrArg (Prod.mk Answer.none) (unwaited_finish response).symm
  | tell number => exact congrArg (Prod.mk Answer.none) (unwaited_tell number).symm
  | subscribe => simp [step, subscribe, unwaited, receiversIn, Subscriber.number?]
  | unsubscribe slot => rfl
  | receive slot =>
    have listed : Subscriber.receiver slot ∈ receiversIn engine.subscribers ↔
        .receiver slot ∈ engine.subscribers := by
      simp [receiversIn, Subscriber.number?]
    cases found : engine.receivers[slot]? with
    | none => simp [step, receive, unwaited, found]
    | some mailbox =>
      obtain ⟨queue, isDropped⟩ := mailbox
      cases isDropped <;> cases queue <;> simp [step, receive, unwaited, found, listed]
  | channel name => rfl
  | shutdown response =>
    have opening : engine.unwaited.isOpen = engine.isOpen := rfl
    have told : (engine.finish identity response).tellAll.unwaited =
        (engine.unwaited.finish identity response).tellAll := by
      rw [unwaited_tellAll, unwaited_finish]
    simp only [step, shutdown, opening, ← told]
    split <;> rfl
  | cancel =>
    have opening : engine.unwaited.isOpen = engine.isOpen := rfl
    have told := unwaited_tellAll { engine with inFlight := none }
    simp only [step, cancel, opening]
    split
    · exact congrArg (fun engine : Engine => (Answer.none, engine.close)) told.symm
    · rfl
  | _ => cases other

/-- Without its waits a run gives the same answers to everything else and ends in the same state. -/
theorem run_unwaited (engine : Engine) (operations : List Operation) :
    (withoutWaits operations).zip (engine.unwaited.run identity (withoutWaits operations)).1 =
        (operations.zip (engine.run identity operations).1).filter (fun seen => !seen.1.isWait) ∧
      (engine.unwaited.run identity (withoutWaits operations)).2 =
        (engine.run identity operations).2.unwaited := by
  induction operations generalizing engine with
  | nil => exact ⟨rfl, rfl⟩
  | cons operation rest ih =>
    cases part : operation.isWait with
    | true =>
      have dropped : withoutWaits (operation :: rest) = withoutWaits rest := by
        simp [withoutWaits, part]
      have later := ih (engine.step identity operation).2
      rw [unwaited_step_of_isWait part] at later
      simpa [dropped, run, part] using later
    | false =>
      have kept : withoutWaits (operation :: rest) = operation :: withoutWaits rest := by
        simp [withoutWaits, part]
      have later := ih (engine.step identity operation).2
      simpa [kept, run, step_unwaited part, part] using later

theorem trace_withoutWaits (operations : List Operation) :
    trace identity (withoutWaits operations) =
      (trace identity operations).filter fun seen => !seen.1.isWait :=
  (run_unwaited initial operations).1

theorem after_withoutWaits (operations : List Operation) :
    after identity (withoutWaits operations) = (after identity operations).unwaited :=
  (run_unwaited initial operations).2

end Engine

/-- Waits leave nothing behind in what was seen of attempts. -/
theorem History.after_withoutWaits (operations : List Operation) :
    History.after identity (withoutWaits operations) = History.after identity operations := by
  have skipped (history : History) (seen : Operation × Answer) :
      (if (!seen.1.isWait) = true then history.note seen.1 seen.2 else history) =
        history.note seen.1 seen.2 := by
    obtain ⟨operation, answer⟩ := seen
    cases operation <;> rfl
  rw [History.after, Engine.trace_withoutWaits, List.foldl_filter]
  simp only [skipped]
  rfl

section Waiting

/-- The waits that are registered behind an operation and its answer. -/
def noteWait (waiting : List Nat) : Operation × Answer → List Nat
  | (.advanceWait .begun, .wait (.listed number)) => waiting ++ [number]
  | (.endWait (.pending number), _) => waiting.filter (· ≠ number)
  | (.endWait (.answered number _), _) => waiting.filter (· ≠ number)
  | _ => waiting

def stillWaiting (trace : List (Operation × Answer)) : List Nat := trace.foldl noteWait []

variable {number : Nat}

/-- Nothing but a wait lists a wait among the subscribers. -/
theorem Engine.mem_of_mem_step {operation : Operation} (other : operation.isWait = false)
    (listed : .waiter number ∈ (engine.step identity operation).2.subscribers) :
    .waiter number ∈ engine.subscribers := by
  have requested (operation : Operation) (request : operation.isRequest = true) :
      (engine.step identity operation).2.subscribers = engine.subscribers :=
    (fields_of_frame (frame_step request)).2.2.2.2.1
  cases operation with
  | start => exact requested .start rfl ▸ listed
  | retry => exact requested .retry rfl ▸ listed
  | finish response => exact (spares_finish response).listed.mp listed
  | tell number =>
    simp only [step, tell] at listed
    split at listed
    · exact listed
    · exact List.mem_of_mem_filter listed
  | subscribe => simpa [step, subscribe] using listed
  | unsubscribe slot => exact listed
  | receive slot => exact subscribers_receive slot ▸ listed
  | channel name => exact listed
  | shutdown response =>
    simp only [step, shutdown] at listed
    split at listed
    · cases listed
    · exact listed
  | cancel =>
    simp only [step, cancel] at listed
    split at listed
    · cases listed
    · exact listed
  | _ => cases other

theorem Engine.mem_leave {other : Nat}
    (listed : .waiter number ∈ (engine.leave other).subscribers) :
    .waiter number ∈ engine.subscribers ∧ number ≠ other := by
  simpa [leave] using listed

theorem mem_noteWait {waiting : List Nat} {operation : Operation}
    (registered : .waiter number ∈ engine.subscribers → number ∈ waiting)
    (listed : .waiter number ∈ (engine.step identity operation).2.subscribers) :
    number ∈ noteWait waiting (operation, (engine.step identity operation).1) := by
  have left {other : Nat} (listed : .waiter number ∈ (engine.leave other).subscribers) :
      number ∈ waiting.filter (· ≠ other) := by
    obtain ⟨before, different⟩ := Engine.mem_leave listed
    exact List.mem_filter.mpr ⟨registered before, by simpa using different⟩
  cases operation with
  | beginWait => exact registered listed
  | advanceWait wait =>
    cases wait with
    | begun =>
      simp only [Engine.step, Engine.advanceWait, Prod.map_apply, id_eq, noteWait, Engine.register,
        List.mem_append, List.mem_singleton, Subscriber.waiter.injEq] at listed ⊢
      exact listed.imp_left registered
    | _ => exact registered listed
  | endWait wait =>
    cases wait with
    | pending other => exact left listed
    | answered other outcome => exact left listed
    | _ => exact registered listed
  | waitNow =>
    rcases engine.waitNow_cases with ⟨_, ended⟩ | ⟨_, _, ended⟩ | ⟨_, _, ended⟩
    · simp only [Engine.step, ended] at listed
      exact registered listed
    · simp only [Engine.step, ended] at listed
      exact registered listed
    · simp only [Engine.step, ended] at listed
      obtain ⟨before, different⟩ := Engine.mem_leave listed
      have earlier : .waiter number ∈ engine.subscribers := by
        simpa [Engine.register, different] using before
      exact registered earlier
  | _ => exact registered (Engine.mem_of_mem_step rfl listed)

/-- Every wait among the subscribers is one that has not ended. -/
theorem mem_stillWaiting (operations : List Operation)
    (listed : .waiter number ∈ (Engine.after identity operations).subscribers) :
    number ∈ stillWaiting (Engine.trace identity operations) := by
  induction operations using List.reverseRecOn with
  | nil => cases listed
  | append_singleton operations operation ih =>
    rw [Engine.after_concat] at listed
    rw [Engine.trace_concat, stillWaiting, List.foldl_append]
    exact mem_noteWait ih listed

/-- When all waits have ended, nobody is on the list but the receivers. -/
theorem receiversIn_of_ended {operations : List Operation}
    (ended : stillWaiting (Engine.trace identity operations) = []) :
    receiversIn (Engine.after identity operations).subscribers =
      (Engine.after identity operations).subscribers := by
  refine List.filter_eq_self.mpr fun subscriber listed => ?_
  cases subscriber with
  | receiver slot => rfl
  | waiter number => exact absurd (ended ▸ mem_stillWaiting operations listed) List.not_mem_nil

end Waiting

end ReleaseFeed.Fetch
