import ReleaseFeed.Proofs.Fetch.Subscribers

namespace ReleaseFeed.Fetch

variable {identity : BuildIdentity} {engine : Engine} {subscriber : Subscriber}

/-- Whether an operation takes something from the mailbox of a subscriber or gives it up. -/
def Operation.Uses (operation : Operation) : Subscriber → Prop
  | .receiver slot => operation = .receive slot ∨ operation = .unsubscribe slot
  | .waiter number => operation = .endWait (.pending number) ∨
      ∃ outcome, operation = .endWait (.answered number outcome)

/-- The completions that wait in the mailbox of a subscriber. -/
def Engine.held (subscriber : Subscriber) (engine : Engine) : List Completion :=
  ((engine.mailbox? subscriber).map Mailbox.queue).getD []

/-- Whether an operation neither tells the subscribers of an attempt nor ends the subscriptions. -/
def Operation.isSilent : Operation → Bool
  | .tell _ | .shutdown _ | .cancel => false
  | _ => true

theorem History.told_settle (history : History) (response : Response) :
    (history.settle response).told = history.told := by
  unfold settle
  split <;> rfl

theorem History.note_of_isSilent {operation : Operation} (silent : operation.isSilent = true)
    (history : History) (answer : Answer) :
    (history.note operation answer).told = history.told ∧
      (history.note operation answer).isClosed = history.isClosed := by
  cases operation with
  | start => exact (note_request rfl answer).2
  | retry => exact (note_request rfl answer).2
  | finish response => exact ⟨told_settle history response, isClosed_settle history response⟩
  | tell number => cases silent
  | shutdown response => cases silent
  | cancel => cases silent
  | _ => exact ⟨rfl, rfl⟩

namespace Engine

/-- What is done to an engine does not concern a subscriber. -/
structure Spares (subscriber : Subscriber) (engine other : Engine) : Prop where
  mailbox : other.mailbox? subscriber = engine.mailbox? subscriber
  listed : subscriber ∈ other.subscribers ↔ subscriber ∈ engine.subscribers

theorem Spares.refl (subscriber : Subscriber) (engine : Engine) :
    Spares subscriber engine engine := ⟨rfl, Iff.rfl⟩

theorem Spares.trans {next other : Engine} (first : Spares subscriber engine next)
    (second : Spares subscriber next other) : Spares subscriber engine other :=
  ⟨second.mailbox.trans first.mailbox, second.listed.trans first.listed⟩

theorem spares_of_eq {other : Engine} (subscribers : other.subscribers = engine.subscribers)
    (receivers : other.receivers = engine.receivers) (waiters : other.waiters = engine.waiters) :
    Spares subscriber engine other where
  mailbox := by
    cases subscriber with
    | receiver slot => exact congrArg (·[slot]?) receivers
    | waiter number => exact congrArg (·[number]?) waiters
  listed := iff_of_eq (congrArg (subscriber ∈ ·) subscribers)

theorem mailbox?_close (subscriber : Subscriber) :
    engine.close.mailbox? subscriber = engine.mailbox? subscriber := by
  cases subscriber <;> rfl

theorem spares_subscribe (held : (engine.mailbox? subscriber).isSome) :
    Spares subscriber engine engine.subscribe.2 := by
  cases subscriber with
  | receiver slot =>
    have bound : slot < engine.receivers.length := by simpa [mailbox?] using held
    exact ⟨List.getElem?_append_left bound, by simp [subscribe, Nat.ne_of_lt bound]⟩
  | waiter number => exact ⟨rfl, by simp [subscribe]⟩

theorem spares_unsubscribe {slot : Nat} (different : subscriber ≠ .receiver slot) :
    Spares subscriber engine (engine.unsubscribe slot) := by
  cases subscriber with
  | receiver other =>
    have apart : slot ≠ other := fun same => different (congrArg _ same.symm)
    exact ⟨List.getElem?_modify_ne _ _ apart, Iff.rfl⟩
  | waiter number => exact ⟨rfl, Iff.rfl⟩

theorem subscribers_receive (slot : Nat) :
    (engine.receive slot).2.subscribers = engine.subscribers := by
  unfold receive
  split
  · rfl
  · split
    · rfl
    · split <;> rfl

theorem receivers_receive_other {slot other : Nat} (different : other ≠ slot) :
    (engine.receive other).2.receivers[slot]? = engine.receivers[slot]? := by
  unfold receive
  split
  · rfl
  · split
    · rfl
    · split
      · exact List.getElem?_set_ne different
      · rfl

theorem waiters_receive (slot : Nat) : (engine.receive slot).2.waiters = engine.waiters := by
  unfold receive
  split
  · rfl
  · split
    · rfl
    · split <;> rfl

theorem spares_receive {slot : Nat} (different : subscriber ≠ .receiver slot) :
    Spares subscriber engine (engine.receive slot).2 where
  mailbox := by
    cases subscriber with
    | receiver other =>
      exact receivers_receive_other fun same => different (congrArg _ same.symm)
    | waiter number => exact congrArg (·[number]?) (waiters_receive slot)
  listed := iff_of_eq (congrArg (subscriber ∈ ·) (subscribers_receive slot))

theorem spares_register (held : (engine.mailbox? subscriber).isSome) :
    Spares subscriber engine engine.register := by
  cases subscriber with
  | receiver slot => exact ⟨rfl, by simp [register]⟩
  | waiter number =>
    have bound : number < engine.waiters.length := by simpa [mailbox?] using held
    exact ⟨List.getElem?_append_left bound, by simp [register, Nat.ne_of_lt bound]⟩

theorem spares_leave {number : Nat} (different : subscriber ≠ .waiter number) :
    Spares subscriber engine (engine.leave number) := by
  cases subscriber with
  | receiver slot => exact ⟨rfl, by simp [leave]⟩
  | waiter other =>
    have apart : number ≠ other := fun same => different (congrArg _ same.symm)
    exact ⟨List.getElem?_modify_ne _ _ apart, by simp [leave, apart.symm]⟩

theorem spares_advanceWait (held : (engine.mailbox? subscriber).isSome) (wait : Wait) :
    Spares subscriber engine (engine.advanceWait wait).2 := by
  cases wait with
  | begun => exact spares_register held
  | _ => exact .refl subscriber engine

theorem spares_endWait {wait : Wait} (unused : ¬ (Operation.endWait wait).Uses subscriber) :
    Spares subscriber engine (engine.endWait wait).2 := by
  cases wait with
  | pending number =>
    refine spares_leave ?_
    rintro rfl
    exact unused (.inl rfl)
  | answered number outcome =>
    refine spares_leave ?_
    rintro rfl
    exact unused (.inr ⟨outcome, rfl⟩)
  | _ => exact .refl subscriber engine

theorem spares_waitNow (held : (engine.mailbox? subscriber).isSome) :
    Spares subscriber engine engine.waitNow.2 := by
  rcases engine.waitNow_cases with ⟨_, ended⟩ | ⟨_, _, ended⟩ | ⟨_, _, ended⟩
  · exact ended ▸ .refl subscriber engine
  · exact ended ▸ .refl subscriber engine
  · have different : subscriber ≠ .waiter engine.waiters.length := by
      rintro rfl
      simp [mailbox?] at held
    exact ended ▸ (spares_register held).trans (spares_leave different)

theorem spares_finish (response : Response) :
    Spares subscriber engine (engine.finish identity response) := by
  cases current : engine.inFlight with
  | none =>
    rw [finish_of_idle current]
    exact .refl subscriber engine
  | some number =>
    rw [finish_of_inFlight current]
    exact spares_of_eq rfl rfl rfl

/-- Silent operations concern nobody but those who use their own mailbox. -/
theorem spares_step {operation : Operation} (held : (engine.mailbox? subscriber).isSome)
    (silent : operation.isSilent = true) (unused : ¬ operation.Uses subscriber) :
    Spares subscriber engine (engine.step identity operation).2 := by
  have requested (operation : Operation) (request : operation.isRequest = true) :
      Spares subscriber engine (engine.step identity operation).2 := by
    have same : (engine.step identity operation).2.frame = engine.frame := frame_step request
    obtain ⟨_, _, _, _, subscribers, receivers, waiters⟩ := fields_of_frame same
    exact spares_of_eq subscribers receivers waiters
  cases operation with
  | start => exact requested .start rfl
  | retry => exact requested .retry rfl
  | finish response => exact spares_finish response
  | tell number => cases silent
  | subscribe => exact spares_subscribe held
  | unsubscribe slot => exact spares_unsubscribe fun same => unused (same ▸ .inr rfl)
  | receive slot => exact spares_receive fun same => unused (same ▸ .inl rfl)
  | beginWait => exact .refl subscriber engine
  | advanceWait wait => exact spares_advanceWait held wait
  | endWait wait => exact spares_endWait unused
  | waitNow => exact spares_waitNow held
  | channel name => exact .refl subscriber engine
  | shutdown response => cases silent
  | cancel => cases silent

end Engine

theorem Engine.held_eq {mailbox : Mailbox} (found : engine.mailbox? subscriber = some mailbox) :
    engine.held subscriber = mailbox.queue := by
  simp [held, found]

namespace Engine

variable {queue : List Completion}

theorem mailbox_notify (formed : engine.WellFormed) (listens : subscriber ∈ engine.listeners)
    (mailbox : engine.mailbox? subscriber = some ⟨queue, false⟩) (completion : Completion) :
    (engine.notify completion).mailbox? subscriber = some ⟨queue ++ [completion], false⟩ := by
  refine (mailbox?_notify formed completion subscriber).trans ((if_pos listens).trans ?_)
  exact congrArg (Option.map (Mailbox.push · completion)) mailbox

theorem mem_listeners_of_mailbox (listed : subscriber ∈ engine.subscribers)
    (mailbox : engine.mailbox? subscriber = some ⟨queue, false⟩) :
    subscriber ∈ engine.listeners :=
  mem_listeners.mpr ⟨listed, by simp [isListening, mailbox]⟩

theorem mailbox_foldl_notify (formed : engine.WellFormed) (listed : subscriber ∈ engine.subscribers)
    (mailbox : engine.mailbox? subscriber = some ⟨queue, false⟩) (completions : List Completion) :
    (completions.foldl notify engine).mailbox? subscriber =
      some ⟨queue ++ completions, false⟩ := by
  induction completions generalizing engine queue with
  | nil => simpa using mailbox
  | cons completion rest ih =>
    have listens := mem_listeners_of_mailbox listed mailbox
    have behind := ih (formed.notify completion) listens
      (mailbox_notify formed listens mailbox completion)
    simpa using behind

theorem mailbox_tellAll (formed : engine.WellFormed) (listed : subscriber ∈ engine.subscribers)
    (mailbox : engine.mailbox? subscriber = some ⟨queue, false⟩) :
    engine.tellAll.mailbox? subscriber = some ⟨queue ++ engine.untold, false⟩ :=
  mailbox_foldl_notify (formed.withUntold []) listed mailbox engine.untold

end Engine
end ReleaseFeed.Fetch
