import ReleaseFeed.Proofs.Fetch.Mailboxes

namespace ReleaseFeed.Fetch

variable {identity : BuildIdentity} {engine : Engine} {slot : Nat}

/-- The completion that a receiver handed out in one operation. -/
def taken (slot : Nat) : Operation × Answer → Option Completion
  | (.receive other, .received (.completion completion)) =>
    if other = slot then some completion else none
  | _ => none

def handedOut (slot : Nat) (trace : List (Operation × Answer)) : List Completion :=
  trace.filterMap (taken slot)

def Engine.queued (slot : Nat) (engine : Engine) : List Completion :=
  ((engine.receivers[slot]?).map Mailbox.queue).getD []

namespace Engine

theorem receive_cons {completion : Completion} {rest : List Completion}
    (mailbox : engine.receivers[slot]? = some ⟨completion :: rest, false⟩) :
    engine.receive slot =
      (.completion completion,
        { engine with receivers := engine.receivers.set slot ⟨rest, false⟩ }) := by
  simp [receive, mailbox]

theorem receive_nil (mailbox : engine.receivers[slot]? = some ⟨[], false⟩) :
    engine.receive slot =
      (if .receiver slot ∈ engine.subscribers then .empty else .disconnected, engine) := by
  simp [receive, mailbox]

/-- Behind the end of the subscriptions a receiver hands out what it has and then nothing more. -/
theorem run_receive_unlisted {queue : List Completion}
    (mailbox : engine.receivers[slot]? = some ⟨queue, false⟩)
    (unlisted : .receiver slot ∉ engine.subscribers) (extra : Nat) :
    (engine.run identity (List.replicate (queue.length + extra) (.receive slot))).1 =
      queue.map (fun completion => .received (.completion completion)) ++
        List.replicate extra (.received .disconnected) := by
  induction queue generalizing engine with
  | nil =>
    simp only [List.length_nil, Nat.zero_add, List.map_nil, List.nil_append]
    induction extra with
    | zero => rfl
    | succ extra ih =>
      simp only [List.replicate_succ, run, step, receive_nil mailbox, if_neg unlisted,
        Prod.map_apply, id_eq, ih]
  | cons completion rest ih =>
    have length : (completion :: rest).length + extra = (rest.length + extra) + 1 := by
      simp only [List.length_cons]
      omega
    have bound : slot < engine.receivers.length := (List.getElem?_eq_some_iff.mp mailbox).1
    rw [length, List.replicate_succ]
    have behind : (engine.receive slot).2.receivers[slot]? = some ⟨rest, false⟩ := by
      rw [receive_cons mailbox]
      exact List.getElem?_set_self bound
    have later := ih behind (by rwa [subscribers_receive])
    rw [receive_cons mailbox] at later
    simp only [run, step, receive_cons mailbox, Prod.map_apply, id_eq, List.map_cons,
      List.cons_append, later]

theorem length_receivers_foldl_notify (completions : List Completion) (engine : Engine) :
    (completions.foldl notify engine).receivers.length = engine.receivers.length := by
  induction completions generalizing engine with
  | nil => rfl
  | cons completion rest ih => exact (ih (engine.notify completion)).trans (length_deliver _ _ _)

theorem length_receivers_tellAll (engine : Engine) :
    engine.tellAll.receivers.length = engine.receivers.length :=
  length_receivers_foldl_notify engine.untold _

theorem length_receivers_finish (response : Response) :
    (engine.finish identity response).receivers.length = engine.receivers.length := by
  cases current : engine.inFlight with
  | none => rw [finish_of_idle current]
  | some number =>
    rw [finish_of_inFlight current]
    rfl

/-- Nothing but a subscription opens a receiver, and nothing closes one up. -/
theorem length_receivers_step (operation : Operation) :
    engine.receivers.length ≤ (engine.step identity operation).2.receivers.length := by
  have requested (operation : Operation) (request : operation.isRequest = true) :
      (engine.step identity operation).2.receivers = engine.receivers :=
    (fields_of_frame (frame_step request)).2.2.2.2.2.1
  cases operation with
  | start => exact Nat.le_of_eq (congrArg List.length (requested .start rfl)).symm
  | retry => exact Nat.le_of_eq (congrArg List.length (requested .retry rfl)).symm
  | finish response => exact Nat.le_of_eq (length_receivers_finish response).symm
  | tell number =>
    simp only [step, tell]
    split
    · exact Nat.le_refl _
    · exact Nat.le_of_eq (length_deliver _ _ _).symm
  | subscribe => simp [step, subscribe]
  | unsubscribe slot => simp [step, unsubscribe]
  | receive slot =>
    simp only [step, receive]
    split
    · exact Nat.le_refl _
    · split
      · exact Nat.le_refl _
      · split <;> simp
  | beginWait => exact Nat.le_refl _
  | advanceWait wait => cases wait <;> exact Nat.le_refl _
  | endWait wait => cases wait <;> exact Nat.le_refl _
  | waitNow =>
    rcases engine.waitNow_cases with ⟨_, ended⟩ | ⟨_, _, ended⟩ | ⟨_, _, ended⟩ <;>
      exact Nat.le_of_eq (congrArg (·.2.receivers.length) ended).symm
  | channel name => exact Nat.le_refl _
  | shutdown response =>
    simp only [step, shutdown]
    split
    · have told := length_receivers_tellAll (engine.finish identity response)
      exact Nat.le_of_eq (told.trans (length_receivers_finish response)).symm
    · exact Nat.le_refl _
  | cancel =>
    simp only [step, cancel]
    split
    · have told := length_receivers_tellAll { engine with inFlight := none }
      exact Nat.le_of_eq told.symm
    · exact Nat.le_refl _

end Engine

theorem handedOut_concat (trace : List (Operation × Answer)) (seen : Operation × Answer) :
    handedOut slot (trace ++ [seen]) = handedOut slot trace ++ (taken slot seen).toList := by
  cases first : taken slot seen <;> simp [handedOut, first]

theorem taken_other {operation : Operation} (other : operation ≠ .receive slot) (answer : Answer) :
    taken slot (operation, answer) = none := by
  unfold taken
  split
  · rename_i place completion same
    cases same
    exact if_neg fun same => other (congrArg _ same)
  · rfl

theorem handedOut_of_unopened (operations : List Operation)
    (unopened : (Engine.after identity operations).receivers.length ≤ slot) :
    handedOut slot (Engine.trace identity operations) = [] := by
  induction operations using List.reverseRecOn with
  | nil => rfl
  | append_singleton operations operation ih =>
    rw [Engine.after_concat] at unopened
    have before : (Engine.after identity operations).receivers.length ≤ slot :=
      Nat.le_trans (Engine.length_receivers_step operation) unopened
    rw [Engine.trace_concat, handedOut_concat, ih before, List.nil_append]
    by_cases own : operation = .receive slot
    · subst own
      simp [Engine.step, Engine.receive, List.getElem?_eq_none before, taken]
    · rw [taken_other own, Option.toList_none]

theorem Engine.held_receiver : engine.held (.receiver slot) = engine.queued slot := rfl

end ReleaseFeed.Fetch
