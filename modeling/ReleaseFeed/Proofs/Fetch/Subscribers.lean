import Mathlib.Data.List.Nodup
import ReleaseFeed.Proofs.Fetch.Agreement

namespace ReleaseFeed.Fetch

variable {identity : BuildIdentity} {engine : Engine}

namespace Engine

/-- The subscribers are distinct, and each has or had a mailbox. -/
structure WellFormed (engine : Engine) : Prop where
  nodup : engine.subscribers.Nodup
  receivers : ∀ slot, .receiver slot ∈ engine.subscribers → slot < engine.receivers.length
  waiters : ∀ number, .waiter number ∈ engine.subscribers → number < engine.waiters.length

@[simp]
theorem length_deliver (completion : Completion) (places : List Nat) (mailboxes : List Mailbox) :
    (deliver completion places mailboxes).length = mailboxes.length := by
  induction places generalizing mailboxes with
  | nil => rfl
  | cons place rest ih => simpa [deliver] using ih (mailboxes.modify place (·.push completion))

theorem getElem?_deliver {completion : Completion} {places : List Nat} (distinct : places.Nodup)
    (mailboxes : List Mailbox) (place : Nat) :
    (deliver completion places mailboxes)[place]? =
      if place ∈ places then mailboxes[place]?.map (·.push completion) else mailboxes[place]? := by
  induction places generalizing mailboxes with
  | nil => rfl
  | cons first rest ih =>
    obtain ⟨fresh, distinct⟩ := List.nodup_cons.mp distinct
    have later := ih distinct (mailboxes.modify first (·.push completion))
    simp only [deliver, List.foldl_cons] at later ⊢
    rw [later, List.getElem?_modify]
    by_cases same : first = place
    · subst same
      simp [fresh]
    · simp [same, Ne.symm same]

theorem mem_listeners {subscriber : Subscriber} :
    subscriber ∈ engine.listeners ↔
      subscriber ∈ engine.subscribers ∧ engine.isListening subscriber = true :=
  List.mem_filter

/-- A completion is put once into every mailbox whose subscriber is among the listeners. -/
theorem getElem?_deliver_filterMap {key : Subscriber → Option Nat} {listeners : List Subscriber}
    {subscriber : Subscriber} {place : Nat}
    (apart : ∀ first second place, place ∈ key first → place ∈ key second → first = second)
    (distinct : listeners.Nodup) (here : key subscriber = some place) (completion : Completion)
    (mailboxes : List Mailbox) :
    (deliver completion (listeners.filterMap key) mailboxes)[place]? =
      if subscriber ∈ listeners then mailboxes[place]?.map (·.push completion)
      else mailboxes[place]? := by
  have listed : place ∈ listeners.filterMap key ↔ subscriber ∈ listeners := by
    rw [List.mem_filterMap]
    constructor
    · rintro ⟨other, member, there⟩
      exact apart other subscriber place there here ▸ member
    · exact fun member => ⟨subscriber, member, here⟩
  rw [getElem?_deliver (distinct.filterMap apart)]
  simp only [listed]

/-- A completion is put into the mailbox of everyone who listens, once. -/
theorem mailbox?_notify (formed : engine.WellFormed) (completion : Completion)
    (subscriber : Subscriber) :
    (engine.notify completion).mailbox? subscriber =
      if subscriber ∈ engine.listeners then
        (engine.mailbox? subscriber).map (·.push completion)
      else engine.mailbox? subscriber := by
  have distinct : engine.listeners.Nodup := formed.nodup.filter engine.isListening
  cases subscriber with
  | receiver slot =>
    refine getElem?_deliver_filterMap ?_ distinct rfl completion engine.receivers
    intro first second place left right
    cases first <;> cases second <;> simp_all [Subscriber.slot?]
  | waiter number =>
    refine getElem?_deliver_filterMap ?_ distinct rfl completion engine.waiters
    intro first second place left right
    cases first <;> cases second <;> simp_all [Subscriber.number?]

namespace WellFormed

theorem initial : Engine.initial.WellFormed where
  nodup := List.nodup_nil
  receivers := by simp [Engine.initial]
  waiters := by simp [Engine.initial]

theorem sublist {other : Engine} (formed : engine.WellFormed)
    (fewer : other.subscribers.Sublist engine.subscribers)
    (receivers : other.receivers.length = engine.receivers.length)
    (waiters : other.waiters.length = engine.waiters.length) : other.WellFormed where
  nodup := fewer.nodup formed.nodup
  receivers := by
    intro slot member
    exact receivers ▸ formed.receivers slot (fewer.subset member)
  waiters := by
    intro number member
    exact waiters ▸ formed.waiters number (fewer.subset member)

theorem withUntold (formed : engine.WellFormed) (untold : List Completion) :
    { engine with untold }.WellFormed :=
  formed.sublist (List.Sublist.refl _) rfl rfl

theorem finish (formed : engine.WellFormed) (response : Response) :
    (engine.finish identity response).WellFormed := by
  cases current : engine.inFlight with
  | none => rwa [finish_of_idle current]
  | some number =>
    rw [finish_of_inFlight current]
    exact formed.sublist (List.Sublist.refl _) rfl rfl

theorem notify (formed : engine.WellFormed) (completion : Completion) :
    (engine.notify completion).WellFormed :=
  formed.sublist List.filter_sublist (by simp [Engine.notify]) (by simp [Engine.notify])

theorem foldl_notify (formed : engine.WellFormed) (completions : List Completion) :
    (completions.foldl Engine.notify engine).WellFormed := by
  induction completions generalizing engine with
  | nil => exact formed
  | cons completion rest ih => exact ih (formed.notify completion)

theorem tell (formed : engine.WellFormed) (number : Nat) : (engine.tell number).WellFormed := by
  unfold Engine.tell
  split
  · exact formed
  · exact (formed.withUntold _).notify _

theorem tellAll (formed : engine.WellFormed) : engine.tellAll.WellFormed :=
  (formed.withUntold []).foldl_notify engine.untold

theorem close (formed : engine.WellFormed) : engine.close.WellFormed :=
  formed.sublist (List.nil_sublist _) rfl rfl

theorem subscribe (formed : engine.WellFormed) : engine.subscribe.2.WellFormed where
  nodup := by
    have fresh : Subscriber.receiver engine.receivers.length ∉ engine.subscribers := by
      intro member
      exact Nat.lt_irrefl _ (formed.receivers _ member)
    exact formed.nodup.append (List.nodup_singleton _) (List.disjoint_singleton.mpr fresh)
  receivers := by
    intro slot member
    simp only [Engine.subscribe, List.mem_append, List.mem_singleton, List.length_append,
      List.length_singleton] at member ⊢
    rcases member with before | new
    · exact Nat.lt_succ_of_lt (formed.receivers slot before)
    · cases new
      exact Nat.lt_succ_self _
  waiters := by
    intro number member
    simp only [Engine.subscribe, List.mem_append, List.mem_singleton, reduceCtorEq,
      or_false] at member
    exact formed.waiters number member

theorem register (formed : engine.WellFormed) : engine.register.WellFormed where
  nodup := by
    have fresh : Subscriber.waiter engine.waiters.length ∉ engine.subscribers := by
      intro member
      exact Nat.lt_irrefl _ (formed.waiters _ member)
    exact formed.nodup.append (List.nodup_singleton _) (List.disjoint_singleton.mpr fresh)
  receivers := by
    intro slot member
    simp only [Engine.register, List.mem_append, List.mem_singleton, reduceCtorEq,
      or_false] at member
    exact formed.receivers slot member
  waiters := by
    intro number member
    simp only [Engine.register, List.mem_append, List.mem_singleton, List.length_append,
      List.length_singleton] at member ⊢
    rcases member with before | new
    · exact Nat.lt_succ_of_lt (formed.waiters number before)
    · cases new
      exact Nat.lt_succ_self _

theorem leave (formed : engine.WellFormed) (number : Nat) : (engine.leave number).WellFormed :=
  formed.sublist List.filter_sublist rfl (List.length_modify _ _ _)

theorem advanceWait (formed : engine.WellFormed) (wait : Wait) :
    (engine.advanceWait wait).2.WellFormed := by
  cases wait with
  | begun => exact formed.register
  | _ => exact formed

theorem endWait (formed : engine.WellFormed) (wait : Wait) :
    (engine.endWait wait).2.WellFormed := by
  cases wait with
  | pending number => exact formed.leave number
  | answered number outcome => exact formed.leave number
  | _ => exact formed

theorem receive (formed : engine.WellFormed) (slot : Nat) : (engine.receive slot).2.WellFormed := by
  unfold Engine.receive
  split
  · exact formed
  · split
    · exact formed
    · split
      · exact formed.sublist (List.Sublist.refl _) List.length_set rfl
      · exact formed

theorem request (formed : engine.WellFormed) {operation : Operation}
    (request : operation.isRequest = true) : (engine.step identity operation).2.WellFormed := by
  have same : (engine.step identity operation).2.frame = engine.frame := frame_step request
  obtain ⟨_, _, _, _, subscribers, receivers, waiters⟩ := fields_of_frame same
  exact formed.sublist (subscribers ▸ List.Sublist.refl _) (congrArg List.length receivers)
    (congrArg List.length waiters)

/-- No operation spoils the list of subscribers. -/
theorem step (formed : engine.WellFormed) (operation : Operation) :
    (engine.step identity operation).2.WellFormed := by
  cases operation with
  | start => exact formed.request rfl
  | retry => exact formed.request rfl
  | finish response => exact formed.finish response
  | tell number => exact formed.tell number
  | shutdown response =>
    simp only [Engine.step, Engine.shutdown]
    split
    · exact (formed.finish response).tellAll.close
    · exact formed
  | cancel =>
    simp only [Engine.step, Engine.cancel]
    split
    · have given : { engine with inFlight := none }.WellFormed :=
        formed.sublist (List.Sublist.refl _) rfl rfl
      exact given.tellAll.close
    · exact formed
  | subscribe => exact formed.subscribe
  | unsubscribe slot => exact formed.sublist (List.Sublist.refl _) (List.length_modify _ _ _) rfl
  | receive slot => exact formed.receive slot
  | beginWait => exact formed
  | advanceWait wait => exact formed.advanceWait wait
  | endWait wait => exact formed.endWait wait
  | waitNow => exact ((formed.advanceWait _).advanceWait _).endWait _
  | channel name => exact formed

theorem after (operations : List Operation) : (Engine.after identity operations).WellFormed := by
  induction operations using List.reverseRecOn with
  | nil => exact initial
  | append_singleton operations operation ih =>
    rw [Engine.after_concat]
    exact ih.step operation

end WellFormed

end Engine
end ReleaseFeed.Fetch
