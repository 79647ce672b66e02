import Mathlib.Data.List.Nodup
import ReleaseFeed.Proofs.Fetch.Promptness
import ReleaseFeed.Proofs.Fetch.Tracking
/-!
What receivers get. Main statement: a receiver that is kept gets what the subscribers are told
behind its subscription, each attempt once. That is in the order of the attempts exactly when they
are told in the order in which the attempts completed, and so in every run that tells of an attempt
before it launches another.
-/
namespace ReleaseFeed.Fetch

variable {identity : BuildIdentity} {engine : Engine} {slot : Nat}

section Runs

variable (identity : BuildIdentity) (slot : Nat) (before operations : List Operation)

/-- All that a receiver got, taken or not. -/
def deliveries : List Completion :=
  handedOut slot (Engine.trace identity operations) ++
    (Engine.after identity operations).queued slot

/-- A receiver got the attempts that completed behind its subscription, each once and in order. -/
def InOrder : Prop :=
  ∃ attempts,
    (History.after identity operations).completed =
        (History.after identity before).completed ++ attempts ∧
      attempts.map Attempt.number =
          List.range' ((History.after identity before).completed.length + 1) attempts.length ∧
        deliveries identity slot operations = attempts.map (Attempt.completion identity)

/-- What a receiver has got and will get, between its subscription and the present. -/
structure Delivery : Prop where
  told : ∃ attempts,
    (History.after identity operations).told = (History.after identity before).told ++ attempts ∧
      deliveries identity slot operations = attempts.map (Attempt.completion identity)
  once : ((History.after identity operations).told.map Attempt.number).Nodup
  /-- Every attempt that completed was told or is left to be told. -/
  shares : ((History.after identity operations).told ++
      (History.after identity operations).untold).Perm (History.after identity operations).completed
  inOrder_iff : InOrder identity slot before operations ↔
    toldSince identity before operations = completedSince identity before operations
  prompt : Prompt identity operations → (History.after identity before).untold = [] →
    (History.after identity operations).untold = [] → InOrder identity slot before operations
  /-- A receiver without a completion says whether it can still get one. -/
  answer : ((Engine.after identity operations).step identity (.receive slot)).1 = .received
    (match (Engine.after identity operations).queued slot with
    | completion :: _ => .completion completion
    | [] =>
      if (History.after identity operations).isClosed = (History.after identity before).isClosed
      then .empty else .disconnected)
  /-- Behind the end of the subscriptions, what is queued comes first and then only the end. -/
  drain : (History.after identity before).isClosed = false →
    (History.after identity operations).isClosed = true → ∀ extra,
      ((Engine.after identity operations).run identity
          (List.replicate (((Engine.after identity operations).queued slot).length + extra)
            (.receive slot))).1 =
        ((Engine.after identity operations).queued slot).map
            (fun completion => .received (.completion completion)) ++
          List.replicate extra (.received .disconnected)
  /-- A shutdown lets the attempt in flight complete and tells all that is left to tell. -/
  shutdown : ∀ response,
    ((Engine.after identity operations).step identity (.shutdown response)).2.queued slot =
      (Engine.after identity operations).queued slot ++
        ((History.after identity operations).settle response).untold.map
          (Attempt.completion identity)
  /-- An attempt that is given up is never told. -/
  cancel : ((Engine.after identity operations).step identity .cancel).2.queued slot =
    (Engine.after identity operations).queued slot ++
      (History.after identity operations).untold.map (Attempt.completion identity)
  /-- A receiver that is opened behind the end of the subscriptions never gets anything. -/
  late : (History.after identity before).isClosed = true → deliveries identity slot operations = []

end Runs

/-- What subscribers are told of an attempt tells it from all others that completed. -/
theorem Agrees.eq_of_map_completion {history : History} (agrees : Agrees identity engine history)
    {first second : List Attempt} (left : ∀ attempt ∈ first, attempt ∈ history.completed)
    (right : ∀ attempt ∈ second, attempt ∈ history.completed)
    (same : first.map (Attempt.completion identity) = second.map (Attempt.completion identity)) :
    first = second := by
  induction first generalizing second with
  | nil => exact (List.map_eq_nil_iff.mp same.symm).symm
  | cons attempt rest ih =>
    cases second with
    | nil => cases same
    | cons other others =>
      obtain ⟨here, there⟩ := List.cons.inj same
      have number : attempt.number = other.number := congrArg Completion.attempt here
      have equal : attempt = other := List.inj_on_of_nodup_map agrees.nodup_completed
        (left _ List.mem_cons_self) (right _ List.mem_cons_self) number
      have later := ih (fun _ member => left _ (List.mem_cons_of_mem _ member))
        (fun _ member => right _ (List.mem_cons_of_mem _ member)) there
      rw [equal, later]

namespace Tracks

variable {past now next : History} {other : Engine} {got : List Completion}

theorem answer (tracks : Tracks identity (.receiver slot) past now engine got) :
    (engine.step identity (.receive slot)).1 = .received
      (match engine.queued slot with
      | completion :: _ => .completion completion
      | [] => if now.isClosed = past.isClosed then .empty else .disconnected) := by
  have mailbox : engine.receivers[slot]? = some ⟨engine.queued slot, false⟩ := tracks.mailbox
  cases queued : engine.queued slot with
  | cons completion rest =>
    rw [queued] at mailbox
    simp [Engine.step, Engine.receive_cons mailbox]
  | nil =>
    rw [queued] at mailbox
    simp [Engine.step, Engine.receive_nil mailbox, tracks.listed]

theorem queued_append (tracks : Tracks identity (.receiver slot) past now engine got)
    (later : Tracks identity (.receiver slot) past next other got) {attempts : List Attempt}
    (told : next.told = now.told ++ attempts) :
    other.queued slot = engine.queued slot ++ attempts.map (Attempt.completion identity) := by
  obtain ⟨before, toldBefore, delivered⟩ := tracks.delivered
  obtain ⟨all, toldAll, deliveredAll⟩ := later.delivered
  have parts : all = before ++ attempts := by
    rw [toldAll, toldBefore, List.append_assoc] at told
    exact List.append_cancel_left told
  rw [parts, List.map_append, ← delivered, List.append_assoc] at deliveredAll
  exact List.append_cancel_left deliveredAll

end Tracks

/-- A receiver is told in the order of the attempts exactly when all are. -/
theorem inOrder_iff {before later : List Operation} (kept : Kept identity before later slot) :
    InOrder identity slot before (before ++ .subscribe :: later) ↔
      toldSince identity before (before ++ .subscribe :: later) =
        completedSince identity before (before ++ .subscribe :: later) := by
  have tracks := Tracks.run kept
  obtain ⟨attempts, told, delivered⟩ := tracks.delivered
  obtain ⟨rest, completed⟩ := History.completed_prefix_after before (.subscribe :: later)
  rw [toldSince, completedSince, told, ← completed, List.drop_left, List.drop_left]
  constructor
  · rintro ⟨others, alsoCompleted, -, alsoDelivered⟩
    have same : others = rest := List.append_cancel_left (alsoCompleted.symm.trans completed.symm)
    refine tracks.agrees.eq_of_map_completion (fun attempt member => ?_) (fun attempt member => ?_)
      (delivered.symm.trans (same ▸ alsoDelivered))
    · refine tracks.agrees.shares.subset (List.mem_append_left _ ?_)
      exact told ▸ List.mem_append_right _ member
    · exact completed ▸ List.mem_append_right _ member
  · rintro rfl
    exact ⟨attempts, completed.symm, (tracks.agrees.numbers_append completed.symm).2, delivered⟩

/-- A receiver that is kept gets all that is told behind its subscription, and reports the end
behind the last of it. -/
theorem delivery_of_kept {before later : List Operation} (kept : Kept identity before later slot) :
    Delivery identity slot before (before ++ .subscribe :: later) := by
  have tracks := Tracks.run kept
  have told := tracks.agrees.nodup_told
  rw [List.map_append] at told
  exact {
    told := tracks.delivered
    once := (List.nodup_append.mp told).1
    shares := tracks.agrees.shares
    inOrder_iff := inOrder_iff kept
    prompt := by
      intro prompt toldBefore toldNow
      have past := (Sequential.after (prompt.of_append before _)).completed
      have now := (Sequential.after prompt).completed
      rw [toldBefore, List.append_nil] at past
      rw [toldNow, List.append_nil] at now
      rw [inOrder_iff kept, toldSince, completedSince, past, now]
    answer := tracks.answer
    drain := by
      intro granting closed extra
      refine Engine.run_receive_unlisted tracks.mailbox (fun listed => ?_) extra
      simpa [granting, closed] using tracks.listed.mp listed
    shutdown := by
      intro response
      refine tracks.queued_append (tracks.step_other (by simp [Operation.Uses])) ?_
      exact congrArg (· ++ _) (History.told_settle _ response)
    cancel := by
      exact tracks.queued_append (tracks.step_other (by simp [Operation.Uses])) rfl
    late := by
      intro closed
      obtain ⟨attempts, all, delivered⟩ := tracks.delivered
      rw [(tracks.late closed).2, List.self_eq_append_right] at all
      rwa [all, List.map_nil] at delivered }

/-- A receiver that is opened during the first attempt and reads between two crashes. -/
theorem delivery_of_two_crashes :
    Kept ⟨"stable", none⟩ [.start]
        [.finish .crashed, .tell 1, .receive 0, .retry, .shutdown .crashed] 0 ∧
      Delivery ⟨"stable", none⟩ 0 [.start]
        [.start, .subscribe, .finish .crashed, .tell 1, .receive 0, .retry,
          .shutdown .crashed] := by
  have kept : Kept ⟨"stable", none⟩ [.start]
      [.finish .crashed, .tell 1, .receive 0, .retry, .shutdown .crashed] 0 := ⟨rfl, by simp⟩
  exact ⟨kept, delivery_of_kept kept⟩

/-- A second attempt that is launched before the first one was told can be told before it. -/
theorem reordered_by_retry :
    ¬ (∀ identity before later slot, Kept identity before later slot →
        (History.after identity (before ++ .subscribe :: later)).untold = [] →
          InOrder identity slot before (before ++ .subscribe :: later)) ∧
      deliveries ⟨"stable", none⟩ 0
          [.subscribe, .start, .finish .crashed, .retry, .finish .crashed, .tell 2, .tell 1] =
        [⟨2, .connectionFailed⟩, ⟨1, .connectionFailed⟩] := by
  have kept : Kept ⟨"stable", none⟩ []
      [.start, .finish .crashed, .retry, .finish .crashed, .tell 2, .tell 1] 0 := ⟨rfl, by simp⟩
  have got : deliveries ⟨"stable", none⟩ 0
      [.subscribe, .start, .finish .crashed, .retry, .finish .crashed, .tell 2, .tell 1] =
        [⟨2, .connectionFailed⟩, ⟨1, .connectionFailed⟩] := rfl
  refine ⟨fun ordered => ?_, got⟩
  obtain ⟨attempts, -, numbers, delivered⟩ := ordered _ _ _ _ kept rfl
  have order : [2, 1] = attempts.map Attempt.number := by
    have numbersOf := congrArg (List.map Completion.attempt) (got.symm.trans delivered)
    rwa [List.map_map] at numbersOf
  have length : 2 = attempts.length := by simpa using congrArg List.length order
  rw [← order, ← length] at numbers
  exact absurd numbers (by decide)

end ReleaseFeed.Fetch
