import ReleaseFeed.Proofs.Fetch.Promptness
import ReleaseFeed.Proofs.Fetch.Tracking
import ReleaseFeed.Proofs.Fetch.Unwaited
/-!
Waits. Main statement: a wait without patience is told the outcome of the last attempt unless there
is none to tell, a wait that blocks is told the outcome of the first attempt that is told once it is
listed, and the run around waits is the same as without them. The attempt told first is the one in
flight in every run that tells of an attempt before it launches another.
-/
namespace ReleaseFeed.Fetch

variable {identity : BuildIdentity} {engine : Engine} {number : Nat}

/-- A wait that is listed behind some operations and does not end during later ones. -/
structure Listed (identity : BuildIdentity) (before later : List Operation) (number : Nat) :
    Prop where
  listed : ((Engine.after identity before).step identity (.advanceWait .begun)).1 =
    .wait (.listed number)
  lasting : ∀ operation ∈ later, ¬ operation.Uses (.waiter number)

/-- A wait is told the outcome of an attempt once the subscribers were told of that attempt, and
nothing before. -/
def Truthful (identity : BuildIdentity) (operations : List Operation) (number flying : Nat) :
    Prop :=
  ((Engine.after identity operations).step identity (.endWait (.pending number))).1 =
    .outcome (((History.after identity operations).told.find? (·.number = flying)).map
      (outcomeOf identity ·.response))

/-- What waits are told and what they leave behind, after operations. -/
structure WaitsTruly (identity : BuildIdentity) (operations : List Operation) : Prop where
  /-- Without patience a wait is told nothing if there is no attempt, or none that completes. -/
  nothing : ((Engine.after identity operations).step identity .waitNow).1 = .outcome none ↔
    (History.after identity operations).launched = 0 ∨
      (History.after identity operations).inFlight ≠ [] ∨
        (History.after identity operations).abandoned ≠ []
  /-- Otherwise it is told the outcome of the last attempt. -/
  last : (History.after identity operations).launched ≠ 0 →
    (History.after identity operations).inFlight = [] →
      (History.after identity operations).abandoned = [] →
        ∃ earlier last, (History.after identity operations).completed = earlier ++ [last] ∧
          ((Engine.after identity operations).step identity .waitNow).1 =
            .outcome (some (outcomeOf identity last.response))
  /-- A wait blocks while an attempt is in flight. -/
  blocks : ∀ flying, (History.after identity operations).inFlight = [flying] →
    ∃ number, ((Engine.after identity operations).run identity
        [.beginWait, .advanceWait .begun, .advanceWait (.listed number)]).1 =
      [.wait .begun, .wait (.listed number), .wait (.pending number)]
  /-- A wait that looks again when it is listed finds what one without patience is told. -/
  again : ∀ number outcome,
    ((Engine.after identity operations).step identity (.advanceWait (.listed number))).1 =
        .wait (.answered number outcome) ↔
      ((Engine.after identity operations).step identity .waitNow).1 = .outcome (some outcome)
  /-- A wait that blocked is told the outcome of the attempt that was told first. -/
  blocked : ∀ before later number, operations = before ++ .advanceWait .begun :: later →
    Listed identity before later number →
      ((Engine.after identity operations).step identity (.endWait (.pending number))).1 =
        .outcome ((toldSince identity before operations).head?.map
          (outcomeOf identity ·.response))
  truthful_iff : ∀ before later number flying,
    operations = before ++ .advanceWait .begun :: later → Listed identity before later number →
      (History.after identity before).inFlight = [flying] →
        (Truthful identity operations number flying ↔
          (toldSince identity before operations).head?.map (outcomeOf identity ·.response) =
            ((toldSince identity before operations).find? (·.number = flying)).map
              (outcomeOf identity ·.response))
  prompt : Prompt identity operations → ∀ before later number flying,
    operations = before ++ .advanceWait .begun :: later → Listed identity before later number →
      (History.after identity before).inFlight = [flying] →
        Truthful identity operations number flying
  /-- Without its waits the run gives all other answers as it did, those of receivers included. -/
  answers : Engine.trace identity (withoutWaits operations) =
    (Engine.trace identity operations).filter fun seen => !seen.1.isWait
  history : History.after identity (withoutWaits operations) = History.after identity operations
  core : (Engine.after identity (withoutWaits operations)).core =
    (Engine.after identity operations).core
  receivers : (Engine.after identity (withoutWaits operations)).receivers =
    (Engine.after identity operations).receivers
  subscribers : (Engine.after identity (withoutWaits operations)).subscribers =
    receiversIn (Engine.after identity operations).subscribers
  /-- Waits that have ended are not on the list of the subscribers. -/
  ended : stillWaiting (Engine.trace identity operations) = [] →
    (Engine.after identity (withoutWaits operations)).subscribers =
      (Engine.after identity operations).subscribers

namespace Agrees

variable {history : History}

/-- The attempt in flight is the one behind all that have completed. -/
theorem number_inFlight (agrees : Agrees identity engine history) {flying : Nat}
    (current : history.inFlight = [flying]) : flying = history.completed.length + 1 := by
  have granting := agrees.granting_of_inFlight current
  have numbers := agrees.numbers
  rw [agrees.noneAbandoned granting, current, List.append_nil] at numbers
  have launched : history.completed.length + 1 = history.launched := by
    simpa using congrArg List.length numbers
  rw [← launched, List.range'_concat] at numbers
  have last := (List.append_inj' numbers rfl).2
  simp only [List.cons.injEq, and_true] at last
  omega

theorem find?_told (agrees : Agrees identity engine history) {flying : Nat}
    (current : history.inFlight = [flying]) :
    history.told.find? (·.number = flying) = none := by
  obtain ⟨numbers, -⟩ := agrees.numbers_append (List.append_nil history.completed).symm
  have last := agrees.number_inFlight current
  refine List.find?_eq_none.mpr fun attempt member => ?_
  have completed : attempt ∈ history.completed :=
    agrees.shares.subset (List.mem_append_left _ member)
  have bound : attempt.number ∈ List.range' 1 history.completed.length :=
    numbers ▸ List.mem_map_of_mem completed
  simp only [List.mem_range'_1] at bound
  simp only [decide_eq_true_eq]
  omega

/-- The flags tell whether there was an attempt and all have completed. -/
theorem over_iff (agrees : Agrees identity engine history) :
    engine.isStarted = true ∧ engine.isDone = true ↔
      history.launched ≠ 0 ∧ history.inFlight = [] ∧ history.abandoned = [] := by
  rw [agrees.isDone, agrees.isStarted]
  simp only [Bool.and_eq_true, decide_eq_true_eq, List.isEmpty_iff]
  exact ⟨fun ⟨launched, ⟨_, idle⟩, kept⟩ => ⟨launched, idle, kept⟩,
    fun ⟨launched, idle, kept⟩ => ⟨launched, ⟨launched, idle⟩, kept⟩⟩

theorem running (agrees : Agrees identity engine history) {flying : Nat}
    (current : history.inFlight = [flying]) :
    engine.isStarted = true ∧ engine.isDone = false := by
  cases fresh : engine.isStarted with
  | false => simp [(agrees.idle_of_not_started fresh).2] at current
  | true => simp [agrees.isDone, current]

/-- When all attempts have completed, the outcome is that of the last one. -/
theorem outcome_last (agrees : Agrees identity engine history) (launched : history.launched ≠ 0)
    (idle : history.inFlight = []) (kept : history.abandoned = []) :
    ∃ earlier last, history.completed = earlier ++ [last] ∧
      engine.outcome = outcomeOf identity last.response := by
  have numbers := agrees.numbers
  rw [idle, kept, List.append_nil, List.append_nil] at numbers
  have count : history.completed.length = history.launched := by
    simpa using congrArg List.length numbers
  rcases agrees.outcome with ⟨empty, _⟩ | ⟨earlier, last, result, shape, ends, outcome⟩
  · rw [empty] at count
    exact absurd count.symm launched
  · refine ⟨earlier, last, shape, outcome.trans ?_⟩
    rw [outcomeOf, ends.retrieve_eq]
    cases result <;> rfl

end Agrees

namespace Engine

theorem waitNow_fst (engine : Engine) : engine.waitNow.1 =
    if engine.isStarted = true ∧ engine.isDone = true then some engine.outcome else none := by
  rcases engine.waitNow_cases with
    ⟨fresh, ended⟩ | ⟨started, done, ended⟩ | ⟨started, running, ended⟩
  · simp [ended, fresh]
  · simp [ended, started, done]
  · simp [ended, running]

/-- A wait that ends was told the oldest completion in its mailbox. -/
theorem endWait_fst {queue : List Completion}
    (mailbox : engine.mailbox? (.waiter number) = some ⟨queue, false⟩) :
    (engine.endWait (.pending number)).1 = queue.head?.map Completion.outcome := by
  have found : engine.waiters[number]? = some ⟨queue, false⟩ := mailbox
  cases queue <;> simp [endWait, toldFirst?, found]

end Engine

theorem Agrees.advanceWait_listed {history : History} (agrees : Agrees identity engine history)
    (number : Nat) (outcome : Outcome) :
    (engine.advanceWait (.listed number)).1 = .answered number outcome ↔
      engine.waitNow.1 = some outcome := by
  rw [Engine.waitNow_fst]
  cases done : engine.isDone with
  | false => simp [Engine.advanceWait, done]
  | true =>
    have started : engine.isStarted = true := by
      have flags := agrees.isDone
      cases fresh : engine.isStarted with
      | true => rfl
      | false => simp [done, fresh] at flags
    simp [Engine.advanceWait, done, started]

namespace Tracks

theorem registered {operations : List Operation} :
    Tracks identity (.waiter (Engine.after identity operations).waiters.length)
      (History.after identity operations) (History.after identity operations)
      (Engine.after identity operations).register [] := by
  refine joined ((Agrees.after operations).congr rfl) (Engine.WellFormed.after operations).register
    ?_ ?_
  · simp [Engine.mailbox?, Engine.register]
  · simp [Engine.register]

theorem run_wait {before later : List Operation} (listed : Listed identity before later number) :
    Tracks identity (.waiter number) (History.after identity before)
      (History.after identity (before ++ .advanceWait .begun :: later))
      (Engine.after identity (before ++ .advanceWait .begun :: later)) [] := by
  obtain ⟨listed, lasting⟩ := listed
  obtain rfl : (Engine.after identity before).waiters.length = number := by
    simpa [Engine.step, Engine.advanceWait] using listed
  induction later using List.reverseRecOn with
  | nil =>
    rw [Engine.after_concat, History.after_concat]
    exact registered
  | append_singleton later operation ih =>
    have tracks := ih fun other member => lasting other (List.mem_append_left _ member)
    have behind : before ++ .advanceWait .begun :: (later ++ [operation]) =
        (before ++ .advanceWait .begun :: later) ++ [operation] := by simp
    rw [behind, Engine.after_concat, History.after_concat]
    exact tracks.step_other (lasting operation (by simp))

end Tracks

namespace Listed

variable {before later : List Operation} {flying : Nat}

/-- A wait that blocked is told the outcome of the attempt that was told first. -/
theorem endWait (listed : Listed identity before later number) :
    ((Engine.after identity (before ++ .advanceWait .begun :: later)).endWait (.pending number)).1 =
      (toldSince identity before (before ++ .advanceWait .begun :: later)).head?.map
        (outcomeOf identity ·.response) := by
  have tracks := Tracks.run_wait listed
  obtain ⟨attempts, told, delivered⟩ := tracks.delivered
  rw [List.nil_append] at delivered
  rw [toldSince, told, List.drop_left, Engine.endWait_fst tracks.mailbox, delivered, List.head?_map,
    Option.map_map]
  rfl

/-- Once it is told, the attempt in flight is among those that were told behind the listing. -/
theorem find?_told (listed : Listed identity before later number)
    (current : (History.after identity before).inFlight = [flying]) :
    (History.after identity (before ++ .advanceWait .begun :: later)).told.find?
        (·.number = flying) =
      (toldSince identity before (before ++ .advanceWait .begun :: later)).find?
        (·.number = flying) := by
  obtain ⟨attempts, told, -⟩ := (Tracks.run_wait listed).delivered
  rw [toldSince, told, List.drop_left, List.find?_append, (Agrees.after before).find?_told current,
    Option.none_or]

theorem truthful_iff (listed : Listed identity before later number)
    (current : (History.after identity before).inFlight = [flying]) :
    Truthful identity (before ++ .advanceWait .begun :: later) number flying ↔
      (toldSince identity before (before ++ .advanceWait .begun :: later)).head?.map
          (outcomeOf identity ·.response) =
        ((toldSince identity before (before ++ .advanceWait .begun :: later)).find?
          (·.number = flying)).map (outcomeOf identity ·.response) := by
  have ended : ((Engine.after identity _).step identity (.endWait (.pending number))).1 = _ :=
    congrArg Answer.outcome listed.endWait
  rw [Truthful, ended, listed.find?_told current, Answer.outcome.injEq]

/-- When attempts are told before others are launched, the one in flight is told first. -/
theorem head?_toldSince (listed : Listed identity before later number)
    (prompt : Prompt identity (before ++ .advanceWait .begun :: later))
    (current : (History.after identity before).inFlight = [flying]) :
    (toldSince identity before (before ++ .advanceWait .begun :: later)).head? =
      (toldSince identity before (before ++ .advanceWait .begun :: later)).find?
        (·.number = flying) := by
  have tracks := Tracks.run_wait listed
  obtain ⟨attempts, told, -⟩ := tracks.delivered
  have past := Sequential.after (prompt.of_append before _)
  have completed := (Sequential.after prompt).completed
  have silent : (History.after identity before).untold = [] := past.idle (by simp [current])
  have first := (Agrees.after before).number_inFlight current
  have earlier := past.completed
  rw [silent, List.append_nil] at earlier
  rw [told, ← earlier, List.append_assoc] at completed
  obtain ⟨-, numbers⟩ := tracks.agrees.numbers_append completed
  rw [toldSince, told, List.drop_left]
  cases attempts with
  | nil => rfl
  | cons attempt rest =>
    have number : attempt.number = flying := by
      simpa [List.range'_succ, ← first] using congrArg List.head? numbers
    exact (List.find?_cons_of_pos (by simp [number])).symm

end Listed

/-- Waits are told the truth and leave no trace. -/
theorem waitsTruly (identity : BuildIdentity) (operations : List Operation) :
    WaitsTruly identity operations := by
  have agrees : Agrees identity _ _ := Agrees.after operations
  have patience := Engine.waitNow_fst (Engine.after identity operations)
  rw [if_congr agrees.over_iff rfl rfl] at patience
  have waitNow : ((Engine.after identity operations).step identity .waitNow).1 = _ :=
    congrArg Answer.outcome patience
  have same : Engine.after identity (withoutWaits operations) = _ :=
    Engine.after_withoutWaits operations
  exact {
    nothing := by
      rw [waitNow, Answer.outcome.injEq, ite_eq_right_iff]
      simp only [reduceCtorEq, imp_false, not_and_or, Decidable.not_not, ne_eq]
    last := by
      intro launched idle kept
      obtain ⟨earlier, last, shape, outcome⟩ := agrees.outcome_last launched idle kept
      rw [waitNow, if_pos ⟨launched, idle, kept⟩, outcome]
      exact ⟨earlier, last, shape, rfl⟩
    blocks := by
      intro flying current
      obtain ⟨started, running⟩ := agrees.running current
      refine ⟨(Engine.after identity operations).waiters.length, ?_⟩
      have still : (Engine.after identity operations).register.isDone = false := running
      simp [Engine.run, Engine.step, Engine.beginWait, Engine.advanceWait, started, running, still]
    again := by
      intro number outcome
      simpa [Engine.step] using agrees.advanceWait_listed number outcome
    blocked := by
      rintro before later number rfl listed
      exact congrArg Answer.outcome listed.endWait
    truthful_iff := by
      rintro before later number flying rfl listed current
      exact listed.truthful_iff current
    prompt := by
      rintro prompt before later number flying rfl listed current
      rw [listed.truthful_iff current, listed.head?_toldSince prompt current]
    answers := Engine.trace_withoutWaits operations
    history := History.after_withoutWaits operations
    core := by
      rw [same]
      rfl
    receivers := by
      rw [same]
      rfl
    subscribers := by
      rw [same]
      rfl
    ended := by
      intro silence
      rw [same]
      exact receiversIn_of_ended silence }

/-- The first attempt is told when the second one is in flight and a wait for it has begun. -/
def lateTelling : List Operation :=
  [.start, .finish .crashed, .retry, .beginWait, .advanceWait .begun, .advanceWait (.listed 0),
    .tell 1]

/-- A wait can be told of an attempt before the one that it waits for. -/
theorem misled_by_lateTelling :
    ¬ (∀ identity before later number flying, Listed identity before later number →
        (History.after identity before).inFlight = [flying] →
          Truthful identity (before ++ .advanceWait .begun :: later) number flying) ∧
      (Engine.after ⟨"stable", none⟩ lateTelling).inFlight = some 2 ∧
        ((Engine.after ⟨"stable", none⟩ lateTelling).step ⟨"stable", none⟩
          (.endWait (.pending 0))).1 = .outcome (some .connectionFailed) := by
  have listed : Listed ⟨"stable", none⟩ [.start, .finish .crashed, .retry, .beginWait]
      [.advanceWait (.listed 0), .tell 1] 0 := ⟨rfl, by simp [Operation.Uses]⟩
  refine ⟨fun truthful => ?_, rfl, rfl⟩
  have told : Answer.outcome (some .connectionFailed) = .outcome none :=
    truthful _ _ _ _ 2 listed rfl
  cases told

end ReleaseFeed.Fetch
