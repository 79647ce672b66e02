import ReleaseFeed.Proofs.Fetch.Steps
/-!
The state of the engine against its history. Main statement: after every run, the flags, the
counters, the attempt in flight, the outcome and the published channels of the engine are those that
its history tells.
-/
namespace ReleaseFeed.Fetch

variable {identity : BuildIdentity} {engine : Engine} {history : History}

/-- What the state of an engine has to do with its history. -/
structure Agrees (identity : BuildIdentity) (engine : Engine) (history : History) : Prop where
  isOpen : engine.isOpen = !history.isClosed
  isStarted : engine.isStarted = decide (history.launched ≠ 0)
  isDone : engine.isDone =
    (engine.isStarted && history.inFlight.isEmpty && history.abandoned.isEmpty)
  attempts : engine.attempts = history.launched
  calls : engine.calls = history.launched
  inFlight : engine.inFlight.toList = history.inFlight
  untold : engine.untold = history.untold.map (Attempt.completion identity)
  shares : (history.told ++ history.untold).Perm history.completed
  numbers : history.completed.map Attempt.number ++ history.abandoned ++ history.inFlight =
    List.range' 1 history.launched
  idleWhenClosed : history.isClosed = true → history.inFlight = []
  toldWhenClosed : history.isClosed = true → history.untold = []
  noneAbandoned : history.isClosed = false → history.abandoned = []
  channels : Published identity history.completed engine.channels
  outcome : Concluded identity history.completed engine.outcome

namespace Agrees

theorem initial : Agrees identity Engine.initial History.initial where
  isOpen := rfl
  isStarted := rfl
  isDone := rfl
  attempts := rfl
  calls := rfl
  inFlight := rfl
  untold := rfl
  shares := .refl _
  numbers := rfl
  idleWhenClosed := fun _ => rfl
  toldWhenClosed := fun _ => rfl
  noneAbandoned := fun _ => rfl
  channels := .inl ⟨rfl, by simp [History.initial]⟩
  outcome := .inl ⟨rfl, rfl⟩

theorem congr {other : Engine} (agrees : Agrees identity engine history)
    (same : other.core = engine.core) : Agrees identity other history := by
  obtain ⟨isOpen, isStarted, isDone, outcome, attempts, calls, inFlight, untold, channels⟩ :=
    Engine.fields_of_core same
  exact {
    isOpen := isOpen ▸ agrees.isOpen
    isStarted := isStarted ▸ agrees.isStarted
    isDone := by rw [isDone, isStarted]; exact agrees.isDone
    attempts := attempts ▸ agrees.attempts
    calls := calls ▸ agrees.calls
    inFlight := inFlight ▸ agrees.inFlight
    untold := untold ▸ agrees.untold
    shares := agrees.shares
    numbers := agrees.numbers
    idleWhenClosed := agrees.idleWhenClosed
    toldWhenClosed := agrees.toldWhenClosed
    noneAbandoned := agrees.noneAbandoned
    channels := channels ▸ agrees.channels
    outcome := outcome ▸ agrees.outcome }

theorem idle_of_not_started (agrees : Agrees identity engine history)
    (fresh : engine.isStarted = false) :
    history.launched = 0 ∧ history.inFlight = [] := by
  have none : history.launched = 0 := by simpa [agrees.isStarted] using fresh
  have numbers := agrees.numbers
  rw [none] at numbers
  simp only [List.range'_zero, List.append_eq_nil_iff] at numbers
  exact ⟨none, numbers.2⟩

/-- Attempts complete in the order of their numbers, none of which is left out. -/
theorem numbers_append (agrees : Agrees identity engine history) {before attempts : List Attempt}
    (completed : history.completed = before ++ attempts) :
    before.map Attempt.number = List.range' 1 before.length ∧
      attempts.map Attempt.number = List.range' (before.length + 1) attempts.length := by
  have numbers := agrees.numbers
  rw [completed, List.map_append, List.append_assoc, List.append_assoc] at numbers
  obtain ⟨first, _, earlier, rest⟩ := List.range'_eq_append_iff.mp numbers.symm
  obtain ⟨count, _, these, _⟩ := List.range'_eq_append_iff.mp rest.symm
  have firstLength : before.length = first := by
    simpa using congrArg List.length earlier
  have countLength : attempts.length = count := by
    simpa using congrArg List.length these
  rw [earlier, these, firstLength, countLength, Nat.mul_one, Nat.add_comm 1]
  exact ⟨rfl, rfl⟩

theorem perm_cons_filter {attempts : List Attempt} {number : Nat} {attempt : Attempt}
    (distinct : (attempts.map Attempt.number).Nodup)
    (found : attempts.find? (·.number = number) = some attempt) :
    attempts.Perm (attempt :: attempts.filter (·.number ≠ number)) := by
  induction attempts with
  | nil => cases found
  | cons head rest ih =>
    obtain ⟨fresh, distinct⟩ := List.nodup_cons.mp distinct
    by_cases same : head.number = number
    · have others : rest.filter (·.number ≠ number) = rest := by
        refine List.filter_eq_self.mpr fun other member => ?_
        have apart : other.number ≠ number := fun again =>
          fresh (List.mem_map.mpr ⟨other, member, again.trans same.symm⟩)
        simpa using apart
      obtain rfl : head = attempt := by simpa [same] using found
      rw [List.filter_cons_of_neg (by simp [same]), others]
    · have later : rest.find? (·.number = number) = some attempt := by simpa [same] using found
      simpa [same] using ((ih distinct later).cons head).trans (.swap _ _ _)

theorem nodup_completed (agrees : Agrees identity engine history) :
    (history.completed.map Attempt.number).Nodup := by
  have distinct : (List.range' 1 history.launched).Nodup := List.nodup_range'
  rw [← agrees.numbers, List.append_assoc] at distinct
  exact (List.nodup_append.mp distinct).1

theorem nodup_told (agrees : Agrees identity engine history) :
    ((history.told ++ history.untold).map Attempt.number).Nodup :=
  (agrees.shares.map Attempt.number).nodup_iff.mpr agrees.nodup_completed

theorem nodup_untold (agrees : Agrees identity engine history) :
    (history.untold.map Attempt.number).Nodup := by
  have distinct := agrees.nodup_told
  rw [List.map_append] at distinct
  exact (List.nodup_append.mp distinct).2.1

theorem granting_of_inFlight (agrees : Agrees identity engine history) {number : Nat}
    (flying : history.inFlight = [number]) : history.isClosed = false := by
  cases closed : history.isClosed with
  | false => rfl
  | true => simp [agrees.idleWhenClosed closed] at flying

theorem launch (agrees : Agrees identity engine history) (granting : history.isClosed = false)
    (idle : history.inFlight = []) :
    Agrees identity ({ engine with isStarted := true, isDone := false }).launch history.launch where
  isOpen := agrees.isOpen
  isStarted := by simp [Engine.launch, Engine.beginJob, History.launch]
  isDone := by simp [Engine.launch, Engine.beginJob, History.launch]
  attempts := by simp [Engine.launch, Engine.beginJob, History.launch, agrees.attempts]
  calls := by simp [Engine.launch, Engine.beginJob, History.launch, agrees.calls]
  inFlight := by simp [Engine.launch, Engine.beginJob, History.launch, idle, agrees.attempts]
  untold := agrees.untold
  shares := agrees.shares
  numbers := by
    have numbers := agrees.numbers
    simp only [idle, List.append_nil] at numbers
    simp only [History.launch, idle, List.nil_append, numbers, List.range'_concat]
    simp [Nat.add_comm]
  idleWhenClosed := by simp [History.launch, granting]
  toldWhenClosed := by simp [History.launch, granting]
  noneAbandoned := agrees.noneAbandoned
  channels := agrees.channels
  outcome := agrees.outcome

theorem settle (agrees : Agrees identity engine history) (response : Response) :
    Agrees identity (engine.finish identity response) (history.settle response) := by
  have flying := agrees.inFlight
  cases current : engine.inFlight with
  | none =>
    simp only [current, Option.toList_none] at flying
    simpa only [Engine.finish_of_idle current, History.settle, ← flying] using agrees
  | some number =>
    simp only [current, Option.toList_some] at flying
    have granting := agrees.granting_of_inFlight flying.symm
    have started : engine.isStarted = true := by
      cases fresh : engine.isStarted with
      | true => rfl
      | false => simp [(agrees.idle_of_not_started fresh).2] at flying
    have numbers := agrees.numbers
    simp only [← flying, agrees.noneAbandoned granting, List.append_nil] at numbers
    obtain ⟨result, ends⟩ : ∃ result, Ends identity response result := exists_ends response
    rw [Engine.finish_of_inFlight current, ends.retrieve_eq]
    simp only [History.settle, ← flying]
    exact {
      isOpen := agrees.isOpen
      isStarted := agrees.isStarted
      isDone := by
        simp [Engine.complete, Engine.publish, started, agrees.noneAbandoned granting]
      attempts := agrees.attempts
      calls := agrees.calls
      inFlight := rfl
      untold := by
        have told : (⟨number, outcomeOfEnd result⟩ : Completion) =
            Attempt.completion identity ⟨number, response⟩ := by
          rw [← ends.retrieve_eq]
          rfl
        rw [List.map_append, ← agrees.untold, told]
        rfl
      shares := by
        rw [← List.append_assoc]
        exact agrees.shares.append_right _
      numbers := by simpa [agrees.noneAbandoned granting] using numbers
      idleWhenClosed := fun _ => rfl
      toldWhenClosed := fun closed => absurd closed (by simp [granting])
      noneAbandoned := agrees.noneAbandoned
      channels := by
        cases result with
        | ok channels => exact .success ends
        | error outcome => exact agrees.channels.failure ⟨outcome, ends⟩
      outcome := .last ends }

theorem find?_untold (agrees : Agrees identity engine history) (number : Nat) :
    engine.untold.find? (·.attempt = number) =
      (history.untold.find? (·.number = number)).map (Attempt.completion identity) := by
  rw [agrees.untold, List.find?_map]
  rfl

/-- The subscribers are told of an attempt, or of none if the number is not that of one to tell. -/
theorem tell (agrees : Agrees identity engine history) (number : Nat) :
    Agrees identity (engine.tell number) (history.tell number) := by
  have same := agrees.find?_untold number
  cases found : history.untold.find? (·.number = number) with
  | none =>
    rw [found, Option.map_none] at same
    simpa only [Engine.tell, same, History.tell, found] using agrees
  | some attempt =>
    rw [found, Option.map_some] at same
    simp only [Engine.tell, same, History.tell, found]
    have told : Agrees identity
        { engine with untold := engine.untold.filter (·.attempt ≠ number) }
        { history with
          told := history.told ++ [attempt]
          untold := history.untold.filter (·.number ≠ number) } := {
      agrees with
      untold := by
        rw [agrees.untold, List.filter_map]
        rfl
      shares := by
        have parted := (perm_cons_filter agrees.nodup_untold found).symm
        rw [List.append_assoc]
        exact (parted.append_left history.told).trans agrees.shares
      toldWhenClosed := by
        intro closed
        rw [agrees.toldWhenClosed closed, List.filter_nil] }
    exact told.congr rfl

/-- The subscribers are told of all attempts that are left to tell. -/
theorem tellAll (agrees : Agrees identity engine history) :
    Agrees identity engine.tellAll history.tellAll := by
  have told : Agrees identity { engine with untold := [] } history.tellAll := {
    agrees with
    untold := rfl
    shares := by simpa [History.tellAll] using agrees.shares
    toldWhenClosed := fun _ => rfl }
  exact told.congr (Engine.core_tellAll engine)

theorem close (agrees : Agrees identity engine history) (idle : history.inFlight = [])
    (silent : history.untold = []) : Agrees identity engine.close history.close where
  isOpen := rfl
  isStarted := agrees.isStarted
  isDone := agrees.isDone
  attempts := agrees.attempts
  calls := agrees.calls
  inFlight := agrees.inFlight
  untold := agrees.untold
  shares := agrees.shares
  numbers := agrees.numbers
  idleWhenClosed := fun _ => idle
  toldWhenClosed := fun _ => silent
  noneAbandoned := by simp [History.close]
  channels := agrees.channels
  outcome := agrees.outcome

/-- What is in flight when an engine closes is given up, and all else is told. -/
theorem abandon (agrees : Agrees identity engine history) (granting : history.isClosed = false) :
    Agrees identity ({ engine with inFlight := none }).tellAll.close
      history.abandon.tellAll.close := by
  have given : Agrees identity { engine with inFlight := none, untold := [] }.close
      history.abandon.tellAll.close := {
    isOpen := rfl
    isStarted := agrees.isStarted
    isDone := by
      simp [Engine.close, History.close, History.abandon, History.tellAll, agrees.isDone,
        agrees.noneAbandoned granting]
    attempts := agrees.attempts
    calls := agrees.calls
    inFlight := rfl
    untold := rfl
    shares := by simpa [History.close, History.abandon, History.tellAll] using agrees.shares
    numbers := by
      simpa [History.close, History.abandon, History.tellAll, agrees.noneAbandoned granting]
        using agrees.numbers
    idleWhenClosed := fun _ => rfl
    toldWhenClosed := fun _ => rfl
    noneAbandoned := by simp [History.close]
    channels := agrees.channels
    outcome := agrees.outcome }
  refine given.congr ?_
  have told : ({ engine with inFlight := none }).tellAll.core = _ := Engine.core_tellAll _
  exact congrArg (fun core : Engine => { core with isOpen := false }) told

/-- One response is enough to bring the engine to rest. -/
theorem settle_inFlight (agrees : Agrees identity engine history) (response : Response) :
    (history.settle response).inFlight = [] := by
  have flying := agrees.inFlight
  cases current : engine.inFlight with
  | none =>
    simp only [current, Option.toList_none] at flying
    simp only [History.settle, ← flying]
  | some number =>
    simp only [current, Option.toList_some] at flying
    simp only [History.settle, ← flying]

/-- A closed engine has nothing left that a response or a cancellation could end, and nothing to
tell. -/
theorem closed_history (agrees : Agrees identity engine history) (closed : engine.isOpen = false)
    (response : Response) :
    (history.settle response).tellAll.close = history ∧
      history.abandon.tellAll.close = history := by
  have shut : history.isClosed = true := by simpa [closed] using agrees.isOpen
  have idle := agrees.idleWhenClosed shut
  have silent := agrees.toldWhenClosed shut
  obtain ⟨launched, inFlight, completed, told, untold, abandoned, isClosed⟩ := history
  simp only at shut idle silent
  subst shut idle silent
  simp [History.settle, History.abandon, History.tellAll, History.close]

/-- One operation keeps the agreement, whatever it answers. -/
theorem step (agrees : Agrees identity engine history) (operation : Operation) :
    Agrees identity (engine.step identity operation).2
      (history.note operation (engine.step identity operation).1) := by
  have opening := agrees.isOpen
  cases operation with
  | start =>
    rcases engine.start_cases with ⟨granting, fresh, accepted⟩ | ⟨_, admission, refused, same⟩
    · have unchanged : { engine with isStarted := true } =
          { engine with isStarted := true, isDone := false } := by
        simp [agrees.isDone, fresh]
      simp only [Engine.step, accepted, unchanged]
      exact agrees.launch (by simpa [granting] using opening) (agrees.idle_of_not_started fresh).2
    · simp only [Engine.step, same, Prod.map_apply, id_eq]
      rw [History.note_of_refused rfl refused]
      exact agrees
  | retry =>
    rcases engine.retry_cases with
      ⟨granting, started, done, accepted⟩ | ⟨_, admission, refused, same⟩
    · have unchanged : { engine with isDone := false } =
          { engine with isStarted := true, isDone := false } := by
        simp [← started]
      have idle := agrees.isDone
      simp only [done, started, Bool.true_and, Bool.true_eq, Bool.and_eq_true,
        List.isEmpty_iff] at idle
      simp only [Engine.step, accepted, unchanged]
      exact agrees.launch (by simpa [granting] using opening) idle.1
    · simp only [Engine.step, same, Prod.map_apply, id_eq]
      rw [History.note_of_refused rfl refused]
      exact agrees
  | finish response => exact agrees.settle response
  | tell number => exact agrees.tell number
  | shutdown response =>
    cases granting : engine.isOpen with
    | true =>
      simp only [Engine.step, Engine.shutdown, granting, if_true]
      exact (agrees.settle response).tellAll.close (agrees.settle_inFlight response) rfl
    | false =>
      simp only [Engine.step, Engine.shutdown, granting, Bool.false_eq_true, if_false]
      change Agrees identity engine (history.settle response).tellAll.close
      rw [(agrees.closed_history granting response).1]
      exact agrees
  | cancel =>
    cases granting : engine.isOpen with
    | true =>
      have cancelled : engine.cancel = ({ engine with inFlight := none }).tellAll.close :=
        if_pos granting
      simp only [Engine.step, cancelled]
      exact agrees.abandon (by simpa [granting] using opening)
    | false =>
      simp only [Engine.step, Engine.cancel, granting, Bool.false_eq_true, if_false]
      change Agrees identity engine history.abandon.tellAll.close
      rw [(agrees.closed_history granting .crashed).2]
      exact agrees
  | _ => exact agrees.congr (Engine.core_step rfl)

theorem after (operations : List Operation) :
    Agrees identity (Engine.after identity operations) (History.after identity operations) := by
  induction operations using List.reverseRecOn with
  | nil => exact initial
  | append_singleton operations operation ih =>
    rw [Engine.after_concat, History.after_concat]
    exact ih.step operation

end Agrees
end ReleaseFeed.Fetch
