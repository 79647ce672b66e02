import ReleaseFeed.Proofs.Channel.Lookup
import ReleaseFeed.Proofs.Fetch.Agreement
/-!
What an engine shows of its attempts. Main statement: in every run the published channels are those
of the last attempt that succeeded and the outcome is that of the last one that completed, failures
and cancellations replace no channels, and a reference keeps denoting what it was looked up in.
-/
namespace ReleaseFeed.Fetch

variable {identity : BuildIdentity} {engine : Engine}

/-- Whether an operation completes an attempt that is in flight. -/
def Operation.completes : Operation → Bool
  | .finish _ => true
  | .shutdown _ => true
  | _ => false

/-- What the answer to a lookup says about the channels that were searched. -/
def Answer.Locates (channels : List Channel) (name : String) : Answer → Prop
  | .channel (some reference) => reference.IsFirst channels name
  | .channel .none => ∀ channel ∈ channels, channel.name ≠ name
  | _ => False

/-- The state behind operations is a function of what completed during them. -/
structure FollowsHistory (identity : BuildIdentity) (operations : List Operation) : Prop where
  channels : ∀ channels, Published identity (History.after identity operations).completed channels ↔
    (Engine.after identity operations).channels = channels
  outcome : ∀ outcome, Concluded identity (History.after identity operations).completed outcome ↔
    (Engine.after identity operations).outcome = outcome
  /-- An attempt that fails at any stage leaves the published channels exactly as they were. -/
  failure : ∀ response outcome, Ends identity response (.error outcome) →
    (Engine.after identity (operations ++ [.finish response])).channels =
        (Engine.after identity operations).channels ∧
      (Engine.after identity (operations ++ [.shutdown response])).channels =
        (Engine.after identity operations).channels
  /-- So does an attempt that is given up, and it has no outcome. -/
  cancellation :
    (Engine.after identity (operations ++ [.cancel])).channels =
        (Engine.after identity operations).channels ∧
      (Engine.after identity (operations ++ [.cancel])).outcome =
        (Engine.after identity operations).outcome
  /-- Until another attempt completes, channels and outcome stay as they are. -/
  constant : ∀ later, (∀ operation ∈ later, operation.completes = false) →
    (Engine.after identity (operations ++ later)).channels =
        (Engine.after identity operations).channels ∧
      (Engine.after identity (operations ++ later)).outcome =
        (Engine.after identity operations).outcome
  /-- A lookup denotes the first channel of its name in what was published at that time. -/
  lookup : ∀ before name later, operations = before ++ .channel name :: later →
    ∃ answer, (Engine.trace identity operations)[before.length]? = some (.channel name, answer) ∧
      answer.Locates (Engine.after identity before).channels name

namespace Engine

theorem channels_finish_of_error {response : Response} {outcome : Outcome}
    (failed : retrieve identity response = .error outcome) :
    (engine.finish identity response).channels = engine.channels := by
  cases current : engine.inFlight with
  | none => rw [finish_of_idle current]
  | some number => simp [finish_of_inFlight current, failed, complete, publish, Except.toOption]

theorem shown_of_core {other : Engine} (same : other.core = engine.core) :
    other.channels = engine.channels ∧ other.outcome = engine.outcome := by
  obtain ⟨_, _, _, outcome, _, _, _, _, channels⟩ := fields_of_core same
  exact ⟨channels, outcome⟩

theorem channels_shutdown_of_error {response : Response} {outcome : Outcome}
    (failed : retrieve identity response = .error outcome) :
    (engine.shutdown identity response).channels = engine.channels := by
  unfold shutdown
  split
  · exact (shown_of_core (core_tellAll _)).1.trans (channels_finish_of_error failed)
  · rfl

theorem shown_cancel :
    engine.cancel.channels = engine.channels ∧ engine.cancel.outcome = engine.outcome := by
  unfold cancel
  split
  · have told := shown_of_core (core_tellAll { engine with inFlight := none })
    exact told
  · exact ⟨rfl, rfl⟩

theorem shown_tell (number : Nat) :
    (engine.tell number).channels = engine.channels ∧
      (engine.tell number).outcome = engine.outcome := by
  unfold tell
  split <;> exact ⟨rfl, rfl⟩

theorem shown_of_frame {other : Engine} (same : other.frame = engine.frame) :
    other.channels = engine.channels ∧ other.outcome = engine.outcome := by
  obtain ⟨_, outcome, _, channels, _⟩ := fields_of_frame same
  exact ⟨channels, outcome⟩

/-- Only a completion changes what the engine shows. -/
theorem shown_step {operation : Operation} (idle : operation.completes = false) :
    (engine.step identity operation).2.channels = engine.channels ∧
      (engine.step identity operation).2.outcome = engine.outcome := by
  cases operation with
  | start => exact shown_of_frame (frame_step rfl)
  | retry => exact shown_of_frame (frame_step rfl)
  | finish response => cases idle
  | shutdown response => cases idle
  | cancel => exact shown_cancel
  | tell number => exact shown_tell number
  | _ => exact shown_of_core (core_step rfl)

theorem shown_run {operations : List Operation}
    (idle : ∀ operation ∈ operations, operation.completes = false) :
    (engine.run identity operations).2.channels = engine.channels ∧
      (engine.run identity operations).2.outcome = engine.outcome := by
  induction operations generalizing engine with
  | nil => exact ⟨rfl, rfl⟩
  | cons operation rest ih =>
    obtain ⟨channels, outcome⟩ : (engine.step identity operation).2.channels = engine.channels ∧
        (engine.step identity operation).2.outcome = engine.outcome :=
      shown_step (idle operation List.mem_cons_self)
    rw [← channels, ← outcome]
    exact ih fun other member => idle other (List.mem_cons_of_mem _ member)

theorem locates_channel (name : String) :
    (engine.step identity (.channel name)).1.Locates engine.channels name := by
  simp only [step, channel?]
  cases found : ChannelRef.find? engine.channels name with
  | none => exact ChannelRef.find?_eq_none_iff.mp found
  | some reference => exact ChannelRef.isFirst_of_find? found

end Engine

/-- In every run the engine shows what its history tells. -/
theorem followsHistory (identity : BuildIdentity) (operations : List Operation) :
    FollowsHistory identity operations where
  channels := by
    intro channels
    have shown : Published identity _ _ := (Agrees.after operations).channels
    exact ⟨shown.unique, fun same => same ▸ shown⟩
  outcome := by
    intro outcome
    have shown : Concluded identity _ _ := (Agrees.after operations).outcome
    exact ⟨shown.unique, fun same => same ▸ shown⟩
  failure := by
    intro response outcome failed
    have ended := failed.retrieve_eq
    simp only [Engine.after_concat, Engine.step]
    exact ⟨Engine.channels_finish_of_error ended, Engine.channels_shutdown_of_error ended⟩
  cancellation := by
    simp only [Engine.after_concat, Engine.step]
    exact Engine.shown_cancel
  constant := by
    intro later idle
    rw [Engine.after_append]
    exact Engine.shown_run idle
  lookup := by
    rintro before name later rfl
    exact ⟨_, Engine.trace_getElem? before later (.channel name), Engine.locates_channel name⟩

end ReleaseFeed.Fetch
