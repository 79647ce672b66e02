import ReleaseFeed.Proofs.Fetch.SingleFlight

namespace ReleaseFeed.Fetch

variable {identity : BuildIdentity} {engine : Engine} {history : History}

/-- An attempt is launched only after the subscribers were told of all before it. -/
def Prompt (identity : BuildIdentity) (operations : List Operation) : Prop :=
  ∀ before operation later, operations = before ++ operation :: later →
    isLaunch (operation, ((Engine.after identity before).step identity operation).1) = true →
      (History.after identity before).untold = []

theorem Prompt.of_append (operations rest : List Operation)
    (prompt : Prompt identity (operations ++ rest)) : Prompt identity operations := by
  rintro before operation later rfl launches
  exact prompt before operation (later ++ rest) (by simp) launches

/-- Attempts are told in the order of their completion, one at a time. -/
structure Sequential (history : History) : Prop where
  completed : history.completed = history.told ++ history.untold
  atMostOne : history.untold.length ≤ 1
  idle : history.inFlight ≠ [] → history.untold = []

namespace Sequential

theorem initial : Sequential .initial := ⟨rfl, Nat.zero_le 1, fun _ => rfl⟩

theorem launch (sequential : Sequential history) (told : history.untold = []) :
    Sequential history.launch :=
  ⟨sequential.completed, sequential.atMostOne, fun _ => told⟩

theorem settle (sequential : Sequential history) (agrees : Agrees identity engine history)
    (response : Response) : Sequential (history.settle response) := by
  have rest := agrees.settle_inFlight response
  cases flying : history.inFlight with
  | nil => simpa only [History.settle, flying] using sequential
  | cons number others =>
    have told : history.untold = [] := sequential.idle (by simp [flying])
    have completed : history.completed = history.told := by simpa [told] using sequential.completed
    simp only [History.settle, flying] at rest ⊢
    exact ⟨by simp [completed, told], by simp [told], fun busy => absurd rest busy⟩

theorem tell (sequential : Sequential history) (number : Nat) :
    Sequential (history.tell number) := by
  unfold History.tell
  split
  · exact sequential
  · rename_i attempt found
    -- the only one that was left to tell
    have present : 0 < history.untold.length :=
      List.length_pos_of_mem (List.mem_of_find?_eq_some found)
    obtain ⟨only, alone⟩ := List.length_eq_one_iff.mp (Nat.le_antisymm sequential.atMostOne present)
    have completed := sequential.completed
    rw [alone] at completed found
    obtain ⟨same, rfl⟩ : only.number = number ∧ only = attempt := by simpa using found
    exact ⟨by simp [completed, alone, same], by simp [alone, same], by simp [alone, same]⟩

theorem tellAll (sequential : Sequential history) : Sequential history.tellAll :=
  ⟨by simp [History.tellAll, sequential.completed], Nat.zero_le 1, fun _ => rfl⟩

/-- One operation keeps the order unless it launches an attempt too early. -/
theorem note (sequential : Sequential history) (agrees : Agrees identity engine history)
    {operation : Operation} {answer : Answer}
    (prompt : isLaunch (operation, answer) = true → history.untold = []) :
    Sequential (history.note operation answer) := by
  unfold History.note
  split
  · exact sequential.launch (prompt rfl)
  · exact sequential.launch (prompt rfl)
  · exact sequential.settle agrees _
  · exact sequential.tell _
  · obtain ⟨completed, atMostOne, idle⟩ := (sequential.settle agrees _).tellAll
    exact ⟨completed, atMostOne, idle⟩
  · exact ⟨sequential.tellAll.completed, Nat.zero_le 1, fun _ => rfl⟩
  · exact sequential

/-- Every run that tells of an attempt before it launches another keeps the order. -/
theorem after {operations : List Operation} (prompt : Prompt identity operations) :
    Sequential (History.after identity operations) := by
  induction operations using List.reverseRecOn with
  | nil => exact initial
  | append_singleton operations operation ih =>
    have earlier := ih (prompt.of_append operations [operation])
    rw [History.after_concat]
    exact earlier.note (.after operations) (prompt operations operation [] rfl)

end Sequential
end ReleaseFeed.Fetch
