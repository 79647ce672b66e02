import ReleaseFeed.Proofs.Fetch.Ending
import ReleaseFeed.Proofs.Fetch.History

namespace ReleaseFeed.Fetch

variable {identity : BuildIdentity}

def Attempt.Failed (identity : BuildIdentity) (attempt : Attempt) : Prop :=
  ∃ outcome, Ends identity attempt.response (.error outcome)

/-- The channels of the last attempt that succeeded; none before the first such attempt. -/
def Published (identity : BuildIdentity) (completed : List Attempt) (channels : List Channel) :
    Prop :=
  (channels = [] ∧ ∀ attempt ∈ completed, attempt.Failed identity) ∨
    ∃ earlier last later, completed = earlier ++ last :: later ∧
      Ends identity last.response (.ok channels) ∧ ∀ attempt ∈ later, attempt.Failed identity

/-- The outcome of an attempt that ended in a certain way. -/
def outcomeOfEnd : Except Outcome (List Channel) → Outcome
  | .ok _ => .success
  | .error outcome => outcome

/-- The outcome of the last attempt that completed; success before the first one completes. -/
def Concluded (identity : BuildIdentity) (completed : List Attempt) (outcome : Outcome) : Prop :=
  (completed = [] ∧ outcome = .success) ∨
    ∃ earlier last result, completed = earlier ++ [last] ∧
      Ends identity last.response result ∧ outcome = outcomeOfEnd result

theorem Published.success {completed : List Attempt} {attempt : Attempt} {channels : List Channel}
    (ends : Ends identity attempt.response (.ok channels)) :
    Published identity (completed ++ [attempt]) channels :=
  .inr ⟨completed, attempt, [], rfl, ends, by simp⟩

theorem Published.failure {completed : List Attempt} {attempt : Attempt} {channels : List Channel}
    (published : Published identity completed channels) (failed : attempt.Failed identity) :
    Published identity (completed ++ [attempt]) channels := by
  rcases published with ⟨empty, all⟩ | ⟨earlier, last, later, rfl, ends, all⟩
  · refine .inl ⟨empty, ?_⟩
    intro other member
    rcases List.mem_append.mp member with before | here
    · exact all other before
    · exact List.mem_singleton.mp here ▸ failed
  · refine .inr ⟨earlier, last, later ++ [attempt], by simp, ends, ?_⟩
    intro other member
    rcases List.mem_append.mp member with before | here
    · exact all other before
    · exact List.mem_singleton.mp here ▸ failed

theorem Attempt.not_failed {attempt : Attempt} {channels : List Channel}
    (ends : Ends identity attempt.response (.ok channels)) : ¬ attempt.Failed identity := by
  rintro ⟨outcome, failed⟩
  have same := ends.retrieve_eq.symm.trans failed.retrieve_eq
  cases same

/-- Two successes with nothing but failures behind them are the same attempt. -/
theorem last_success_unique {between later rest : List Attempt} {last other : Attempt}
    {channels : List Channel} (same : last :: later = between ++ other :: rest)
    (ends : Ends identity other.response (.ok channels))
    (failed : ∀ attempt ∈ later, attempt.Failed identity) : last = other := by
  cases between with
  | nil => exact (List.cons.inj same).1
  | cons head tail =>
    have member : other ∈ later := by
      rw [(List.cons.inj same).2]
      simp
    exact absurd (failed other member) (Attempt.not_failed ends)

theorem Published.unique {completed : List Attempt} {first second : List Channel}
    (left : Published identity completed first) (right : Published identity completed second) :
    first = second := by
  rcases left with ⟨empty, all⟩ | ⟨earlier, last, later, shape, ends, failed⟩
  · rcases right with ⟨other, _⟩ | ⟨_, last, _, shape, ends, _⟩
    · rw [empty, other]
    · exact absurd (all last (by simp [shape])) (Attempt.not_failed ends)
  · rcases right with ⟨_, all⟩ | ⟨before, final, rest, again, finalEnds, restFailed⟩
    · exact absurd (all last (by simp [shape])) (Attempt.not_failed ends)
    · have same : last = final := by
        rcases List.append_eq_append_iff.mp (shape.symm.trans again) with
          ⟨between, _, tail⟩ | ⟨between, _, tail⟩
        · exact last_success_unique tail finalEnds failed
        · exact (last_success_unique tail ends restFailed).symm
      subst same
      exact Except.ok.inj (ends.retrieve_eq.symm.trans finalEnds.retrieve_eq)

theorem Concluded.unique {completed : List Attempt} {first second : Outcome}
    (left : Concluded identity completed first) (right : Concluded identity completed second) :
    first = second := by
  rcases left with ⟨none, first⟩ | ⟨earlier, last, result, shape, ends, rfl⟩
  · rcases right with ⟨_, second⟩ | ⟨_, _, _, shape, _, _⟩
    · rw [first, second]
    · simp [none] at shape
  · rcases right with ⟨none, _⟩ | ⟨before, final, other, again, finalEnds, rfl⟩
    · simp [none] at shape
    · have same : last = final := by
        simpa using (List.append_inj' (shape.symm.trans again) rfl).2
      subst same
      rw [ends.retrieve_eq.symm.trans finalEnds.retrieve_eq]

theorem Concluded.last {completed : List Attempt} {attempt : Attempt}
    {result : Except Outcome (List Channel)} (ends : Ends identity attempt.response result) :
    Concluded identity (completed ++ [attempt]) (outcomeOfEnd result) :=
  .inr ⟨completed, attempt, result, rfl, ends, rfl⟩

end ReleaseFeed.Fetch
