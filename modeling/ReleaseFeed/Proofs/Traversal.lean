import Mathlib.Data.List.Forall2

namespace ReleaseFeed

variable {α β γ ε : Type}

theorem bind_eq_ok_iff {input : Except ε α} {next : α → Except ε β} {result : β} :
    (input >>= next) = .ok result ↔ ∃ value, input = .ok value ∧ next value = .ok result := by
  cases input <;> simp [bind, Except.bind]

@[simp]
theorem ok_bind (value : α) (next : α → Except ε β) : (Except.ok value >>= next) = next value := rfl

@[simp]
theorem error_bind (error : ε) (next : α → Except ε β) :
    ((Except.error error : Except ε α) >>= next) = .error error := rfl

theorem ite_error_eq_ok_iff {c : Prop} [Decidable c] {error : ε} {input : Except ε α} {value : α} :
    (if c then .error error else input) = .ok value ↔ ¬ c ∧ input = .ok value := by
  by_cases refused : c <;> simp [refused]

theorem toOption_bind (input : Except ε α) (next : α → Except ε β) :
    (input >>= next).toOption = input.toOption.bind fun value => (next value).toOption := by
  cases input <;> rfl

@[simp]
theorem toOption_ok (value : α) : (Except.ok value : Except ε α).toOption = some value := rfl

@[simp]
theorem toOption_error (error : ε) : (Except.error error : Except ε α).toOption = none := rfl

@[simp]
theorem toOption_pure (value : α) : (pure value : Except ε α).toOption = some value := rfl

theorem toOption_eq_some_iff {result : Except ε α} {value : α} :
    result.toOption = some value ↔ result = .ok value := by
  cases result <;> simp

section Except

variable {f : α → Except ε β} {members : List α}

theorem mapM_eq_ok_iff {results : List β} :
    members.mapM f = .ok results ↔
      List.Forall₂ (fun member result => f member = .ok result) members results := by
  induction members generalizing results with
  | nil => simp [pure, Except.pure, eq_comm]
  | cons head tail ih =>
    simp only [List.mapM_cons, bind_eq_ok_iff, List.forall₂_cons_left_iff, ← ih]
    constructor
    · rintro ⟨first, here, rest, later, same⟩
      exact ⟨first, rest, here, later, (Except.ok.inj same).symm⟩
    · rintro ⟨first, rest, here, later, rfl⟩
      exact ⟨first, here, rest, later, rfl⟩

theorem exists_mapM_eq_ok_iff :
    (∃ results, members.mapM f = .ok results) ↔
      ∀ member ∈ members, ∃ result, f member = .ok result := by
  induction members with
  | nil => simp [pure, Except.pure]
  | cons head tail ih =>
    simp only [List.mapM_cons, bind_eq_ok_iff, List.forall_mem_cons, ← ih]
    constructor
    · rintro ⟨_, first, here, rest, later, _⟩
      exact ⟨⟨first, here⟩, ⟨rest, later⟩⟩
    · rintro ⟨⟨first, here⟩, ⟨rest, later⟩⟩
      exact ⟨first :: rest, first, here, rest, later, rfl⟩

end Except

theorem mapM_eq_some_iff {f : α → Option β} {members : List α} {results : List β} :
    members.mapM f = some results ↔
      List.Forall₂ (fun member result => f member = some result) members results := by
  induction members generalizing results with
  | nil => simp [eq_comm]
  | cons head tail ih =>
    rw [List.mapM_cons, List.forall₂_cons_left_iff]
    simp only [Option.bind_eq_bind, Option.bind_eq_some_iff, ih, Option.pure_def,
      Option.some.injEq]
    constructor
    · rintro ⟨first, found, rest, later, rfl⟩
      exact ⟨first, rest, found, later, rfl⟩
    · rintro ⟨first, rest, found, later, rfl⟩
      exact ⟨first, found, rest, later, rfl⟩

theorem mapM_map_eq_some {means : β → Option α} {write : α → β} {members : List α}
    (each : ∀ member ∈ members, means (write member) = some member) :
    (members.map write).mapM means = some members := by
  rw [mapM_eq_some_iff, List.forall₂_map_left_iff, List.forall₂_same]
  exact each

section Middle

variable {f : α → Option β} {before behind : List α} {old new : α} {results : List β}

theorem mapM_middle_eq_none (refused : f new = none) :
    (before ++ new :: behind).mapM f = none := by
  rw [List.mapM_append, List.mapM_cons, refused]
  cases before.mapM f <;> rfl

theorem exists_of_mapM_middle (read : (before ++ old :: behind).mapM f = some results) :
    ∃ result, f old = some result := by
  cases found : f old with
  | some result => exact ⟨result, rfl⟩
  | none =>
    rw [mapM_middle_eq_none found] at read
    cases read

theorem mapM_replace (kept : ∀ result, f old = some result → f new = some result)
    (read : (before ++ old :: behind).mapM f = some results) :
    (before ++ new :: behind).mapM f = some results := by
  obtain ⟨result, found⟩ := exists_of_mapM_middle read
  rw [List.mapM_append, List.mapM_cons, found] at read
  rw [List.mapM_append, List.mapM_cons, kept result found]
  exact read

end Middle

/-- What a relation gives for its left side holds of every member on the left. -/
theorem forall_left_of_forall₂ {R : α → β → Prop} {holds : α → Prop} {lefts : List α}
    {rights : List β} (related : List.Forall₂ R lefts rights)
    (gives : ∀ left right, R left right → holds left) : ∀ left ∈ lefts, holds left := by
  induction related with
  | nil => simp
  | cons here _ ih => exact List.forall_mem_cons.mpr ⟨gives _ _ here, ih⟩

/-- What a relation gives for its right side holds of every member on the right. -/
theorem forall_right_of_forall₂ {R : α → β → Prop} {holds : β → Prop} {lefts : List α}
    {rights : List β} (related : List.Forall₂ R lefts rights)
    (gives : ∀ left ∈ lefts, ∀ right, R left right → holds right) :
    ∀ right ∈ rights, holds right := by
  induction related with
  | nil => simp
  | cons here _ ih =>
    refine List.forall_mem_cons.mpr ⟨gives _ (.head _) _ here, ih ?_⟩
    exact fun left member => gives left (.tail _ member)

def refusal? : Except ε α → Option ε
  | .ok _ => none
  | .error error => some error

theorem refusal?_eq_some_iff {result : Except ε α} {error : ε} :
    refusal? result = some error ↔ result = .error error := by
  cases result <;> simp [refusal?]

/-- A traversal is refused as its first refused member is. -/
theorem refusal?_mapM (f : α → Except ε β) (members : List α) :
    refusal? (members.mapM f) = members.findSome? fun member => refusal? (f member) := by
  induction members with
  | nil => rfl
  | cons head tail ih =>
    rw [List.mapM_cons, List.findSome?_cons, ← ih]
    cases f head with
    | error error => rfl
    | ok result =>
      cases tail.mapM f <;> rfl

theorem findSome?_flatMap (f : β → Option γ) (parts : α → List β) (members : List α) :
    (members.flatMap parts).findSome? f =
      members.findSome? fun member => (parts member).findSome? f := by
  induction members with
  | nil => rfl
  | cons head tail ih =>
    rw [List.flatMap_cons, List.findSome?_append, List.findSome?_cons, ih]
    cases (parts head).findSome? f <;> rfl

end ReleaseFeed
