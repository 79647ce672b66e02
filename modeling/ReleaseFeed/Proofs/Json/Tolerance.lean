import Mathlib.Data.List.Nodup
import ReleaseFeed.Proofs.Json.Record

namespace ReleaseFeed.Json

variable {σ : Type}

section Content

variable {field : Field σ} {seen : List String} {members others : Members}

theorem Field.content?_perm (permuted : members.Perm others) :
    field.content? seen members = field.content? seen others := by
  have values : (named field.member.key members).Perm (named field.member.key others) :=
    (permuted.filter _).map _
  rw [content?, content?]
  generalize named field.member.key members = left at values ⊢
  generalize named field.member.key others = right at values ⊢
  rcases left with _ | ⟨value, _ | ⟨_, _⟩⟩
  · rw [values.nil_eq]
  · rw [List.singleton_perm.mp values]
  · rcases right with _ | ⟨_, _ | ⟨_, _⟩⟩
    · cases values.eq_nil
    · cases List.perm_singleton.mp values
    · rfl

theorem Field.named_eq_nil_of_content? {change : σ → σ} (wasSeen : field.member.key ∈ seen)
    (found : field.content? seen members = some change) : named field.member.key members = [] := by
  have contained : seen.contains field.member.key = true := List.contains_iff_mem.mpr wasSeen
  rw [content?] at found
  split at found
  · assumption
  · rw [if_pos contained] at found
    cases found
  · cases found

/-- An optional field that was seen is as good as one that is absent. -/
theorem Field.content?_optional (isOptional : field.member.isRequired = false)
    (absent : named field.member.key members = []) (seen : List String) :
    field.content? seen members = some id := by
  rw [content?, absent, isOptional]
  rfl

theorem Field.content?_required (isRequired : field.member.isRequired = true)
    (absent : named field.member.key members = []) (unseen : field.member.key ∉ seen) :
    field.content? seen members = none := by
  rw [content?, absent, isRequired]
  simp [unseen]

end Content

theorem content?_of_completed? {fields : List (Field σ)} {seen : List String}
    {members : Members} {record result : σ}
    (completed : completed? fields seen members record = some result) {field : Field σ}
    (inside : field ∈ fields) : ∃ change, field.content? seen members = some change := by
  cases found : field.content? seen members with
  | some change => exact ⟨change, rfl⟩
  | none =>
    rw [completed?_eq_none inside found] at completed
    cases completed

namespace Form

variable {form : Form σ} {seen : List String} {members others : Members}
  {spelled : Literal} {value : Value} {record result : σ}

theorem resume?_perm (permuted : members.Perm others) :
    form.resume? seen members record = form.resume? seen others record := by
  rw [resume?, resume?, permuted.all_eq,
    completed?_congr fun field _ => Field.content?_perm permuted]

theorem resume?_unknown (key : List Char) (text : spelled.text? = some key)
    (unknown : ∀ field ∈ form.fields, field.member.key.toList ≠ key) :
    form.resume? seen ((spelled, value) :: members) record = form.resume? seen members record := by
  have none : form.find? key = none := by
    rw [find?, List.find?_eq_none]
    intro field inside
    simpa using unknown field inside
  rw [resume?_cons, text, Option.bind_some, none]

theorem find?_of_mem {field : Field σ} (inside : field ∈ form.fields) :
    form.find? field.member.key.toList = some field := by
  have nodup : (form.fields.map fun field => field.member.key).Nodup :=
    List.pairwise_map.mpr (form.apart.imp And.left)
  cases found : form.find? field.member.key.toList with
  | none => simpa using List.find?_eq_none.mp found field inside
  | some other =>
    obtain ⟨alsoInside, same⟩ := mem_of_find? found
    rw [List.inj_on_of_nodup_map nodup alsoInside inside (String.toList_inj.mp same)]

theorem completed?_inOrder {fields : List (Field σ)} (apart : fields.Pairwise Field.Apart)
    (keys : (members.map fun member => member.1.text?) =
      fields.map fun field => some field.member.key.toList) (record : σ) :
    completed? fields [] members record = inOrder? fields (members.map Prod.snd) record := by
  induction fields generalizing members record with
  | nil =>
    obtain rfl := List.map_eq_nil_iff.mp keys
    rfl
  | cons field fields ih =>
    obtain ⟨ahead, behind⟩ := List.pairwise_cons.mp apart
    cases members with
    | nil => cases keys
    | cons member members =>
      obtain ⟨here, keys⟩ := List.cons.inj keys
      dsimp only at here
      have different : ∀ other ∈ fields, other.member.key ≠ field.member.key :=
        fun other inside => (ahead other inside).1.symm
      have absent : named field.member.key members = [] := by
        rw [named, List.map_eq_nil_iff, List.filter_eq_nil_iff]
        intro other inside
        have found := List.mem_map_of_mem (f := fun member => member.1.text?) inside
        rw [keys] at found
        obtain ⟨own, known, same⟩ := List.mem_map.mp found
        rw [← same, beq_iff_eq, Option.some.injEq, String.toList_inj]
        exact different own known
      have content : field.content? [] (member :: members) = field.change? member.2 := by
        rw [Field.content?, named_cons_of_eq here, absent]
        rfl
      rw [completed?, content, List.map_cons, inOrder?]
      congr
      funext change
      rw [completed?_unknown, ih behind keys]
      exact fun other inside found => different other inside (found.unique here)

/-- An object of all members in the order of the fields is read as an array of them. -/
theorem ofValue?_inOrder
    (keys : (members.map fun member => member.1.text?) =
      form.fields.map fun field => some field.member.key.toList) :
    form.ofValue? (.object members) = form.ofValue? (.array (members.map Prod.snd)) := by
  have decoded : (members.all fun member => member.1.text?.isSome) = true := by
    rw [List.all_eq_true]
    intro member inside
    have found := List.mem_map_of_mem (f := fun member => member.1.text?) inside
    rw [keys] at found
    obtain ⟨_, -, same⟩ := List.mem_map.mp found
    rw [← same]
    rfl
  rw [ofValue?, resume?, if_pos decoded, completed?_inOrder form.apart keys]
  rfl

section Known

variable {field : Field σ} (inside : field ∈ form.fields)
  (text : spelled.Spells field.member.key)
include inside text

theorem resume?_known :
    form.resume? [] ((spelled, value) :: members) record =
      (field.change? value).bind fun change =>
        form.resume? [field.member.key] members (change record) := by
  rw [resume?_cons, text, Option.bind_some, find?_of_mem inside]
  rfl

theorem resume?_replace {other : Value}
    (kept : ∀ change, field.change? value = some change → field.change? other = some change)
    (completed : form.resume? [] ((spelled, value) :: members) record = some result) :
    form.resume? [] ((spelled, other) :: members) record = some result := by
  rw [resume?_known inside text, Option.bind_eq_some_iff] at completed ⊢
  obtain ⟨change, made, completed⟩ := completed
  exact ⟨change, kept change made, completed⟩

theorem resume?_refused (refused : field.change? value = none) :
    form.resume? [] ((spelled, value) :: members) record = none := by
  rw [resume?_known inside text, refused]
  rfl

theorem named_eq_nil
    (completed : form.resume? [] ((spelled, value) :: members) record = some result) :
    named field.member.key members = [] := by
  rw [resume?_known inside text, Option.bind_eq_some_iff] at completed
  obtain ⟨change, -, completed⟩ := completed
  rw [resume?, Option.ite_none_right_eq_some] at completed
  obtain ⟨_, found⟩ := content?_of_completed? completed.2 inside
  exact Field.named_eq_nil_of_content? List.mem_cons_self found

theorem resume?_repeated (present : named field.member.key members ≠ []) :
    form.resume? [] ((spelled, value) :: members) record = none := by
  cases completed : form.resume? [] ((spelled, value) :: members) record with
  | none => rfl
  | some result => exact absurd (named_eq_nil inside text completed) present

theorem resume?_without (isRequired : field.member.isRequired = true)
    (completed : form.resume? [] ((spelled, value) :: members) record = some result) :
    form.resume? [] members record = none := by
  have absent := named_eq_nil inside text completed
  have refused := Field.content?_required isRequired absent List.not_mem_nil
  rw [resume?, completed?_eq_none inside refused, ite_self]

section Default

variable (isOptional : field.member.isRequired = false) {change : σ → σ}
  (default : field.change? value = some change) (kept : change record = record)
include isOptional default kept

/-- A member that holds the default says no more than none. -/
theorem resume?_default (absent : named field.member.key members = []) :
    form.resume? [] ((spelled, value) :: members) record = form.resume? [] members record := by
  have same : ∀ other ∈ form.fields,
      other.content? [field.member.key] members = other.content? [] members := by
    intro other alsoInside
    by_cases different : other.member.key = field.member.key
    · have found := find?_of_mem alsoInside
      rw [different, find?_of_mem inside, Option.some.injEq] at found
      rw [← found, Field.content?_optional isOptional absent,
        Field.content?_optional isOptional absent]
    · exact Field.content?_of_ne different
  rw [resume?_known inside text, default, Option.bind_some, kept, resume?, resume?,
    completed?_congr same]

theorem resume?_omit
    (completed : form.resume? [] ((spelled, value) :: members) record = some result) :
    form.resume? [] members record = some result := by
  have absent := named_eq_nil inside text completed
  rw [← resume?_default inside text isOptional default kept absent]
  exact completed

end Default
end Known
end Form
end ReleaseFeed.Json
