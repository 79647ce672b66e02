import ReleaseFeed.Json.Record
import ReleaseFeed.Proofs.Json.Reading

namespace ReleaseFeed.Json

/-- A member of a record together with the change that it makes of a value. -/
structure Field (σ : Type) where
  member : Member σ
  change? : Value → Option (σ → σ)
  conforms : Conforms member.read change?

namespace Field

variable {σ α : Type}

/-- A member whose value is stored by `store`. -/
def of (key : String) (isRequired : Bool) {read : Reader α} {means : Value → Option α}
    (conforms : Conforms read means) (store : σ → α → σ) : Field σ where
  member := .of key isRequired read store
  change? value := (means value).map fun content record => store record content
  conforms := conforms.map fun content record => store record content

/-- Two members have keys of their own, and neither minds the changes of the other. -/
def Apart (left right : Field σ) : Prop :=
  left.member.key ≠ right.member.key ∧
    ∀ ⦃value other : Value⦄ ⦃change further : σ → σ⦄, left.change? value = some change →
      right.change? other = some further →
        ∀ record, change (further record) = further (change record)

theorem of_apart {β : Type} {key other : String} {isRequired isAlsoRequired : Bool}
    {read : Reader α} {means : Value → Option α} {conforms : Conforms read means}
    {store : σ → α → σ} {otherRead : Reader β} {otherMeans : Value → Option β}
    {otherConforms : Conforms otherRead otherMeans} {otherStore : σ → β → σ}
    (different : key ≠ other) (commute : ∀ record content further,
      store (otherStore record further) content = otherStore (store record content) further) :
    (of key isRequired conforms store).Apart
      (of other isAlsoRequired otherConforms otherStore) := by
  refine ⟨different, ?_⟩
  intro value behind change further found alsoFound record
  obtain ⟨content, -, rfl⟩ := Option.map_eq_some_iff.mp found
  obtain ⟨content, -, rfl⟩ := Option.map_eq_some_iff.mp alsoFound
  exact commute ..

end Field

/-- A literal that stands for the text of a key. -/
abbrev Literal.Spells (spelled : Literal) (key : String) : Prop :=
  spelled.text? = some key.toList

theorem Literal.Spells.unique {spelled : Literal} {key other : String} (here : spelled.Spells key)
    (there : spelled.Spells other) : key = other :=
  String.toList_inj.mp (Option.some.inj (here.symm.trans there))

def named (key : String) (members : Members) : List Value :=
  (members.filter fun member => member.1.text? == some key.toList).map Prod.snd

section Named

variable {key : String} {spelled : Literal} {value : Value} {members : Members}

theorem named_cons_of_eq (same : spelled.Spells key) :
    named key ((spelled, value) :: members) = value :: named key members := by
  simp [named, same]

theorem named_cons_of_ne (different : ¬ spelled.Spells key) :
    named key ((spelled, value) :: members) = named key members := by
  simp [named, different]

theorem exists_of_mem_named (inside : value ∈ named key members) :
    ∃ spelled : Literal, (spelled, value) ∈ members ∧ spelled.Spells key := by
  obtain ⟨⟨spelled, content⟩, filtered, rfl⟩ := List.mem_map.mp inside
  obtain ⟨inside, same⟩ := List.mem_filter.mp filtered
  exact ⟨spelled, inside, beq_iff_eq.mp same⟩

end Named

section Completion

variable {σ : Type}

/-- The change that the members make to a field; a field that was `seen` admits none of them. -/
def Field.content? (field : Field σ) (seen : List String) (members : Members) :
    Option (σ → σ) :=
  match named field.member.key members with
  | [] => if field.member.isRequired && !seen.contains field.member.key then none else some id
  | [value] => if seen.contains field.member.key then none else field.change? value
  | _ :: _ :: _ => none

def completed? : List (Field σ) → List String → Members → σ → Option σ
  | [], _, _, record => some record
  | field :: fields, seen, members, record =>
    (field.content? seen members).bind fun change =>
      completed? fields seen members (change record)

section Content

variable {seen : List String} {spelled : Literal} {value : Value}
  {members : Members}

theorem Field.content?_other {field : Field σ} (different : ¬ spelled.Spells field.member.key) :
    field.content? seen ((spelled, value) :: members) = field.content? seen members := by
  rw [content?, content?, named_cons_of_ne different]

theorem Field.content?_of_ne {field : Field σ} {key : String} (different : field.member.key ≠ key) :
    field.content? (key :: seen) members = field.content? seen members := by
  simp [content?, different]

theorem Field.content?_of_seen {field : Field σ} (same : spelled.Spells field.member.key)
    (wasSeen : field.member.key ∈ seen) :
    field.content? seen ((spelled, value) :: members) = none := by
  rw [content?, named_cons_of_eq same]
  cases named field.member.key members with
  | nil => exact if_pos (List.contains_iff_mem.mpr wasSeen)
  | cons => rfl

/-- A change that a field admits is made by its value or leaves the record as it is. -/
theorem Field.content?_cases {field : Field σ} {change : σ → σ}
    (found : field.content? seen members = some change) :
    change = id ∨ ∃ value, field.change? value = some change := by
  rw [content?] at found
  split at found
  · split at found
    · cases found
    · exact .inl (Option.some.inj found).symm
  · split at found
    · cases found
    · exact .inr ⟨_, found⟩
  · cases found

theorem Field.Apart.commute {left right : Field σ} (apart : left.Apart right) {other : Value}
    {change further : σ → σ} (found : left.content? seen members = some change)
    (alsoFound : right.change? other = some further) (record : σ) :
    change (further record) = further (change record) := by
  rcases Field.content?_cases found with rfl | ⟨value, made⟩
  · rfl
  · exact apart.2 made alsoFound record

end Content

variable {fields : List (Field σ)} {seen : List String} {spelled : Literal} {value : Value}
  {members : Members}

/-- The record depends on its members by what they make of each field. -/
theorem completed?_congr {wasSeen : List String} {others : Members}
    (same : ∀ field ∈ fields, field.content? seen members = field.content? wasSeen others)
    (record : σ) :
    completed? fields seen members record = completed? fields wasSeen others record := by
  induction fields generalizing record with
  | nil => rfl
  | cons field fields ih =>
    obtain ⟨here, later⟩ := List.forall_mem_cons.mp same
    rw [completed?, completed?, here]
    congr
    funext change
    exact ih later (change record)

theorem completed?_unknown
    (unknown : ∀ field ∈ fields, ¬ spelled.Spells field.member.key) (record : σ) :
    completed? fields seen ((spelled, value) :: members) record =
      completed? fields seen members record :=
  completed?_congr (fun field inside => Field.content?_other (unknown field inside)) record

theorem completed?_of_ne {key : String} (different : ∀ field ∈ fields, field.member.key ≠ key)
    (record : σ) :
    completed? fields (key :: seen) members record = completed? fields seen members record :=
  completed?_congr (fun field inside => Field.content?_of_ne (different field inside)) record

theorem completed?_eq_none {field : Field σ} (inside : field ∈ fields)
    (refused : field.content? seen members = none) (record : σ) :
    completed? fields seen members record = none := by
  induction fields generalizing record with
  | nil => cases inside
  | cons first fields ih =>
    rw [completed?]
    rcases List.mem_cons.mp inside with rfl | inside
    · rw [refused]
      rfl
    · rw [Option.bind_eq_none_iff]
      intro change _
      exact ih inside (change record)

/-- The next member changes the record by its own field, ahead of the changes of all others. -/
theorem completed?_known (apart : fields.Pairwise Field.Apart) {field : Field σ}
    (inside : field ∈ fields) (same : spelled.Spells field.member.key)
    (unseen : field.member.key ∉ seen) (record : σ) :
    completed? fields seen ((spelled, value) :: members) record =
      (field.change? value).bind fun change =>
        completed? fields (field.member.key :: seen) members (change record) := by
  induction fields generalizing record with
  | nil => cases inside
  | cons first fields ih =>
    obtain ⟨ahead, behind⟩ := List.pairwise_cons.mp apart
    rcases List.mem_cons.mp inside with rfl | inside
    · have others : ∀ other ∈ fields, other.member.key ≠ field.member.key :=
        fun other inside => (ahead other inside).1.symm
      have unknown : ∀ other ∈ fields, ¬ spelled.Spells other.member.key :=
        fun other inside found => others other inside (found.unique same)
      simp only [completed?, completed?_unknown unknown, completed?_of_ne others]
      cases rest : named field.member.key members with
      | nil => simp [Field.content?, named_cons_of_eq same, rest, unseen]
      | cons second more => cases more <;> simp [Field.content?, named_cons_of_eq same, rest]
    · have different := (ahead field inside).1
      have unknown : ¬ spelled.Spells first.member.key := fun found => different (found.unique same)
      simp only [completed?, ih behind inside, Field.content?_other unknown,
        Field.content?_of_ne different]
      cases made : field.change? value with
      | none => simp
      | some change =>
        rw [Option.bind_some]
        cases found : first.content? seen members with
        | none => rfl
        | some further => simp [(ahead field inside).commute found made]

end Completion
end ReleaseFeed.Json
