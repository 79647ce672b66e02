import ReleaseFeed.Json.Record
import ReleaseFeed.Proofs.Traversal

namespace ReleaseFeed.Json

/-- The reader gives nothing but values of which `holds` is true. -/
def Gives {α : Type} (read : Reader α) (holds : α → Prop) : Prop :=
  ∀ ⦃bytes : List UInt8⦄ ⦃value : α⦄ ⦃rest : List UInt8⦄,
    read bytes = .ok (value, rest) → holds value

section Values

variable {α : Type} {read : Reader α} {holds : α → Prop}

theorem gives_true (read : Reader α) : Gives read fun _ => True :=
  fun _ _ _ _ => trivial

theorem Gives.imp {more : α → Prop} (gives : Gives read holds)
    (implies : ∀ value, holds value → more value) : Gives read more :=
  fun _ _ _ found => implies _ (gives found)

theorem gives_onValue (gives : Gives read holds) : Gives (onValue read) holds := by
  intro bytes value rest found
  rw [onValue] at found
  split at found
  · cases found
  · exact gives found

theorem gives_readElements (gives : Gives read holds) (fuel : Nat) (isFirst : Bool) :
    Gives (readElements read fuel isFirst) fun values => ∀ value ∈ values, holds value := by
  induction fuel generalizing isFirst with
  | zero =>
    intro bytes values rest found
    cases found
  | succ fuel ih =>
    intro bytes values rest found
    rw [readElements, bind_eq_ok_iff] at found
    obtain ⟨⟨goesOn, behind⟩, -, found⟩ := found
    cases goesOn with
    | false =>
      obtain ⟨rfl, -⟩ := Prod.mk.inj (Except.ok.inj found)
      simp
    | true =>
      change (read behind >>= _) = _ at found
      obtain ⟨⟨first, left⟩, here, found⟩ := bind_eq_ok_iff.mp found
      obtain ⟨⟨others, left⟩, later, found⟩ := bind_eq_ok_iff.mp found
      obtain ⟨rfl, -⟩ := Prod.mk.inj (Except.ok.inj found)
      exact List.forall_mem_cons.mpr ⟨gives here, ih false later⟩

theorem gives_list (gives : Gives read holds) :
    Gives (list read) fun values => ∀ value ∈ values, holds value := by
  apply gives_onValue
  intro bytes values rest found
  dsimp only at found
  split at found
  · obtain ⟨⟨elements, left⟩, here, found⟩ := bind_eq_ok_iff.mp found
    obtain ⟨behind, -, found⟩ := bind_eq_ok_iff.mp found
    obtain ⟨rfl, -⟩ := Prod.mk.inj (Except.ok.inj found)
    exact gives_readElements gives _ _ here
  · cases found

theorem gives_document (gives : Gives read holds) {bytes : List UInt8} {value : α}
    (found : document read bytes = .ok value) : holds value := by
  obtain ⟨⟨first, rest⟩, here, found⟩ := bind_eq_ok_iff.mp found
  dsimp only at found
  split at found
  · obtain rfl := Except.ok.inj found
    exact gives here
  · cases found

end Values

section Records

variable {σ : Type}

/-- A property of a record and the keys that were seen for it, which every member keeps. -/
structure Schema.Keeps (schema : Schema σ) (keeps : List String → σ → Prop) : Prop where
  blank : keeps [] schema.blank
  change : ∀ member ∈ schema.members, Gives member.read fun change =>
    ∀ seen record, keeps seen record → keeps (member.key :: seen) (change record)

theorem keeps_member {α : Type} {key : String} {isRequired : Bool} {read : Reader α}
    {holds : α → Prop} {store : σ → α → σ} {keeps : List String → σ → Prop}
    (gives : Gives read holds)
    (stored : ∀ content, holds content → ∀ seen record, keeps seen record →
      keeps (key :: seen) (store record content)) :
    Gives (Member.of key isRequired read store).read fun change =>
      ∀ seen record, keeps seen record → keeps (key :: seen) (change record) := by
  intro bytes change rest found
  obtain ⟨⟨content, left⟩, here, found⟩ := bind_eq_ok_iff.mp found
  obtain ⟨rfl, -⟩ := Prod.mk.inj (Except.ok.inj found)
  exact stored content (gives here)

/-- A member of another key keeps what holds once a key was seen. -/
theorem keeps_member_of_ne {α : Type} {key known : String} {isRequired : Bool} {read : Reader α}
    {store : σ → α → σ} {holds : σ → Prop} (different : known ≠ key)
    (stored : ∀ record content, holds record → holds (store record content)) :
    Gives (Member.of key isRequired read store).read fun change =>
      ∀ seen record, (known ∈ seen → holds record) → known ∈ key :: seen →
        holds (change record) := by
  refine keeps_member (gives_true read) ?_
  intro content _ seen record before inside
  exact stored record content (before ((List.mem_cons.mp inside).resolve_left different))

variable {schema : Schema σ} {keeps : List String → σ → Prop} (kept : schema.Keeps keeps)
include kept

theorem gives_readMembers (fuel : Nat) (isFirst : Bool) {seen : List String} {record : σ}
    (before : keeps seen record) :
    Gives (schema.readMembers fuel isFirst seen record) fun read => keeps read.1 read.2 := by
  induction fuel generalizing isFirst seen record with
  | zero =>
    intro bytes read rest found
    cases found
  | succ fuel ih =>
    intro bytes read rest found
    rw [Schema.readMembers, bind_eq_ok_iff] at found
    obtain ⟨⟨goesOn, behind⟩, -, found⟩ := found
    cases goesOn with
    | false =>
      obtain ⟨rfl, -⟩ := Prod.mk.inj (Except.ok.inj found)
      exact before
    | true =>
      change (readString behind >>= _) = _ at found
      obtain ⟨⟨key, left⟩, -, found⟩ := bind_eq_ok_iff.mp found
      dsimp only at found
      split at found
      · obtain ⟨_, -, found⟩ := bind_eq_ok_iff.mp found
        obtain ⟨_, -, found⟩ := bind_eq_ok_iff.mp found
        exact ih false before found
      · rename_i member known
        split at found
        · cases found
        · obtain ⟨_, -, found⟩ := bind_eq_ok_iff.mp found
          obtain ⟨⟨change, _⟩, made, found⟩ := bind_eq_ok_iff.mp found
          have inside : member ∈ schema.members := List.mem_of_find?_eq_some known
          exact ih false (kept.change member inside made seen record before) found

/-- A record in array form is built as if its elements had keys. -/
theorem exists_keeps_of_readInOrder {members : List (Member σ)}
    (inside : ∀ member ∈ members, member ∈ schema.members) {index : Nat} {seen : List String}
    {record result : σ} {bytes rest : List UInt8} (before : keeps seen record)
    (found : schema.readInOrder members index record bytes = .ok (result, rest)) :
    ∃ keys, keeps keys result ∧ (∀ key ∈ seen, key ∈ keys) ∧
      ∀ member ∈ members, member.isRequired = true → member.key ∈ keys := by
  induction members generalizing index seen record bytes with
  | nil =>
    obtain ⟨rfl, -⟩ := Prod.mk.inj (Except.ok.inj found)
    exact ⟨seen, before, fun _ known => known, by simp⟩
  | cons member members ih =>
    obtain ⟨here, later⟩ := List.forall_mem_cons.mp inside
    rw [Schema.readInOrder, bind_eq_ok_iff] at found
    obtain ⟨⟨goesOn, behind⟩, -, found⟩ := found
    cases goesOn with
    | true =>
      change (member.read behind >>= _) = _ at found
      obtain ⟨⟨change, left⟩, made, found⟩ := bind_eq_ok_iff.mp found
      obtain ⟨keys, holds, kept, required⟩ :=
        ih later (kept.change member here made seen record before) found
      obtain ⟨known, kept⟩ := List.forall_mem_cons.mp kept
      exact ⟨keys, holds, kept, List.forall_mem_cons.mpr ⟨fun _ => known, required⟩⟩
    | false =>
      change (if member.isRequired then _ else _) = _ at found
      split at found
      · cases found
      · rename_i isOptional
        obtain ⟨keys, holds, kept, required⟩ := ih later before found
        refine ⟨keys, holds, kept, List.forall_mem_cons.mpr ⟨?_, required⟩⟩
        intro isRequired
        contradiction

/-- A record that was read was built with all required members. -/
theorem gives_record : Gives schema.read fun record =>
    ∃ keys, keeps keys record ∧
      ∀ member ∈ schema.members, member.isRequired = true → member.key ∈ keys := by
  apply gives_onValue
  intro bytes record rest found
  dsimp only at found
  split at found
  · obtain ⟨⟨⟨keys, built⟩, left⟩, made, found⟩ := bind_eq_ok_iff.mp found
    dsimp only at found
    split at found
    · cases found
    · rename_i complete
      obtain ⟨rfl, -⟩ := Prod.mk.inj (Except.ok.inj found)
      refine ⟨keys, gives_readMembers kept _ _ kept.blank made, ?_⟩
      intro member inside isRequired
      simpa [isRequired] using List.find?_eq_none.mp complete member inside
  · obtain ⟨⟨built, left⟩, made, found⟩ := bind_eq_ok_iff.mp found
    obtain ⟨_, -, found⟩ := bind_eq_ok_iff.mp found
    obtain ⟨rfl, -⟩ := Prod.mk.inj (Except.ok.inj found)
    obtain ⟨keys, holds, -, required⟩ :=
      exists_keeps_of_readInOrder kept (fun _ inside => inside) kept.blank made
    exact ⟨keys, holds, required⟩
  · cases found

end Records
end ReleaseFeed.Json
