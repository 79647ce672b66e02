import ReleaseFeed.Proofs.Json.Sound
import ReleaseFeed.Proofs.Manifest.Form

namespace ReleaseFeed

open Json (Document Literal Members Sound Value openArray openObject)
open Text.Utf8 (repair repairs_ascii)

theorem sound_readInstant : Sound readInstant instant? := by
  intro bytes rest instant found
  rw [readInstant, bind_eq_ok_iff] at found
  obtain ⟨⟨text, left⟩, here, found⟩ := found
  obtain ⟨value, stands, meant⟩ := Json.sound_readText _ here
  dsimp only at found
  split at found
  · rename_i parsed
    obtain ⟨rfl, rfl⟩ := Prod.mk.inj (Except.ok.inj found)
    refine ⟨value, stands, ?_⟩
    rw [instant?, meant, Option.bind_some, parsed]
    rfl
  · cases found

section Forms

open Json (sound_list sound_optional sound_string)

theorem ItemRecord.sound : Sound schema.read form.ofValue? := by
  apply form.sound
  simp only [form, List.forall_mem_cons]
  exact ⟨sound_string.field, sound_string.field, sound_string.field, List.forall_mem_nil _⟩

theorem EntryRecord.sound : Sound schema.read form.ofValue? := by
  apply form.sound
  simp only [form, List.forall_mem_cons]
  exact ⟨sound_string.field, sound_readInstant.field, (sound_list ItemRecord.sound).field,
    List.forall_mem_nil _⟩

theorem VersionRecord.sound : Sound schema.read form.ofValue? := by
  apply form.sound
  simp only [form, List.forall_mem_cons]
  exact ⟨sound_string.field, (sound_optional sound_string rfl).field, sound_readInstant.field,
    List.forall_mem_nil _⟩

theorem ChannelRecord.sound : Sound schema.read form.ofValue? := by
  apply form.sound
  simp only [form, List.forall_mem_cons]
  exact ⟨sound_string.field, sound_string.field, (sound_list VersionRecord.sound).field,
    (sound_list EntryRecord.sound).field, List.forall_mem_nil _⟩

theorem Manifest.sound : Sound schema.read form.ofValue? := by
  apply form.sound
  simp only [form, List.forall_mem_cons]
  exact ⟨(sound_list ChannelRecord.sound).field, List.forall_mem_nil _⟩

end Forms

/-- An object with a member `channels` that holds the elements as an array. -/
inductive HoldsChannels (elements : List Value) : Value → Prop where
  | of {members : Members} {spelled : Literal} (inside : (spelled, .array elements) ∈ members)
      (key : spelled.Spells "channels") : HoldsChannels elements (.object members)

/-- Whether a payload shows an object with a list of channels, up to repair. -/
def ShowsChannels (payload : List UInt8) : Prop :=
  ∃ value elements, Document value (repair payload) ∧ HoldsChannels elements value

/-- Whether a payload shows an array of nothing but an array, up to repair. -/
def ShowsBareList (payload : List UInt8) : Prop :=
  ∃ elements, Document (.array [.array elements]) (repair payload)

/-- No payload shows both: an object and an array start differently. -/
theorem not_showsBareList {payload : List UInt8} (shows : ShowsChannels payload) :
    ¬ ShowsBareList payload := by
  rintro ⟨others, array⟩
  obtain ⟨_, elements, object, inside, key⟩ := shows
  obtain ⟨first, tail, starts, opens⟩ := object.opens
  obtain ⟨other, behind, alsoStarts, alsoOpens⟩ := array.opens
  obtain ⟨rfl, -⟩ := List.cons.inj (starts.symm.trans alsoStarts)
  have same : openObject = openArray := opens.symm.trans alsoOpens
  contradiction

namespace Manifest

variable {value : Value} {payload : List UInt8} {manifest : Manifest}

/-- A payload that was parsed is a document of the manifest. -/
theorem exists_document_of_parse (parsed : parse payload = .ok manifest) :
    ∃ value, Document value (repair payload) ∧ form.ofValue? value = some manifest := by
  unfold parse at parsed
  split at parsed
  · cases parsed
  split at parsed
  · rename_i read
    obtain rfl := Except.ok.inj parsed
    exact Json.exists_document sound read
  · cases parsed

theorem ofValue?_of_parse (parsed : parse payload = .ok manifest)
    (written : Document value (repair payload)) : form.ofValue? value = some manifest := by
  obtain ⟨other, alsoWritten, taken⟩ := exists_document_of_parse parsed
  rw [← parse_document written, parse_document alsoWritten, taken]

/-- A payload that writes no manifest is malformed, up to repair. -/
theorem malformed_of_document (written : Document value (repair payload))
    (refused : ∀ manifest, parse payload ≠ .ok manifest) :
    ∃ line column details, parse payload = .error (.malformed line column details) := by
  have visible : ¬ payload.all isPayloadBlank = true := by
    intro blank
    have ascii : ∀ byte ∈ payload, byte.toNat < 0x80 := by
      intro byte inside
      have isBlank := List.all_eq_true.mp blank byte inside
      rw [isPayloadBlank, Bool.or_eq_true, Json.isBlank_iff, beq_iff_eq] at isBlank
      rcases isBlank with (rfl | rfl | rfl | rfl) | rfl <;> decide
    rw [(repairs_ascii ascii).eq] at written
    exact not_all_isPayloadBlank written blank
  rw [parse, if_neg visible] at refused ⊢
  cases result : Json.document schema.read payload with
  | ok manifest =>
    rw [result] at refused
    exact absurd rfl (refused manifest)
  | error fault => exact ⟨_, _, _, rfl⟩

/-- A value that is taken as a list of channels is an array of channels. -/
theorem exists_elements_of_list {change : Manifest → Manifest}
    (taken : (Value.list? ChannelRecord.form.ofValue? value).map
      (fun channels record => { record with channels }) = some change) :
    ∃ elements, value = .array elements ∧ ∀ record : Manifest,
      elements.mapM ChannelRecord.form.ofValue? = some (change record).channels := by
  obtain ⟨channels, listed, rfl⟩ := Option.map_eq_some_iff.mp taken
  cases value with
  | array elements => exact ⟨elements, rfl, fun _ => listed⟩
  | _ => cases listed

/-- A value that is taken as a manifest holds a list of channels. -/
theorem exists_elements_of_ofValue? (taken : form.ofValue? value = some manifest) :
    ∃ elements, (HoldsChannels elements value ∨ value = .array [.array elements]) ∧
      elements.mapM ChannelRecord.form.ofValue? = some manifest.channels := by
  cases value with
  | object members =>
    change form.resume? [] members _ = _ at taken
    rw [Json.Form.resume?, Option.ite_none_right_eq_some] at taken
    obtain ⟨change, content, completed⟩ := Option.bind_eq_some_iff.mp taken.2
    obtain rfl := Option.some.inj completed
    unfold Json.Field.content? at content
    split at content
    · cases content
    · rename_i value named
      obtain ⟨elements, rfl, listed⟩ := exists_elements_of_list content
      obtain ⟨spelled, inside, key⟩ := Json.exists_of_mem_named (named ▸ List.mem_singleton_self _)
      exact ⟨elements, .inl (.of inside key), listed _⟩
    · cases content
  | array values =>
    change Json.Form.inOrder? form.fields values _ = _ at taken
    cases values with
    | nil => cases taken
    | cons value others =>
      obtain ⟨change, content, completed⟩ := Option.bind_eq_some_iff.mp taken
      cases others with
      | nil =>
        obtain rfl := Option.some.inj completed
        obtain ⟨elements, rfl, listed⟩ := exists_elements_of_list content
        exact ⟨elements, .inr rfl, listed _⟩
      | cons => cases completed
  | _ => cases taken

end Manifest
end ReleaseFeed
