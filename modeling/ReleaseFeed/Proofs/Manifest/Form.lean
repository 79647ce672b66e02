import ReleaseFeed.Manifest.Decode
import ReleaseFeed.Proofs.Json.Record

namespace ReleaseFeed

open Json (Conforms Document Form Value)
open Time (Instant)

def instant? (value : Value) : Option Instant :=
  value.text?.bind fun text => (Instant.parse text).toOption

theorem conforms_readInstant : Conforms readInstant instant? := by
  intro value bytes blanks rest written blank ends
  rw [readInstant, toOption_bind, Json.conforms_readText _ written blank ends, instant?]
  cases value.text? with
  | none => rfl
  | some text =>
    rw [Option.map_some, Option.bind_some, Option.bind_some]
    dsimp only
    cases Instant.parse text <;> rfl

section Forms

open Json (conforms_list conforms_optional conforms_string)

def ItemRecord.form : Form ItemRecord where
  schema := schema
  fields := [
    .of "author" false conforms_string fun record author => { record with author },
    .of "commit" false conforms_string fun record commit => { record with commit },
    .of "body" false conforms_string fun record body => { record with body }]
  members_eq := rfl
  apart := by simp [Json.Field.of_apart]

def EntryRecord.form : Form EntryRecord where
  schema := schema
  fields := [
    .of "version" true conforms_string fun record version => { record with version },
    .of "date" true conforms_readInstant fun record date => { record with date },
    .of "items" false (conforms_list ItemRecord.form.conforms)
      fun record items => { record with items }]
  members_eq := rfl
  apart := by simp [Json.Field.of_apart]

def VersionRecord.form : Form VersionRecord where
  schema := schema
  fields := [
    .of "version" true conforms_string fun record version => { record with version },
    .of "name" false (conforms_optional conforms_string) fun record name => { record with name },
    .of "date" true conforms_readInstant fun record date => { record with date }]
  members_eq := rfl
  apart := by simp [Json.Field.of_apart]

def ChannelRecord.form : Form ChannelRecord where
  schema := schema
  fields := [
    .of "name" true conforms_string fun record name => { record with name },
    .of "description" false conforms_string fun record description => { record with description },
    .of "versions" false (conforms_list VersionRecord.form.conforms)
      fun record versions => { record with versions },
    .of "changelog" false (conforms_list EntryRecord.form.conforms)
      fun record changelog => { record with changelog }]
  members_eq := rfl
  apart := by simp [Json.Field.of_apart]

def Manifest.form : Form Manifest where
  schema := schema
  fields := [
    .of "channels" true (conforms_list ChannelRecord.form.conforms)
      fun record channels => { record with channels }]
  members_eq := rfl
  apart := List.pairwise_singleton ..

end Forms

section Parsing

variable {value : Value} {payload : List UInt8}

theorem not_all_isPayloadBlank (written : Document value payload) :
    ¬ payload.all isPayloadBlank = true := by
  cases written with
  | of blankAhead written blankBehind =>
    obtain ⟨byte, tail, rfl, opens⟩ := written.opens
    intro blank
    have visible := opens.apart.1
    have notBlank := List.all_eq_true.mp blank byte (by simp)
    rw [isPayloadBlank, visible, Bool.false_or, beq_iff_eq] at notBlank
    have apart : ∀ digit, Json.digitByte digit ≠ 0x0C := by decide
    cases value with
    | boolean value => cases value <;> subst opens <;> contradiction
    | number literal =>
      change byte = if literal.isNegative then _ else _ at opens
      rw [opens] at notBlank
      split at notBlank
      · contradiction
      · exact apart _ notBlank
    | _ =>
      subst opens
      contradiction

/-- A document is parsed as what its value stands for. -/
theorem Manifest.parse_document (written : Document value payload) :
    (parse payload).toOption = form.ofValue? value := by
  have read := Json.document_of_conforms form.conforms written
  rw [parse, if_neg (not_all_isPayloadBlank written)]
  change (Json.document schema.read payload).toOption = _ at read
  cases result : Json.document schema.read payload <;> simp [result, ← read]

/-- A document whose value stands for no manifest is malformed. -/
theorem Manifest.parse_malformed (written : Document value payload)
    (refused : form.ofValue? value = none) :
    ∃ line column details, parse payload = .error (.malformed line column details) := by
  have failed := Manifest.parse_document written
  rw [parse, if_neg (not_all_isPayloadBlank written)] at failed ⊢
  cases result : Json.document schema.read payload with
  | ok manifest => simp [result, refused] at failed
  | error fault => exact ⟨_, _, _, rfl⟩

end Parsing
end ReleaseFeed
