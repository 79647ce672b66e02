import Mathlib.Logic.Relation
import ReleaseFeed.Proofs.Manifest.RoundTrip
/-!
Changes of a document that a reader does or does not mind. Main statement: reordered, unknown and
defaulted members leave the parsed manifest as it is, wherever they stand; a record without a
required member or with a repeated one is malformed.
-/
namespace ReleaseFeed

open Json (Document Form Literal Members Value)

inductive RecordKind where
  | manifest
  | channel
  | version
  | entry
  | item

namespace RecordKind

def required : RecordKind → List String
  | manifest => ["channels"]
  | channel => ["name"]
  | version => ["version", "date"]
  | entry => ["version", "date"]
  | item => []

/-- The members that a record may leave out, each with the value that says the same. -/
def optional : RecordKind → List (String × Value)
  | manifest => []
  | channel => [("description", .string []), ("versions", .array []), ("changelog", .array [])]
  | version => [("name", .null)]
  | entry => [("items", .array [])]
  | item => [("author", .string []), ("commit", .string []), ("body", .string [])]

def keys (kind : RecordKind) : List String := kind.required ++ kind.optional.map Prod.fst

/-- The members that list records, with the kind of those. -/
def lists : RecordKind → List (String × RecordKind)
  | manifest => [("channels", channel)]
  | channel => [("versions", version), ("changelog", entry)]
  | version => []
  | entry => [("items", item)]
  | item => []

end RecordKind

/-- Two values that differ by one change of the members of one record, at any depth. -/
inductive Within (change : RecordKind → Members → Members → Prop) :
    RecordKind → Value → Value → Prop where
  | here {kind : RecordKind} {members others : Members} (changed : change kind members others) :
      Within change kind (.object members) (.object others)
  | inside {kind inner : RecordKind} {front back : Members} {key : Literal} {name : String}
      {before behind : List Value} {old new : Value} (spelled : key.Spells name)
      (listed : (name, inner) ∈ kind.lists) (within : Within change inner old new) :
      Within change kind (.object (front ++ (key, .array (before ++ old :: behind)) :: back))
        (.object (front ++ (key, .array (before ++ new :: behind)) :: back))

/-- A change of members that readers do not mind. -/
inductive Tolerated : RecordKind → Members → Members → Prop where
  | reorder {kind : RecordKind} {members others : Members} (permuted : members.Perm others) :
      Tolerated kind members others
  | unknown {kind : RecordKind} {front back : Members} {key : Literal} {text : List Char}
      (spelled : key.text? = some text) (foreign : ∀ name ∈ kind.keys, name.toList ≠ text)
      (value : Value) : Tolerated kind (front ++ back) (front ++ (key, value) :: back)
  | leaveOut {kind : RecordKind} {front back : Members} {key : Literal} {name : String}
      {default : Value} (spelled : key.Spells name)
      (isOptional : (name, default) ∈ kind.optional) :
      Tolerated kind (front ++ (key, default) :: back) (front ++ back)
  | spellOut {kind : RecordKind} {front back : Members} {key : Literal} {name : String}
      {default : Value} (spelled : key.Spells name)
      (isOptional : (name, default) ∈ kind.optional)
      (absent : ∀ member ∈ front ++ back, ¬ member.1.Spells name) :
      Tolerated kind (front ++ back) (front ++ (key, default) :: back)

/-- A change of members that no reader accepts. -/
inductive Fatal : RecordKind → Members → Members → Prop where
  | missing {kind : RecordKind} {front back : Members} {key : Literal} {name : String}
      {value : Value} (spelled : key.Spells name) (isRequired : name ∈ kind.required) :
      Fatal kind (front ++ (key, value) :: back) (front ++ back)
  | repeated {kind : RecordKind} {front back : Members} {key : Literal} {name : String}
      {value : Value} (spelled : key.Spells name) (known : name ∈ kind.keys)
      (present : ∃ member ∈ front ++ back, member.1.Spells name) :
      Fatal kind (front ++ back) (front ++ (key, value) :: back)

namespace RecordKind

/-- What a record of a kind is read as. -/
abbrev Record : RecordKind → Type
  | manifest => Manifest
  | channel => ChannelRecord
  | version => VersionRecord
  | entry => EntryRecord
  | item => ItemRecord

def form : (kind : RecordKind) → Form kind.Record
  | manifest => Manifest.form
  | channel => ChannelRecord.form
  | version => VersionRecord.form
  | entry => EntryRecord.form
  | item => ItemRecord.form

variable {kind inner : RecordKind} {name : String} {default : Value}

theorem mem_keys_of_field {field : Json.Field kind.Record} (inside : field ∈ kind.form.fields) :
    field.member.key ∈ kind.keys := by
  have same : (kind.form.fields.map fun field => field.member.key).Perm kind.keys := by
    cases kind <;> decide
  exact same.mem_iff.mp (List.mem_map_of_mem inside)

theorem exists_required (isRequired : name ∈ kind.required) :
    ∃ field ∈ kind.form.fields, field.member.key = name ∧ field.member.isRequired = true := by
  have known : ∀ name ∈ kind.required, (name, true) ∈
      kind.form.fields.map fun field => (field.member.key, field.member.isRequired) := by
    cases kind <;> decide
  obtain ⟨field, inside, same⟩ := List.mem_map.mp (known name isRequired)
  exact ⟨field, inside, Prod.mk.inj same⟩

/-- The value of an optional member that says the same as none changes nothing. -/
theorem exists_optional (isOptional : (name, default) ∈ kind.optional) :
    ∃ field ∈ kind.form.fields, field.member.key = name ∧ field.member.isRequired = false ∧
      ∃ change, field.change? default = some change ∧
        change kind.form.schema.blank = kind.form.schema.blank := by
  cases kind with
  | manifest => cases isOptional
  | channel =>
    simp only [optional, List.mem_cons, Prod.mk.injEq, List.not_mem_nil, or_false] at isOptional
    rcases isOptional with ⟨rfl, rfl⟩ | ⟨rfl, rfl⟩ | ⟨rfl, rfl⟩
    · exact ⟨_, .tail _ (.head _), rfl, rfl, _, rfl, rfl⟩
    · exact ⟨_, .tail _ (.tail _ (.head _)), rfl, rfl, _, rfl, rfl⟩
    · exact ⟨_, .tail _ (.tail _ (.tail _ (.head _))), rfl, rfl, _, rfl, rfl⟩
  | version =>
    obtain ⟨rfl, rfl⟩ := Prod.mk.inj (List.mem_singleton.mp isOptional)
    exact ⟨_, .tail _ (.head _), rfl, rfl, _, rfl, rfl⟩
  | entry =>
    obtain ⟨rfl, rfl⟩ := Prod.mk.inj (List.mem_singleton.mp isOptional)
    exact ⟨_, .tail _ (.tail _ (.head _)), rfl, rfl, _, rfl, rfl⟩
  | item =>
    simp only [optional, List.mem_cons, Prod.mk.injEq, List.not_mem_nil, or_false] at isOptional
    rcases isOptional with ⟨rfl, rfl⟩ | ⟨rfl, rfl⟩ | ⟨rfl, rfl⟩
    · exact ⟨_, .head _, rfl, rfl, _, rfl, rfl⟩
    · exact ⟨_, .tail _ (.head _), rfl, rfl, _, rfl, rfl⟩
    · exact ⟨_, .tail _ (.tail _ (.head _)), rfl, rfl, _, rfl, rfl⟩

theorem exists_known (known : name ∈ kind.keys) :
    ∃ field ∈ kind.form.fields, field.member.key = name := by
  rcases List.mem_append.mp known with isRequired | isOptional
  · obtain ⟨field, inside, same, -⟩ := exists_required isRequired
    exact ⟨field, inside, same⟩
  · obtain ⟨⟨_, default⟩, listed, rfl⟩ := List.mem_map.mp isOptional
    obtain ⟨field, inside, same, -⟩ := exists_optional listed
    exact ⟨field, inside, same⟩

/-- A member that lists records makes its change of what those are read as. -/
theorem exists_list (listed : (name, inner) ∈ kind.lists) :
    ∃ field ∈ kind.form.fields, field.member.key = name ∧
      ∃ store : List inner.Record → kind.Record → kind.Record, ∀ elements,
        field.change? (.array elements) = (elements.mapM inner.form.ofValue?).map store := by
  cases kind with
  | manifest =>
    obtain ⟨rfl, rfl⟩ := Prod.mk.inj (List.mem_singleton.mp listed)
    exact ⟨_, .head _, rfl, _, fun _ => rfl⟩
  | channel =>
    simp only [lists, List.mem_cons, Prod.mk.injEq, List.not_mem_nil, or_false] at listed
    rcases listed with ⟨rfl, rfl⟩ | ⟨rfl, rfl⟩
    · exact ⟨_, .tail _ (.tail _ (.head _)), rfl, _, fun _ => rfl⟩
    · exact ⟨_, .tail _ (.tail _ (.tail _ (.head _))), rfl, _, fun _ => rfl⟩
  | version => cases listed
  | entry =>
    obtain ⟨rfl, rfl⟩ := Prod.mk.inj (List.mem_singleton.mp listed)
    exact ⟨_, .tail _ (.tail _ (.head _)), rfl, _, fun _ => rfl⟩
  | item => cases listed

end RecordKind

section Objects

variable {kind : RecordKind} {members others : Members} {record : kind.Record}

theorem ofValue?_middle (front back : Members) (member : Literal × Value) :
    kind.form.ofValue? (.object (front ++ member :: back)) =
      kind.form.ofValue? (.object (member :: (front ++ back))) :=
  Form.resume?_perm List.perm_middle

theorem named_eq_nil_iff {name : String} :
    Json.named name members = [] ↔ ∀ member ∈ members, ¬ member.1.Spells name := by
  simp [Json.named, List.filter_eq_nil_iff]

theorem Tolerated.ofValue? (tolerated : Tolerated kind members others)
    (read : kind.form.ofValue? (.object members) = some record) :
    kind.form.ofValue? (.object others) = some record := by
  cases tolerated with
  | reorder permuted =>
    rw [← read]
    exact (Form.resume?_perm permuted).symm
  | @unknown front back key text spelled foreign value =>
    rw [ofValue?_middle, ← read]
    apply Form.resume?_unknown text spelled
    exact fun field inside => foreign _ (RecordKind.mem_keys_of_field inside)
  | leaveOut spelled isOptional =>
    obtain ⟨field, inside, rfl, free, change, made, kept⟩ := RecordKind.exists_optional isOptional
    rw [ofValue?_middle] at read
    exact Form.resume?_omit inside spelled free made kept read
  | spellOut spelled isOptional absent =>
    obtain ⟨field, inside, rfl, free, change, made, kept⟩ := RecordKind.exists_optional isOptional
    rw [ofValue?_middle, ← read]
    exact Form.resume?_default inside spelled free made kept (named_eq_nil_iff.mpr absent)

theorem Fatal.ofValue? (fatal : Fatal kind members others)
    (read : kind.form.ofValue? (.object members) = some record) :
    kind.form.ofValue? (.object others) = none := by
  cases fatal with
  | missing spelled isRequired =>
    obtain ⟨field, inside, rfl, requires⟩ := RecordKind.exists_required isRequired
    rw [ofValue?_middle] at read
    exact Form.resume?_without inside spelled requires read
  | repeated spelled known present =>
    obtain ⟨field, inside, rfl⟩ := RecordKind.exists_known known
    obtain ⟨member, among, same⟩ := present
    rw [ofValue?_middle]
    refine Form.resume?_repeated inside spelled ?_
    exact fun absent => named_eq_nil_iff.mp absent member among same

end Objects

section Values

variable {change : RecordKind → Members → Members → Prop} {kind : RecordKind} {old new : Value}

/-- What a change of one record leaves as it is, it leaves as it is at any depth. -/
theorem Within.kept (kept : ∀ {kind members others} {record : RecordKind.Record kind},
      change kind members others → kind.form.ofValue? (.object members) = some record →
        kind.form.ofValue? (.object others) = some record)
    (within : Within change kind old new) {record : kind.Record}
    (read : kind.form.ofValue? old = some record) : kind.form.ofValue? new = some record := by
  induction within with
  | here changed => exact kept changed read
  | inside spelled listed _ ih =>
    obtain ⟨field, inside, rfl, store, made⟩ := RecordKind.exists_list listed
    rw [ofValue?_middle] at read ⊢
    refine Form.resume?_replace inside spelled ?_ read
    intro change found
    rw [made, Option.map_eq_some_iff] at found ⊢
    obtain ⟨records, elements, rfl⟩ := found
    exact ⟨records, mapM_replace (fun _ => ih) elements, rfl⟩

/-- What a change of one record makes unreadable, it makes unreadable at any depth. -/
theorem Within.refused (refused : ∀ {kind members others} {record : RecordKind.Record kind},
      change kind members others → kind.form.ofValue? (.object members) = some record →
        kind.form.ofValue? (.object others) = none)
    (within : Within change kind old new) {record : kind.Record}
    (read : kind.form.ofValue? old = some record) : kind.form.ofValue? new = none := by
  induction within with
  | here changed => exact refused changed read
  | inside spelled listed _ ih =>
    obtain ⟨field, inside, rfl, store, made⟩ := RecordKind.exists_list listed
    rw [ofValue?_middle] at read ⊢
    rw [Form.ofValue?, Form.resume?_known inside spelled, Option.bind_eq_some_iff] at read
    obtain ⟨_, found, -⟩ := read
    rw [made, Option.map_eq_some_iff] at found
    obtain ⟨_, elements, -⟩ := found
    obtain ⟨_, element⟩ := exists_of_mapM_middle elements
    apply Form.resume?_refused inside spelled
    rw [made, mapM_middle_eq_none (ih element)]
    rfl

end Values

/-- A document keeps its manifest through tolerated changes in any number of places and in any
spacing, and is malformed after a fatal one. -/
theorem Manifest.parse_edited {document : Value} {payload : List UInt8} {manifest : Manifest}
    (written : Document document payload) (parsed : parse payload = .ok manifest) {edited : Value}
    (edits : Relation.ReflTransGen (Within Tolerated .manifest) document edited) :
    (∀ bytes, Document edited bytes → parse bytes = .ok manifest) ∧
      ∀ broken bytes, Within Fatal .manifest edited broken → Document broken bytes →
        ∃ line column details, parse bytes = .error (.malformed line column details) := by
  have read : RecordKind.manifest.form.ofValue? edited = some manifest := by
    induction edits with
    | refl =>
      have here := parse_document written
      rw [parsed] at here
      exact here.symm
    | tail _ edit ih => exact edit.kept Tolerated.ofValue? ih
  constructor
  · intro bytes rewritten
    have again := parse_document rewritten
    rw [show form.ofValue? edited = some manifest from read] at again
    exact toOption_eq_some_iff.mp again
  · intro broken bytes fatal rewritten
    exact parse_malformed rewritten (fatal.refused Fatal.ofValue? read)

section Example

open Json (Writes writeArray writeObject writeString writes_array writes_object writes_text)
open Text.Utf8 (encode)

/-- A document of one channel with the given members. -/
def ofChannel (members : List (String × Value)) : Value :=
  .ofMembers [("channels", .array [.ofMembers members])]

/-- The bytes of such a document behind an empty line. -/
def channelPayload (members : List (String × List Char)) : List UInt8 :=
  0x0A :: encode (writeObject [("channels", writeArray [writeObject members])])

theorem document_ofChannel {members : List (String × Value)} {texts : List (String × List Char)}
    (each : List.Forall₂ (fun member text => member.1 = text.1 ∧ Writes member.2 (encode text.2))
      members texts) : Document (ofChannel members) (channelPayload texts) := by
  have channels := writes_array (.cons (writes_object each) .nil)
  have writes : Writes (ofChannel members) (encode (writeObject [("channels", _)])) :=
    writes_object (.cons ⟨rfl, channels⟩ .nil)
  have blank : Json.Blank [0x0A] := by
    intro byte inside
    obtain rfl := List.mem_singleton.mp inside
    rfl
  have written := Document.of blank writes Json.blank_nil
  rw [List.append_nil] at written
  exact written

theorem within_ofChannel {change : RecordKind → Members → Members → Prop} {front back : Members}
    (changed : change .channel front back) :
    Within change .manifest (.object [(.ofText "channels".toList, .array [.object front])])
      (.object [(.ofText "channels".toList, .array [.object back])]) :=
  @Within.inside _ _ _ [] [] _ _ [] [] _ _ (Literal.text?_ofText _) (.head _) (.here changed)

theorem Manifest.parse_edited_ofChannel :
    parse (channelPayload [("description", writeString ""), ("name", writeString "a")]) =
        .ok ⟨[⟨"a", "", [], []⟩]⟩ ∧
      parse (channelPayload [("extra", writeArray [writeArray []]), ("name", writeString "a")]) =
        .ok ⟨[⟨"a", "", [], []⟩]⟩ ∧
      ∃ line column details, parse (channelPayload [("extra", writeArray [writeArray []])]) =
        .error (.malformed line column details) := by
  have name : Writes (.ofText "a".toList) (Text.Utf8.encode (writeString "a")) := writes_text _
  have extra : Writes (.array [.array []]) (Text.Utf8.encode (writeArray [writeArray []])) :=
    writes_array (.cons (writes_array .nil) .nil)
  have plain : Document (ofChannel [("description", _), ("name", _)])
      (channelPayload [("description", _), ("name", _)]) :=
    document_ofChannel (.cons ⟨rfl, writes_text "".toList⟩ (.cons ⟨rfl, name⟩ .nil))
  have newer : Document (ofChannel [("extra", _), ("name", _)])
      (channelPayload [("extra", _), ("name", _)]) :=
    document_ofChannel (.cons ⟨rfl, extra⟩ (.cons ⟨rfl, name⟩ .nil))
  have nameless : Document (ofChannel [("extra", _)]) (channelPayload [("extra", _)]) :=
    document_ofChannel (.cons ⟨rfl, extra⟩ .nil)
  have parsed : parse (channelPayload [("description", writeString ""),
      ("name", writeString "a")]) = .ok ⟨[⟨"a", "", [], []⟩]⟩ := by decide +kernel
  have shorter : Within Tolerated .manifest
      (ofChannel [("description", .ofText "".toList), ("name", .ofText "a".toList)])
      (ofChannel [("name", .ofText "a".toList)]) :=
    within_ofChannel (@Tolerated.leaveOut _ [] _ _ _ _ (Literal.text?_ofText _) (.head _))
  have longer : Within Tolerated .manifest (ofChannel [("name", .ofText "a".toList)])
      (ofChannel [("extra", .array [.array []]), ("name", .ofText "a".toList)]) :=
    within_ofChannel (@Tolerated.unknown _ [] _ _ _ (Literal.text?_ofText _) (by decide) _)
  have broken : Within Fatal .manifest
      (ofChannel [("extra", .array [.array []]), ("name", .ofText "a".toList)])
      (ofChannel [("extra", .array [.array []])]) :=
    within_ofChannel (@Fatal.missing _ [_] [] _ _ _ (Literal.text?_ofText _) (.head _))
  obtain ⟨kept, refused⟩ := parse_edited plain parsed (.tail (.single shorter) longer)
  exact ⟨parsed, kept _ newer, refused _ _ broken nameless⟩

end Example
end ReleaseFeed
