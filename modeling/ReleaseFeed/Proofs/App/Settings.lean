import ReleaseFeed.App.Settings
import ReleaseFeed.Proofs.Files.Rewriting
import ReleaseFeed.Proofs.Json.Encoding
import ReleaseFeed.Proofs.Json.Scalar

namespace ReleaseFeed

open Files (Tree)
open Json (Conforms Document Form Members Reader Sound Value named)
open Text.Utf8 (decode? isSome_decode?_iff)

inductive Setting where
  | endpoint
  | channel
  | currentVersion
  | httpTimeoutSecs
  | wrapWidth
  | debugLogging
  | maxLogSizeBytes
  | waitTimeoutSecs
deriving DecidableEq

namespace Setting

def all : List Setting :=
  [endpoint, channel, currentVersion, httpTimeoutSecs, wrapWidth, debugLogging, maxLogSizeBytes,
    waitTimeoutSecs]

abbrev Content : Setting → Type
  | endpoint | channel => String
  | currentVersion => Option String
  | debugLogging => Bool
  | httpTimeoutSecs | wrapWidth | maxLogSizeBytes | waitTimeoutSecs => Nat

def key : Setting → String
  | endpoint => "endpoint"
  | channel => "channel"
  | currentVersion => "current_version"
  | httpTimeoutSecs => "http_timeout_secs"
  | wrapWidth => "wrap_width"
  | debugLogging => "debug_logging"
  | maxLogSizeBytes => "max_log_size_bytes"
  | waitTimeoutSecs => "wait_timeout_secs"

def of (settings : Settings) : (setting : Setting) → setting.Content
  | endpoint => settings.endpoint
  | channel => settings.channel
  | currentVersion => settings.currentVersion
  | httpTimeoutSecs => settings.httpTimeoutSecs
  | wrapWidth => settings.wrapWidth
  | debugLogging => settings.debugLogging
  | maxLogSizeBytes => settings.maxLogSizeBytes
  | waitTimeoutSecs => settings.waitTimeoutSecs

def store (settings : Settings) : (setting : Setting) → setting.Content → Settings
  | endpoint, content => { settings with endpoint := content }
  | channel, content => { settings with channel := content }
  | currentVersion, content => { settings with currentVersion := content }
  | httpTimeoutSecs, content => { settings with httpTimeoutSecs := content }
  | wrapWidth, content => { settings with wrapWidth := content }
  | debugLogging, content => { settings with debugLogging := content }
  | maxLogSizeBytes, content => { settings with maxLogSizeBytes := content }
  | waitTimeoutSecs, content => { settings with waitTimeoutSecs := content }

/-- What a value is for a setting: a text, a boolean or a natural number of 64 bits; the running
version may be `null`. -/
def means : (setting : Setting) → Value → Option setting.Content
  | endpoint, value | channel, value => value.text?.map String.ofList
  | currentVersion, value => value.optional? fun value => value.text?.map String.ofList
  | debugLogging, value => value.boolean?
  | httpTimeoutSecs, value | wrapWidth, value | maxLogSizeBytes, value
  | waitTimeoutSecs, value => value.natural?

def reader : (setting : Setting) → Reader setting.Content
  | endpoint | channel => Json.string
  | currentVersion => Json.optional Json.string
  | debugLogging => Json.boolean
  | wrapWidth => Json.natural "usize"
  | httpTimeoutSecs | maxLogSizeBytes | waitTimeoutSecs => Json.natural "u64"

theorem conforms (setting : Setting) : Conforms setting.reader setting.means := by
  cases setting with
  | endpoint | channel => exact Json.conforms_string
  | currentVersion => exact Json.conforms_optional Json.conforms_string
  | debugLogging => exact Json.conforms_boolean
  | httpTimeoutSecs | wrapWidth | maxLogSizeBytes | waitTimeoutSecs =>
    exact Json.conforms_natural _

theorem sound (setting : Setting) : Sound setting.reader setting.means := by
  cases setting with
  | endpoint | channel => exact Json.sound_string
  | currentVersion => exact Json.sound_optional Json.sound_string rfl
  | debugLogging => exact Json.sound_boolean
  | httpTimeoutSecs | wrapWidth | maxLogSizeBytes | waitTimeoutSecs => exact Json.sound_natural _

def field (setting : Setting) : Json.Field Settings :=
  .of setting.key false setting.conforms fun settings content => setting.store settings content

theorem mem_all (setting : Setting) : setting ∈ all := by cases setting <;> decide

theorem nodup_all : all.Nodup := by decide

theorem key_injective {setting other : Setting} (same : setting.key = other.key) :
    setting = other := by
  cases setting <;> cases other <;> first | rfl | exact absurd same (by decide)

theorem of_store (settings : Settings) (setting : Setting) (content : setting.Content) :
    setting.of (setting.store settings content) = content := by
  cases setting <;> rfl

theorem of_store_other {setting other : Setting} (different : other ≠ setting)
    (settings : Settings) (content : setting.Content) :
    other.of (setting.store settings content) = other.of settings := by
  cases setting <;> cases other <;> first | rfl | exact absurd rfl different

theorem eq_of_forall_of {settings others : Settings}
    (same : ∀ setting : Setting, setting.of settings = setting.of others) : settings = others := by
  obtain ⟨⟩ := settings
  obtain ⟨⟩ := others
  simp only [Settings.mk.injEq]
  exact ⟨same endpoint, same channel, same currentVersion, same httpTimeoutSecs, same wrapWidth,
    same debugLogging, same maxLogSizeBytes, same waitTimeoutSecs⟩

theorem store_store_comm {setting other : Setting} (different : setting ≠ other)
    (settings : Settings) (content : setting.Content) (further : other.Content) :
    setting.store (other.store settings further) content =
      other.store (setting.store settings content) further := by
  cases setting <;> cases other <;> first | rfl | exact absurd rfl different

theorem field_apart {setting other : Setting} (different : setting ≠ other) :
    setting.field.Apart other.field :=
  Json.Field.of_apart (mt key_injective different) (store_store_comm different)

end Setting

def Settings.form : Form Settings where
  schema := schema
  fields := Setting.all.map Setting.field
  members_eq := rfl
  apart := List.pairwise_map.mpr (Setting.nodup_all.imp Setting.field_apart)

theorem Settings.form_sound : Sound form.schema.read form.ofValue? := by
  refine Form.sound fun field inside => ?_
  obtain ⟨setting, -, rfl⟩ := List.mem_map.mp inside
  exact setting.sound.field

abbrev Given : Type := (setting : Setting) → Option setting.Content

section Taking

variable {members : Members} {elements : List Value} {settings : List Setting}
  {values : Setting → List Value} {record result : Settings}

namespace Setting

/-- The values that are given for a setting: by name, or by its place among all settings. -/
def valuesIn (setting : Setting) : Value → List Value
  | .object members => named setting.key members
  | .array elements => ((all.zip elements).lookup setting).toList
  | _ => []

/-- Values of one setting: not more than one, and that one is something that it can hold. -/
structure Admits (setting : Setting) (values : List Value) : Prop where
  single : values.length ≤ 1
  held : ∀ value ∈ values, (setting.means value).isSome = true

theorem admits_nil (setting : Setting) : setting.Admits [] := ⟨Nat.zero_le 1, nofun⟩

theorem admits_singleton_iff {setting : Setting} {value : Value} :
    setting.Admits [value] ↔ (setting.means value).isSome = true :=
  ⟨fun admitted => admitted.held value List.mem_cons_self,
    fun held => ⟨Nat.le_refl 1, List.forall_mem_singleton.mpr held⟩⟩

/-- The settings with what is given for one of them. -/
def put (setting : Setting) : Option setting.Content → Settings → Settings
  | none, settings => settings
  | some content, settings => setting.store settings content

theorem of_put (setting : Setting) (given : Option setting.Content) :
    setting.of (setting.put given record) = given.getD (setting.of record) := by
  cases given with
  | none => rfl
  | some content => exact of_store record setting content

theorem of_put_other {setting other : Setting} (different : other ≠ setting)
    (given : Option setting.Content) : other.of (setting.put given record) = other.of record := by
  cases given with
  | none => rfl
  | some content => exact of_store_other different record content

theorem content?_field_eq_some_iff {setting : Setting} {change : Settings → Settings} :
    setting.field.content? [] members = some change ↔
      setting.Admits (named setting.key members) ∧
        setting.put ((named setting.key members).head?.bind setting.means) = change := by
  have key : setting.field.member.key = setting.key := rfl
  rw [Json.Field.content?, key]
  generalize named setting.key members = values
  rcases values with _ | ⟨value, _ | ⟨second, others⟩⟩
  · exact ⟨fun same => ⟨admits_nil setting, Option.some.inj same⟩, fun same => congrArg some same.2⟩
  · change (setting.means value).map _ = _ ↔ _ ∧ setting.put (setting.means value) = _
    rw [admits_singleton_iff]
    cases setting.means value with
    | none => simp
    | some content =>
      exact ⟨fun same => ⟨rfl, Option.some.inj same⟩, fun same => congrArg some same.2⟩
  · exact iff_of_false (by simp) fun admitted => absurd admitted.1.single (by simp)

end Setting

open Setting (Admits)

/-- The settings with what is given for some of them, one after the other. -/
def takes (values : Setting → List Value) (settings : List Setting) (record : Settings) :
    Settings :=
  settings.foldl (fun record setting =>
    setting.put ((values setting).head?.bind setting.means) record) record

theorem of_takes {setting : Setting} (inside : setting ∈ settings) (distinct : settings.Nodup) :
    setting.of (takes values settings record) =
      ((values setting).head?.bind setting.means).getD (setting.of record) := by
  have others {settings : List Setting} (absent : setting ∉ settings) (record : Settings) :
      setting.of (takes values settings record) = setting.of record := by
    induction settings generalizing record with
    | nil => rfl
    | cons first settings ih =>
      obtain ⟨different, later⟩ := List.ne_and_not_mem_of_not_mem_cons absent
      exact (ih later _).trans (Setting.of_put_other different _)
  induction settings generalizing record with
  | nil => cases inside
  | cons first settings ih =>
    obtain ⟨fresh, distinct⟩ := List.nodup_cons.mp distinct
    rcases List.mem_cons.mp inside with rfl | inside
    · exact (others fresh _).trans (Setting.of_put setting _)
    · have different : setting ≠ first := ne_of_mem_of_not_mem inside fresh
      exact (ih inside distinct).trans (congrArg _ (Setting.of_put_other different _))

/-- The members of an object are taken for all settings if none of them is refused. -/
theorem completed?_eq_some_iff :
    Json.completed? (settings.map Setting.field) [] members record = some result ↔
      (∀ setting ∈ settings, setting.Admits (named setting.key members)) ∧
        takes (fun setting => named setting.key members) settings record = result := by
  induction settings generalizing record with
  | nil => simp [Json.completed?, takes]
  | cons setting settings ih =>
    rw [List.map_cons, Json.completed?, Option.bind_eq_some_iff, List.forall_mem_cons]
    constructor
    · rintro ⟨change, found, later⟩
      obtain ⟨here, rfl⟩ := Setting.content?_field_eq_some_iff.mp found
      obtain ⟨admitted, same⟩ := ih.mp later
      exact ⟨⟨here, admitted⟩, same⟩
    · rintro ⟨⟨here, admitted⟩, same⟩
      exact ⟨_, Setting.content?_field_eq_some_iff.mpr ⟨here, rfl⟩, ih.mpr ⟨admitted, same⟩⟩

/-- The elements of an array are taken in the order of the settings. -/
theorem inOrder?_eq_some_iff (distinct : settings.Nodup)
    (placed : ∀ setting ∈ settings,
      values setting = ((settings.zip elements).lookup setting).toList) :
    Form.inOrder? (settings.map Setting.field) elements record = some result ↔
      elements.length ≤ settings.length ∧ (∀ setting ∈ settings, setting.Admits (values setting)) ∧
        takes values settings record = result := by
  induction settings generalizing elements record with
  | nil => cases elements <;> simp [Form.inOrder?, takes]
  | cons setting settings ih =>
    obtain ⟨fresh, distinct⟩ := List.nodup_cons.mp distinct
    obtain ⟨here, later⟩ := List.forall_mem_cons.mp placed
    rw [List.forall_mem_cons]
    cases elements with
    | nil =>
      have absent : values setting = [] := by simpa using here
      have left := @ih [] record distinct fun other inside => by simpa using later other inside
      have same : takes values (setting :: settings) record = takes values settings record := by
        rw [takes, List.foldl_cons, absent]
        rfl
      rw [absent, same]
      change Form.inOrder? (settings.map Setting.field) [] record = _ ↔ _
      simpa [Setting.admits_nil] using left
    | cons value others =>
      have given : values setting = [value] := by simpa using here
      have left (record : Settings) := @ih others record distinct fun other inside => by
        have different : (other == setting) = false :=
          beq_eq_false_iff_ne.mpr (ne_of_mem_of_not_mem inside fresh)
        simpa only [List.zip_cons_cons, List.lookup_cons, different] using later other inside
      have same : takes values (setting :: settings) record =
          takes values settings (setting.put (setting.means value) record) := by
        rw [takes, List.foldl_cons, given]
        rfl
      rw [given, same, Setting.admits_singleton_iff]
      change ((setting.means value).map _).bind _ = _ ↔ _
      cases setting.means value with
      | none => simp
      | some content =>
        change (Form.inOrder? _ _ (setting.store record content) = _) ↔ _
        rw [left]
        simp [Setting.put]

end Taking

/-- The values that are made as settings are: an object whose keys are texts, or an array that has
no more elements than there are settings. -/
def HasShape : Value → Prop
  | .object members => ∀ member ∈ members, member.1.text?.isSome = true
  | .array elements => elements.length ≤ Setting.all.length
  | _ => False

/-- The values that stand for settings: no setting is given twice, or as something that it cannot
hold. -/
structure IsSettings (value : Value) : Prop where
  shape : HasShape value
  admits : ∀ setting : Setting, setting.Admits (setting.valuesIn value)

def Given.of (value : Value) : Given := fun setting =>
  (setting.valuesIn value).head?.bind setting.means

theorem takes_all_eq_iff {values : Setting → List Value} {record settings : Settings} :
    takes values Setting.all record = settings ↔ ∀ setting : Setting, setting.of settings =
      ((values setting).head?.bind setting.means).getD (setting.of record) := by
  have each (setting : Setting) := @of_takes _ values record setting
    (Setting.mem_all setting) Setting.nodup_all
  constructor
  · rintro rfl setting
    exact each setting
  · intro same
    exact Setting.eq_of_forall_of fun setting => (each setting).trans (same setting).symm

namespace Settings

variable {value : Value} {settings : Settings} {content : List UInt8}

/-- A value stands for the settings that it gives, with the default ones for those that it does
not give. -/
theorem ofValue?_eq_some_iff : form.ofValue? value = some settings ↔ IsSettings value ∧
    ∀ setting : Setting, setting.of settings =
      (Given.of value setting).getD (setting.of default) := by
  have split : IsSettings value ↔
      HasShape value ∧ ∀ setting ∈ Setting.all, setting.Admits (setting.valuesIn value) :=
    ⟨fun stands => ⟨stands.shape, fun setting _ => stands.admits setting⟩,
      fun stands => ⟨stands.1, fun setting => stands.2 setting (Setting.mem_all setting)⟩⟩
  rw [split, and_assoc]
  cases value with
  | object members =>
    change (if members.all fun member => member.1.text?.isSome then _ else none) = _ ↔ _
    by_cases texts : (members.all fun member => member.1.text?.isSome) = true
    · rw [if_pos texts]
      have shape : HasShape (.object members) := List.all_eq_true.mp texts
      refine (completed?_eq_some_iff.trans ?_).trans (and_iff_right shape).symm
      exact and_congr_right fun _ => takes_all_eq_iff
    · rw [if_neg texts]
      exact iff_of_false nofun fun stands => texts (List.all_eq_true.mpr stands.1)
  | array elements =>
    refine (inOrder?_eq_some_iff Setting.nodup_all fun _ _ => rfl).trans ?_
    exact and_congr_right fun _ => and_congr_right fun _ => takes_all_eq_iff
  | _ => exact iff_of_false nofun fun stands => stands.1

theorem ofValue?_eq_none_iff : form.ofValue? value = none ↔ ¬ IsSettings value := by
  rw [Option.eq_none_iff_forall_ne_some]
  constructor
  · exact fun refused stands => refused _ (ofValue?_eq_some_iff.mpr
      ⟨stands, takes_all_eq_iff.mp (Eq.refl (takes (fun setting => setting.valuesIn value) _ _))⟩)
  · exact fun refused settings found => refused (ofValue?_eq_some_iff.mp found).1

/-- A document is read as the settings that its value stands for. -/
theorem parse_document (written : Document value content) :
    (parse content).toOption = form.ofValue? value := by
  have read := Json.document_of_conforms form.conforms written
  have decoded := Option.isSome_iff_ne_none.mp written.isSome_decode?
  change (Json.document schema.read content).toOption = _ at read
  rw [parse, if_neg (by simpa using decoded)]
  cases result : Json.document schema.read content <;> simp [result, ← read]

/-- Nothing else is read as settings. -/
theorem exists_document_of_parse (parsed : parse content = .ok settings) :
    ∃ value, Document value content ∧ form.ofValue? value = some settings := by
  rw [parse] at parsed
  split at parsed
  · cases parsed
  · rename_i text
    have decoded : (decode? content).isSome = true := by
      simpa [Option.isSome_iff_ne_none] using text
    cases read : Json.document schema.read content with
    | error fault => simp [read] at parsed
    | ok result =>
      obtain rfl : result = settings := by simpa [read] using parsed
      obtain ⟨value, written, meant⟩ := Json.exists_document form_sound read
      rw [isSome_decode?_iff.mp decoded] at written
      exact ⟨value, written, meant⟩

-- Settings that a file does not give are the default ones.
example : parse (Text.Utf8.encode "\x7b \"channel\": \"dev\", \"wrap_width\": 60 \x7d".toList) =
    .ok { default with channel := "dev", wrapWidth := 60 } := by decide +kernel

/-- The settings that the program starts with are those of its file, if that can be read. -/
theorem load_of_read {paths : AppPaths} {tree : Tree}
    (found : tree.read paths.settingsFile = .ok content) :
    (load paths tree).1 = (parse content).toOption.getD default := by
  have same : ofFile paths.settingsFile tree = parse content := by
    rw [ofFile, if_pos (Tree.contains_of_read found), found]
  rw [load, same]
  cases parse content <;> rfl

theorem load_of_unread {paths : AppPaths} {tree : Tree} {error : SystemError}
    (unread : tree.read paths.settingsFile = .error error) : (load paths tree).1 = default := by
  rw [load, ofFile, unread]
  cases tree.contains paths.settingsFile <;> rfl

end Settings
end ReleaseFeed
