import ReleaseFeed.App.Run
import ReleaseFeed.Proofs.App.Settings
/-!
Settings from arguments, from a file and by default. Main statement: an argument counts ahead of the
file, and the file ahead of the default, setting by setting; a file that is refused counts for
nothing in any of them.
-/
namespace ReleaseFeed

open Files (Tree)
open Json (Document Value named)
open Text.Utf8 (decode?)

def Arguments.given (arguments : Arguments) : Given
  | .endpoint => arguments.endpoint
  | .channel => arguments.channel
  | .currentVersion => arguments.currentVersion.map some
  | .wrapWidth => arguments.width
  | .httpTimeoutSecs | .debugLogging | .maxLogSizeBytes | .waitTimeoutSecs => .none

def Given.nothing : Given := fun _ => none

namespace App

/-- The settings that arguments and a file lead to. -/
structure Effective (arguments : Arguments) (given : Given) (settings : Settings) : Prop where
  /-- An argument counts ahead of the file, and the file ahead of the default. -/
  chosen : ∀ setting : Setting, setting ≠ .debugLogging → setting.of settings =
    ((arguments.given setting).or (given setting)).getD (setting.of .default)
  /-- Debug logging is on if the file or the flag asks for it. -/
  debug : settings.debugLogging = ((given .debugLogging).getD false || arguments.debug)
  /-- The settings without an option are those of the file. -/
  fixed : ∀ setting ∈ [.httpTimeoutSecs, .maxLogSizeBytes, .waitTimeoutSecs],
    setting.of settings = (given setting).getD (setting.of .default)

variable {arguments : Arguments} {given : Given} {settings others : Settings}
  {paths : AppPaths} {tree : Tree} {content : List UInt8} {value : Value}

theorem Effective.unique (here : Effective arguments given settings)
    (there : Effective arguments given others) : settings = others := by
  refine Setting.eq_of_forall_of fun setting => ?_
  by_cases isDebug : setting = .debugLogging
  · subst isDebug
    exact here.debug.trans there.debug.symm
  · exact (here.chosen setting isDebug).trans (there.chosen setting isDebug).symm

/-- Arguments replace what they are given for, apart from debug logging, which they only add. -/
theorem of_apply {setting : Setting} (other : setting ≠ .debugLogging) :
    setting.of (arguments.apply settings) =
      (arguments.given setting).getD (setting.of settings) := by
  cases setting with
  | currentVersion =>
    change arguments.currentVersion.or settings.currentVersion =
      (arguments.currentVersion.map some).getD settings.currentVersion
    cases arguments.currentVersion <;> rfl
  | debugLogging => exact absurd rfl other
  | _ => rfl

theorem effective_apply
    (held : ∀ setting : Setting, setting.of settings = (given setting).getD (setting.of .default)) :
    Effective arguments given (arguments.apply settings) where
  chosen setting other := by rw [of_apply other, held, Option.getD_or]
  debug := congrArg (· || arguments.debug) (held .debugLogging)
  fixed setting listed := by
    simp only [List.mem_cons, List.not_mem_nil, or_false] at listed
    rcases listed with rfl | rfl | rfl
    · exact held .httpTimeoutSecs
    · exact held .maxLogSizeBytes
    · exact held .waitTimeoutSecs

/-- The contents of a file that count for nothing. -/
inductive Rejected (content : List UInt8) : Prop where
  | notText (malformed : decode? content = none)
  | notJson (unwritten : ∀ value, ¬ Document value content)
  | refused {value : Value} (written : Document value content) (other : ¬ IsSettings value)

theorem parse_of_rejected (rejected : Rejected content) :
    (Settings.parse content).toOption = none := by
  cases rejected with
  | notText malformed =>
    rw [Settings.parse, malformed]
    rfl
  | notJson unwritten =>
    cases parsed : Settings.parse content with
    | error => rfl
    | ok settings =>
      obtain ⟨value, written, -⟩ := Settings.exists_document_of_parse parsed
      exact absurd written (unwritten value)
  | refused written other =>
    rw [Settings.parse_document written]
    exact Settings.ofValue?_eq_none_iff.mpr other

/-- How the effective settings come from the arguments and the settings file. -/
structure FollowsPrecedence (arguments : Arguments) (paths : AppPaths) (tree : Tree) : Prop where
  /-- A file that stands for settings counts with all that it gives. -/
  accepted : ∀ content value, tree.read paths.settingsFile = .ok content →
    Document value content → IsSettings value →
      Effective arguments (.of value) (settingsFor arguments paths tree)
  /-- Any other content counts for nothing. -/
  rejected : ∀ content, tree.read paths.settingsFile = .ok content → Rejected content →
    Effective arguments .nothing (settingsFor arguments paths tree)
  /-- So does a file that is not there or cannot be read. -/
  unread : ∀ error, tree.read paths.settingsFile = .error error →
    Effective arguments .nothing (settingsFor arguments paths tree)
  /-- There are no other contents. -/
  complete : ∀ content, Rejected content ∨ ∃ value, Document value content ∧ IsSettings value
  /-- An object stands for settings if it has each of them at most once, as what it can hold; the
  other members and the order do not count. -/
  object : ∀ members, IsSettings (.object members) ↔
    (∀ member ∈ members, member.1.text?.isSome = true) ∧ ∀ setting : Setting,
      named setting.key members = [] ∨
        ∃ value, named setting.key members = [value] ∧ (setting.means value).isSome = true
  /-- An object is refused for a setting that is repeated, or of a wrong type or out of range. -/
  spoiled : ∀ content members (setting : Setting), Document (.object members) content →
    (2 ≤ (named setting.key members).length ∨
      ∃ value ∈ named setting.key members, setting.means value = none) → Rejected content
  /-- No setting is left open. -/
  unique : ∀ given first second, Effective arguments given first →
    Effective arguments given second → first = second

theorem isSettings_object_iff {members : Json.Members} : IsSettings (.object members) ↔
    (∀ member ∈ members, member.1.text?.isSome = true) ∧ ∀ setting : Setting,
      named setting.key members = [] ∨
        ∃ value, named setting.key members = [value] ∧ (setting.means value).isSome = true := by
  have admits (setting : Setting) (values : List Value) : setting.Admits values ↔
      values = [] ∨ ∃ value, values = [value] ∧ (setting.means value).isSome = true := by
    rcases values with _ | ⟨value, _ | ⟨second, others⟩⟩
    · exact iff_of_true setting.admits_nil (.inl rfl)
    · simp [Setting.admits_singleton_iff]
    · refine iff_of_false (fun admitted => ?_) (by simp)
      exact absurd admitted.single (by simp)
  constructor
  · exact fun stands => ⟨stands.shape, fun setting => (admits _ _).mp (stands.admits setting)⟩
  · exact fun stands => ⟨stands.1, fun setting => (admits _ _).mpr (stands.2 setting)⟩

/-- Arguments, file and defaults count in this order, whatever the file contains. -/
theorem followsPrecedence (arguments : Arguments) (paths : AppPaths) (tree : Tree) :
    FollowsPrecedence arguments paths tree where
  accepted content value found written stands := by
    have read := Settings.parse_document written
    have accepted := mt Settings.ofValue?_eq_none_iff.mp (not_not_intro stands)
    obtain ⟨settings, meant⟩ := Option.ne_none_iff_exists'.mp accepted
    rw [settingsFor, Settings.load_of_read found, read, meant]
    exact effective_apply (Settings.ofValue?_eq_some_iff.mp meant).2
  rejected content found rejected := by
    rw [settingsFor, Settings.load_of_read found, parse_of_rejected rejected]
    exact effective_apply fun _ => rfl
  unread error missing := by
    rw [settingsFor, Settings.load_of_unread missing]
    exact effective_apply fun _ => rfl
  complete content := by
    by_cases stands : ∃ value, Document value content ∧ IsSettings value
    · exact .inr stands
    · left
      by_cases written : ∃ value, Document value content
      · obtain ⟨value, written⟩ := written
        exact .refused written fun accepted => stands ⟨value, written, accepted⟩
      · exact .notJson (not_exists.mp written)
  object _ := isSettings_object_iff
  spoiled content members setting written spoils := by
    refine .refused written fun stands => ?_
    obtain ⟨single, held⟩ : setting.Admits (named setting.key members) := stands.admits setting
    rcases spoils with repeated | ⟨value, given, meaningless⟩
    · exact absurd single (by omega)
    · exact absurd (held value given) (by simp [meaningless])
  unique _ _ _ := Effective.unique

end App
end ReleaseFeed
