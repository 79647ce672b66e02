import ReleaseFeed.Proofs.Fetch.Publication
import ReleaseFeed.Proofs.Manifest.Shape
/-!
Which payloads can replace the published channels. Main statement: only a payload that shows a list
of channels is accepted, be it in an object or as a bare list; every other one is refused, told as
invalid data, and leaves the published channels as they are.
-/
namespace ReleaseFeed.Fetch

open Json (Document Value)
open Text.Utf8 (repair)

/-- What a payload has to show for its channels to be published. -/
structure GuardsChannels (payload : List UInt8) : Prop where
  /-- An accepted payload is a document, whatever value it writes holds a list of channels, and the
  channels are those that the list stands for. -/
  accepted : ∀ manifest, Manifest.parse payload = .ok manifest →
    (∃ value, Document value (repair payload)) ∧
      ∀ value, Document value (repair payload) →
        ∃ elements, (HoldsChannels elements value ∨ value = .array [.array elements]) ∧
          elements.mapM ChannelRecord.form.ofValue? = some manifest.channels
  /-- It shows them in an object exactly when it shows no bare list. -/
  exact : ∀ manifest, Manifest.parse payload = .ok manifest →
    (ShowsChannels payload ↔ ¬ ShowsBareList payload)
  /-- A document of any other value is malformed. -/
  malformed : ∀ value, Document value (repair payload) → ¬ ShowsChannels payload →
    ¬ ShowsBareList payload →
      ∃ line column details, Manifest.parse payload = .error (.malformed line column details)
  /-- A payload that shows no list of channels leaves the published ones as they are, whatever
  happened before. -/
  kept : ¬ ShowsChannels payload → ¬ ShowsBareList payload → ∀ identity operations,
    (Engine.after identity (operations ++ [.finish (.payload payload)])).channels =
        (Engine.after identity operations).channels ∧
      (Engine.after identity (operations ++ [.shutdown (.payload payload)])).channels =
        (Engine.after identity operations).channels
  /-- An attempt that gets it is told to have received invalid data. -/
  told : ¬ ShowsChannels payload → ¬ ShowsBareList payload → ∀ identity operations number,
    (Engine.after identity operations).inFlight = some number →
      (Engine.after identity (operations ++ [.finish (.payload payload)])).outcome = .invalidData

section Payloads

variable {payload : List UInt8} {identity : BuildIdentity}

theorem retrieve_payload_of_refused (refused : ∀ manifest, Manifest.parse payload ≠ .ok manifest) :
    retrieve identity (.payload payload) = .error .invalidData := by
  cases result : Manifest.parse payload with
  | ok manifest => exact absurd result (refused manifest)
  | error error => rw [retrieve, channelsOf, result, error_bind, Except.mapError]

theorem shows_of_parse {manifest : Manifest} (parsed : Manifest.parse payload = .ok manifest) :
    ShowsChannels payload ∨ ShowsBareList payload := by
  obtain ⟨value, written, taken⟩ := Manifest.exists_document_of_parse parsed
  obtain ⟨elements, holds | rfl, -⟩ := Manifest.exists_elements_of_ofValue? taken
  · exact .inl ⟨value, elements, written, holds⟩
  · exact .inr ⟨elements, written⟩

theorem parse_ne_ok (noChannels : ¬ ShowsChannels payload) (noBareList : ¬ ShowsBareList payload) :
    ∀ manifest, Manifest.parse payload ≠ .ok manifest := by
  intro manifest parsed
  rcases shows_of_parse parsed with shown | shown
  · exact noChannels shown
  · exact noBareList shown

end Payloads

/-- Nothing but a list of channels replaces the published channels. -/
theorem guardsChannels (payload : List UInt8) : GuardsChannels payload where
  accepted := by
    intro manifest parsed
    obtain ⟨value, written, -⟩ := Manifest.exists_document_of_parse parsed
    refine ⟨⟨value, written⟩, fun other alsoWritten => ?_⟩
    exact Manifest.exists_elements_of_ofValue? (Manifest.ofValue?_of_parse parsed alsoWritten)
  exact := by
    intro manifest parsed
    exact ⟨not_showsBareList, fun noBareList => (shows_of_parse parsed).resolve_right noBareList⟩
  malformed := by
    intro value written noChannels noBareList
    exact Manifest.malformed_of_document written (parse_ne_ok noChannels noBareList)
  kept := by
    intro noChannels noBareList identity operations
    have failed : retrieve identity (.payload payload) = .error .invalidData :=
      retrieve_payload_of_refused (parse_ne_ok noChannels noBareList)
    simp only [Engine.after_concat, Engine.step]
    exact ⟨Engine.channels_finish_of_error failed, Engine.channels_shutdown_of_error failed⟩
  told := by
    intro noChannels noBareList identity operations number flying
    have failed : retrieve identity (.payload payload) = .error .invalidData :=
      retrieve_payload_of_refused (parse_ne_ok noChannels noBareList)
    simp only [Engine.after_concat, Engine.step]
    rw [Engine.finish_of_inFlight flying, failed]
    rfl

def bareList : List UInt8 := Json.ascii "[[]]"

theorem document_bareList : Document (.array [.array []]) bareList := by
  have inner : Json.Writes (.array []) (Json.ascii "[]") := .array (.nil Json.blank_nil)
  have outer : Json.Writes (.array [.array []]) bareList :=
    .array (.first Json.blank_nil inner (.nil Json.blank_nil))
  have written : Document (.array [.array []]) ([] ++ (bareList ++ [])) :=
    .of Json.blank_nil outer Json.blank_nil
  rwa [List.nil_append, List.append_nil] at written

theorem not_showsChannels_bareList : ¬ ShowsChannels bareList := by
  have same : repair bareList = bareList := Text.Utf8.repair_encode "[[]]".toList
  intro shows
  exact not_showsBareList shows ⟨[], same.symm ▸ document_bareList⟩

/-- A second attempt, behind one that published a channel. -/
def publishedOnce : List Operation :=
  [.start, .finish (.payload (Json.ascii "\x7b\"channels\":[\x7b\"name\":\"stable\"\x7d]\x7d")), .retry]

/-- A bare list is accepted although it shows no object with channels, and replaces the channels
that were published. -/
theorem bareList_replaces :
    ¬ (∀ payload manifest, Manifest.parse payload = .ok manifest → ShowsChannels payload) ∧
      (Engine.after ⟨"stable", none⟩ publishedOnce).channels.map Channel.name = ["stable"] ∧
      (Engine.after ⟨"stable", none⟩ (publishedOnce ++ [.finish (.payload bareList)])).channels =
        [] := by
  have parsed : Manifest.parse bareList = .ok ⟨[]⟩ := by decide +kernel
  refine ⟨fun guarded => not_showsChannels_bareList (guarded _ _ parsed), ?_, ?_⟩
  · decide +kernel
  · decide +kernel

end ReleaseFeed.Fetch
