import ReleaseFeed.Proofs.Report.Padding
/-!
Printing into an output that takes a limited number of bytes. Main statement: the output holds the
first bytes of the whole text, as many as it takes, wherever the limit falls, and refuses exactly
the texts that do not fit; only a label that is too long to pad ends a text in another way.
-/
namespace ReleaseFeed.Report

open Text (Utf8.encode)

variable {config : Config} {channel : Channel} {channels : List Channel} {cache : WrapCache}
  {printout : Printout} {room : Nat} {error : SystemError}

/-- The bytes that an output without a limit gets of a printout. -/
def Printout.bytes (printout : Printout) : List UInt8 := (Sink.unlimited.print printout).2.accepted

namespace Sink

theorem print_unlimited (printout : Printout) : unlimited.print printout =
    (if printout.isComplete then .finished else .cutOff, ⟨Utf8.encode printout.text, none⟩) := by
  rw [print, writeAll_eq_write]
  rfl

theorem bytes_eq (printout : Printout) : printout.bytes = Utf8.encode printout.text := by
  rw [Printout.bytes, print_unlimited]

/-- How printing ends is decided by the room, and behind it by the printout. -/
theorem print_limited (printout : Printout) (room : Nat) (error : SystemError) :
    (limited room error).print printout =
      (if printout.bytes.length ≤ room then
        if printout.isComplete then .finished else .cutOff
      else .refused error,
        ⟨printout.bytes.take room, some ⟨room - printout.bytes.length, error⟩⟩) := by
  rw [print, writeAll_eq_write, ← Printout.text, ← bytes_eq]
  by_cases fits : printout.bytes.length ≤ room <;> simp [write, limited, fits]

end Sink

/-- An output takes all of a text, or its first bytes and then refuses. -/
structure FitsOrFails (printout : Printout) (full : List UInt8) (room : Nat) (error : SystemError) :
    Prop where
  fits : full.length ≤ room → ((Sink.limited room error).print printout).1 = .finished ∧
    ((Sink.limited room error).print printout).2.accepted = full
  fails : room < full.length → ((Sink.limited room error).print printout).1 = .refused error ∧
    ((Sink.limited room error).print printout).2.accepted = full.take room

/-- How a printout ends in outputs with a limit, if its labels can be padded and if they cannot. -/
structure KeepsFront (printout : Printout) (narrow : Prop) : Prop where
  /-- Wherever the limit falls, nothing is left out, written twice or written behind it. -/
  accepted : ∀ room error,
    ((Sink.limited room error).print printout).2.accepted = printout.bytes.take room
  refused : ∀ room error, room < printout.bytes.length →
    ((Sink.limited room error).print printout).1 = .refused error
  finished : ∀ room error, printout.bytes.length ≤ room → narrow →
    ((Sink.limited room error).print printout).1 = .finished
  /-- A label that is too long to pad breaks off a text that would still fit. -/
  cutOff : ∀ room error, printout.bytes.length ≤ room → ¬ narrow →
    ((Sink.limited room error).print printout).1 = .cutOff
  exact : (∀ room error, FitsOrFails printout printout.bytes room error) ↔ narrow

theorem keepsFront {narrow : Prop} (complete : printout.isComplete = true ↔ narrow) :
    KeepsFront printout narrow := by
  have accepted (room : Nat) (error : SystemError) :
      ((Sink.limited room error).print printout).2.accepted = printout.bytes.take room := by
    rw [Sink.print_limited]
  have refused (room : Nat) (error : SystemError) (short : room < printout.bytes.length) :
      ((Sink.limited room error).print printout).1 = .refused error := by
    rw [Sink.print_limited, if_neg (Nat.not_le.mpr short)]
  have finished (room : Nat) (error : SystemError) (fits : printout.bytes.length ≤ room)
      (narrow : narrow) : ((Sink.limited room error).print printout).1 = .finished := by
    rw [Sink.print_limited, if_pos fits, if_pos (complete.mpr narrow)]
  have cutOff (room : Nat) (error : SystemError) (fits : printout.bytes.length ≤ room)
      (wide : ¬ narrow) : ((Sink.limited room error).print printout).1 = .cutOff := by
    rw [Sink.print_limited, if_pos fits, if_neg (mt complete.mp wide)]
  refine ⟨accepted, refused, finished, cutOff, ?_, ?_⟩
  · intro every
    by_contra wide
    have ending := ((every printout.bytes.length ⟨.other, ""⟩).fits (Nat.le_refl _)).1
    rw [cutOff _ _ (Nat.le_refl _) wide] at ending
    cases ending
  · intro narrow room error
    refine ⟨fun fits => ⟨finished room error fits narrow, ?_⟩,
      fun short => ⟨refused room error short, accepted room error⟩⟩
    rw [accepted, List.take_of_length_le fits]

/-- How channels are printed into outputs with a limit, several of them or one. -/
structure PrintsFront (config : Config) (channels : List Channel) (cache : WrapCache) : Prop where
  all : KeepsFront (renderChannels config channels cache).1 (∀ channel ∈ channels, Narrow channel)
  one : ∀ channel ∈ channels,
    KeepsFront (renderChannel config channel cache).1 (Narrow channel)

/-- An output that fails holds exactly the front of what it was to get. -/
theorem printsFront (config : Config) (channels : List Channel) (cache : WrapCache) :
    PrintsFront config channels cache where
  all := keepsFront isComplete_renderChannels
  one _ _ := keepsFront isComplete_renderChannel

/-- A label with one character more than the padding can have is neither printed nor refused by an
output that would take its first letters. -/
theorem not_fitsOrFails_of_wideLabel :
    Manifest.parse (labelled (labelOf 65536)).encode = .ok (labelled (labelOf 65536)) ∧
      Channel.ofManifest ⟨"stable", none⟩ (labelled (labelOf 65536)) =
        .ok [labelledChannel (labelOf 65536)] ∧
      ∀ full, ¬ FitsOrFails (renderChannels ⟨80, "stable", none, false⟩
        [labelledChannel (labelOf 65536)] .empty).1 full 20 ⟨.other, "output is full"⟩ := by
  have wide : ¬ Narrow (labelledChannel (labelOf 65536)) := by
    simp [Narrow, labelledChannel, length_labelOf, maxPadding]
  have ending : ((Sink.limited 20 ⟨.other, "output is full"⟩).print
      (renderChannels ⟨80, "stable", none, false⟩ [labelledChannel (labelOf 65536)] .empty).1).1 =
        .cutOff := by
    refine (keepsFront isComplete_renderChannel).cutOff _ _ ?_ wide
    rw [renderChannel_of_wide wide, Sink.bytes_eq]
    decide
  refine ⟨parse_labelled _, Channel.ofManifest_eq_ok_iff.mpr (shows_labelled _), ?_⟩
  intro full claimed
  rcases Nat.lt_or_ge 20 full.length with short | fits
  · exact absurd (ending.symm.trans (claimed.fails short).1) (by simp)
  · exact absurd (ending.symm.trans (claimed.fits fits).1) (by simp)

end ReleaseFeed.Report
