import Mathlib.Data.List.TakeWhile
import ReleaseFeed.Proofs.Report.Padding
import ReleaseFeed.Proofs.Report.Plain
/-!
Several channels against each of them alone. Main statement: whatever the cache was asked before,
the text of several channels is made of the texts that each of them has with a fresh cache exactly
when none but the last one is cut off, and a fresh cache then holds the changes of the printed
entries, each text once.
-/
namespace ReleaseFeed.Report

open WrapCache (ofRequests requests textsAt textsAt_cons_self after_empty)

variable {config : Config} {channel : Channel} {channels : List Channel} {width : Nat}
  {earlier : List (List Char × Nat)}

namespace Printout

/-- Printouts with an empty line between any two; nothing follows one that was cut off. -/
def separated : List Printout → Printout
  | [] => .ofPieces []
  | [printout] => printout
  | printout :: rest => printout ++ .ofPieces (line []) ++ separated rest

theorem separated_cons_cons (printout next : Printout) (rest : List Printout) :
    separated (printout :: next :: rest) =
      printout ++ .ofPieces (line []) ++ separated (next :: rest) := rfl

theorem append_of_broken {first : Printout} (broken : ¬ first.isComplete = true)
    (second : Printout) : first ++ second = first := if_neg broken

theorem text_append_of_isComplete {first : Printout} (complete : first.isComplete = true)
    (second : Printout) : (first ++ second).text = first.text ++ second.text := by
  rw [append_of_isComplete complete, text, text, text, List.flatten_append]

theorem text_separated_cons_of_isComplete {printout : Printout}
    (complete : printout.isComplete = true) (next : Printout) (rest : List Printout) :
    (separated (printout :: next :: rest)).text =
      printout.text ++ (newline ++ (separated (next :: rest)).text) := by
  have between : (printout ++ ofPieces (line [])).isComplete = true := by
    rw [append_of_isComplete complete]
    rfl
  rw [separated_cons_cons, text_append_of_isComplete between, text_append_of_isComplete complete,
    List.append_assoc]
  rfl

/-- A printout that is cut off takes away the empty line behind it, and so all texts but that of the
last one have to be whole. -/
theorem text_separated_iff (printouts : List Printout) :
    (separated printouts).text = newline.intercalate (printouts.map text) ↔
      ∀ printout ∈ printouts.dropLast, printout.isComplete = true := by
  induction printouts with
  | nil => simp [separated, text, ofPieces]
  | cons printout rest ih =>
    cases rest with
    | nil => simp [separated]
    | cons next others =>
      rw [List.map_cons, List.map_cons, List.intercalate_cons_cons, ← List.map_cons,
        List.dropLast_cons_cons, List.forall_mem_cons, ← ih, List.append_assoc]
      by_cases complete : printout.isComplete = true
      · rw [text_separated_cons_of_isComplete complete, List.append_cancel_left_eq,
          List.append_cancel_left_eq]
        simp [complete]
      · rw [separated_cons_cons, append_of_broken complete, append_of_broken complete]
        refine iff_of_false (fun same => ?_) (fun all => complete all.1)
        rw [List.self_eq_append_right, List.append_eq_nil_iff] at same
        cases same.1

end Printout

/-- A channel that is printed alone, with a fresh cache. -/
def alone (config : Config) (channel : Channel) : Printout :=
  (renderChannel config channel .empty).1

/-- The changelog entries that are printed: none of a channel that is cut off, nor behind it. -/
def printedEntries (config : Config) (channels : List Channel) : List ChangelogEntry :=
  (channels.takeWhile fun channel => (alone config channel).isComplete).flatMap
    (shownEntries config)

/-- What printed channels ask of the cache, the latest first. -/
def requestsIn (config : Config) (channels : List Channel) : List (List Char × Nat) :=
  requestsOf (bodyWidth config) (itemsOf (printedEntries config channels))

theorem isComplete_alone : (alone config channel).isComplete = true ↔ Narrow channel :=
  isComplete_renderChannel

theorem alone_of_narrow (narrow : Narrow channel) :
    alone config channel = .ofPieces (channelPieces config channel) := by
  have fresh : renderChannel config channel (ofRequests []) = _ := renderChannel_ofRequests narrow
  exact congrArg Prod.fst fresh

theorem requestsIn_cons_of_narrow (narrow : Narrow channel) (rest : List Channel) :
    requestsIn config (channel :: rest) =
      requestsIn config rest ++ channelRequests config channel := by
  simp only [requestsIn, printedEntries, itemsOf, isComplete_alone.mpr narrow, channelRequests,
    List.takeWhile_cons_of_pos, List.flatMap_cons, List.flatMap_append, requestsOf_append]

theorem requestsIn_cons_of_wide (wide : ¬ Narrow channel) (rest : List Channel) :
    requestsIn config (channel :: rest) = [] := by
  have broken : ¬ (alone config channel).isComplete = true := mt isComplete_alone.mp wide
  simp [requestsIn, printedEntries, itemsOf, broken, requestsOf]

/-- Whatever was asked of the cache before, a channel is printed as with a fresh one. -/
theorem renderChannel_eq_alone : renderChannel config channel (ofRequests earlier) =
    (alone config channel, ofRequests (requestsIn config [channel] ++ earlier)) := by
  by_cases narrow : Narrow channel
  · rw [renderChannel_ofRequests narrow, alone_of_narrow narrow, requestsIn_cons_of_narrow narrow]
    rfl
  · rw [alone, renderChannel_of_wide narrow, renderChannel_of_wide narrow,
      requestsIn_cons_of_wide narrow, List.nil_append]

/-- So are several channels, as far as the first one that is cut off. -/
theorem renderChannels_eq_separated : renderChannels config channels (ofRequests earlier) =
    (.separated (channels.map (alone config)),
      ofRequests (requestsIn config channels ++ earlier)) := by
  induction channels generalizing earlier with
  | nil => rfl
  | cons channel rest ih =>
    cases rest with
    | nil => exact renderChannel_eq_alone
    | cons next others =>
      simp only [renderChannels, renderChannel_eq_alone, ih]
      by_cases narrow : Narrow channel
      · rw [if_pos (isComplete_alone.mpr narrow), requestsIn_cons_of_narrow narrow,
          requestsIn_cons_of_narrow narrow, List.append_assoc, List.append_assoc]
        rfl
      · have broken : ¬ (alone config channel).isComplete = true := mt isComplete_alone.mp narrow
        rw [if_neg broken, requestsIn_cons_of_wide narrow, requestsIn_cons_of_wide narrow,
          List.map_cons, List.map_cons, Printout.separated_cons_cons,
          Printout.append_of_broken broken, Printout.append_of_broken broken]

/-- The texts of several channels are those of each alone, unless one is cut off ahead of others. -/
theorem text_renderChannels_iff : (renderChannels config channels (ofRequests earlier)).1.text =
      newline.intercalate (channels.map fun channel => (alone config channel).text) ↔
    ∀ channel ∈ channels.dropLast, Narrow channel := by
  have whole := Printout.text_separated_iff (channels.map (alone config))
  rw [List.map_map, ← List.map_dropLast, List.forall_mem_map] at whole
  simp only [isComplete_alone] at whole
  rw [renderChannels_eq_separated]
  exact whole

/-- Behind requests at one width every text is stored once. -/
theorem size_ofRequests {asked : List (List Char × Nat)}
    (level : ∀ request ∈ asked, request.2 = width) :
    (ofRequests asked).size = (asked.map Prod.fst).toFinset.card := by
  have texts : textsAt width asked = asked.map Prod.fst := by
    rw [textsAt, List.takeWhile_eq_self_iff.mpr (by simpa using level)]
  cases asked with
  | nil => rfl
  | cons latest before =>
    obtain rfl := level latest List.mem_cons_self
    rw [List.card_toFinset, ← texts]
    simp [WrapCache.size, ofRequests]

theorem size_requestsOf (width : Nat) (items : List ChangelogItem) :
    (ofRequests (requestsOf width items)).size =
      (items.map ChangelogItem.body).toFinset.card := by
  have level : ∀ request ∈ requestsOf width items, request.2 = width := by simp [requestsOf]
  have texts : (requestsOf width items).map Prod.fst =
      ((items.map ChangelogItem.body).map String.toList).reverse := by
    simp [requestsOf, Function.comp_def]
  have injective : Function.Injective String.toList := fun _ _ => String.toList_inj.mp
  rw [size_ofRequests level, texts, List.toFinset_reverse, List.card_toFinset,
    List.dedup_map_of_injective injective, List.length_map, List.card_toFinset]

/-- How several channels are printed, whatever the cache was asked before. -/
structure Composes (config : Config) (channels : List Channel) (calls : List WrapCache.Call) :
    Prop where
  /-- The state of the cache leaves no trace in what is printed of a channel. -/
  one : ∀ channel ∈ channels,
    (renderChannel config channel (WrapCache.empty.after calls)).1 = alone config channel
  text_iff : (renderChannels config channels (WrapCache.empty.after calls)).1.text =
      newline.intercalate (channels.map fun channel => (alone config channel).text) ↔
    ∀ channel ∈ channels.dropLast, Narrow channel
  isComplete_iff :
    (renderChannels config channels (WrapCache.empty.after calls)).1.isComplete = true ↔
      ∀ channel ∈ channels, Narrow channel
  /-- One that is cut off is the last one that anything is printed of. -/
  printout : (renderChannels config channels (WrapCache.empty.after calls)).1 =
    .separated (channels.map (alone config))
  cutOff : (¬ ∀ channel ∈ channels, Narrow channel) → ∃ before wide after,
    StopsAt config channels (WrapCache.empty.after calls) before wide after
  /-- Of a channel that is not cut off the shown entries are printed, under its heading. -/
  entries : ∀ channel ∈ channels, Narrow channel →
    alone config channel = .ofPieces (topPieces config channel ++
      changelogPieces (bodyWidth config) (shownEntries config channel))
  /-- A fresh cache holds the texts of the printed entries behind them, each of them once. -/
  size : (renderChannels config channels .empty).2.size =
    ((itemsOf (printedEntries config channels)).map ChangelogItem.body).toFinset.card

/-- Channels are printed one by one. -/
theorem composes (config : Config) (channels : List Channel) (calls : List WrapCache.Call) :
    Composes config channels calls where
  one _ _ := by rw [after_empty, renderChannel_eq_alone]
  text_iff := by rw [after_empty, text_renderChannels_iff]
  isComplete_iff := isComplete_renderChannels
  printout := by rw [after_empty, renderChannels_eq_separated]
  cutOff := exists_stopsAt
  entries _ _ narrow := alone_of_narrow narrow
  size := by
    have fresh : renderChannels config channels (ofRequests []) = _ := renderChannels_eq_separated
    rw [List.append_nil, requestsIn] at fresh
    exact (congrArg (WrapCache.size ·.2) fresh).trans (size_requestsOf _ _)

/-- The manifest of a release under a label, with another channel behind it. -/
def beside (label : String) : Manifest := ⟨(labelled label).channels ++ [⟨"beta", "", [], []⟩]⟩

/-- The channels of `beside`, seen from a build that is not known. -/
def besideChannels (label : String) : List Channel := [labelledChannel label, ⟨"beta", "", [], []⟩]

theorem parse_beside (label : String) :
    Manifest.parse (beside label).encode = .ok (beside label) := by
  refine Manifest.parse_encode_of_inRange fun channel member => ?_
  rcases List.mem_append.mp member with first | second
  · exact inRange_labelled label channel first
  · obtain rfl := List.mem_singleton.mp second
    exact ⟨by simp, by simp⟩

theorem ofManifest_beside (label : String) :
    Channel.ofManifest ⟨"stable", none⟩ (beside label) = .ok (besideChannels label) := by
  have beta : Channel.Shows ⟨"stable", none⟩ ⟨"beta", "", [], []⟩ ⟨"beta", "", [], []⟩ :=
    ⟨rfl, rfl, .nil, fun place release found => by simp at found, .nil⟩
  exact Channel.ofManifest_eq_ok_iff.mpr
    (List.rel_append (shows_labelled label) (.cons beta .nil))

/-- Behind a channel with a label that is too long to pad, another one is not printed. -/
theorem lost_behind_wideLabel :
    Manifest.parse (beside (labelOf 65536)).encode = .ok (beside (labelOf 65536)) ∧
      Channel.ofManifest ⟨"stable", none⟩ (beside (labelOf 65536)) =
        .ok (besideChannels (labelOf 65536)) ∧
        (renderChannels ⟨80, "stable", none, false⟩ (besideChannels (labelOf 65536)) .empty).1.text ≠
          newline.intercalate ((besideChannels (labelOf 65536)).map fun channel =>
            (alone ⟨80, "stable", none, false⟩ channel).text) := by
  refine ⟨parse_beside _, ofManifest_beside _, fun same => ?_⟩
  have fresh : WrapCache.empty = ofRequests [] := rfl
  rw [fresh] at same
  have narrow := text_renderChannels_iff.mp same (labelledChannel (labelOf 65536))
    (by simp [besideChannels]) _ List.mem_cons_self
  rw [length_labelOf, maxPadding] at narrow
  omega

end ReleaseFeed.Report
