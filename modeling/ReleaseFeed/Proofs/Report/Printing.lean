import ReleaseFeed.Proofs.Text.Utf8
import ReleaseFeed.Report.Sink

namespace ReleaseFeed.Report

open Text (Utf8.encode Utf8.encode_append)

variable {config : Config} {channel : Channel} {channels : List Channel} {cache : WrapCache}

/-- Whether every label of a channel can be padded. -/
def Narrow (channel : Channel) : Prop :=
  ∀ release ∈ channel.versions, release.label.length ≤ maxPadding

theorem foldl_max_le_iff {widths : List Nat} {start bound : Nat} :
    widths.foldl max start ≤ bound ↔ start ≤ bound ∧ ∀ width ∈ widths, width ≤ bound := by
  induction widths generalizing start with
  | nil => simp
  | cons width rest ih =>
    rw [List.foldl_cons, ih, List.forall_mem_cons, Nat.max_le, and_assoc]

theorem labelWidth_le_iff : labelWidth channel ≤ maxPadding ↔ Narrow channel := by
  simp [labelWidth, foldl_max_le_iff, Narrow]

theorem isComplete_renderChannel :
    (renderChannel config channel cache).1.isComplete = true ↔ Narrow channel := by
  rw [← labelWidth_le_iff]
  by_cases wide : maxPadding < labelWidth channel
  · simp [renderChannel, wide]
  · simp [renderChannel, wide, Printout.ofPieces, Nat.le_of_not_lt wide]

/-- A label that cannot be padded cuts a channel off behind its heading. -/
theorem renderChannel_of_wide (wide : ¬ Narrow channel) (cache : WrapCache) :
    renderChannel config channel cache = (⟨headingPieces channel, false⟩, cache) := by
  rw [← labelWidth_le_iff, Nat.not_le] at wide
  simp only [renderChannel, wide, if_true]

theorem Printout.append_of_isComplete {first : Printout} (complete : first.isComplete = true)
    (second : Printout) : first ++ second = ⟨first.pieces ++ second.pieces, second.isComplete⟩ :=
  if_pos complete

theorem renderChannels_cons_of_wide {rest : List Channel} (wide : ¬ Narrow channel) :
    (renderChannels config (channel :: rest) cache).1 =
      (renderChannel config channel cache).1 := by
  have broken : ¬ (renderChannel config channel cache).1.isComplete = true :=
    fun complete => wide (isComplete_renderChannel.mp complete)
  cases rest with
  | nil => rfl
  | cons next others => simp [renderChannels, broken]

/-- The rest of several channels follows the first one behind an empty line. -/
theorem renderChannels_cons_of_narrow {rest : List Channel} (narrow : Narrow channel)
    (more : rest ≠ []) : (renderChannels config (channel :: rest) cache).1 =
      ⟨(renderChannel config channel cache).1.pieces ++ line [] ++
        (renderChannels config rest (renderChannel config channel cache).2).1.pieces,
        (renderChannels config rest (renderChannel config channel cache).2).1.isComplete⟩ := by
  have complete : (renderChannel config channel cache).1.isComplete = true :=
    isComplete_renderChannel.mpr narrow
  cases rest with
  | nil => exact absurd rfl more
  | cons next others =>
    simp only [renderChannels, complete, if_true]
    rw [Printout.append_of_isComplete complete, Printout.append_of_isComplete rfl]
    rfl

/-- A printout of channels is finished exactly when all their labels can be padded. -/
theorem isComplete_renderChannels : (renderChannels config channels cache).1.isComplete = true ↔
    ∀ channel ∈ channels, Narrow channel := by
  induction channels generalizing cache with
  | nil => simp [renderChannels, Printout.ofPieces]
  | cons channel rest ih =>
    by_cases narrow : Narrow channel
    · by_cases more : rest = []
      · subst more
        simp [renderChannels, isComplete_renderChannel]
      · simp [renderChannels_cons_of_narrow narrow more, ih, narrow]
    · simp [renderChannels_cons_of_wide narrow, isComplete_renderChannel, narrow]

/-- A printout that is not finished ends behind the heading of the first channel with a label that
cannot be padded. -/
structure StopsAt (config : Config) (channels : List Channel) (cache : WrapCache)
    (before : List Channel) (wide : Channel) (after : List Channel) : Prop where
  split : channels = before ++ wide :: after
  narrow : ∀ channel ∈ before, Narrow channel
  broken : ¬ Narrow wide
  pieces : (renderChannels config channels cache).1.pieces =
    (renderChannels config before cache).1.pieces ++ (if before = [] then [] else line []) ++
      headingPieces wide

theorem exists_stopsAt (broken : ¬ ∀ channel ∈ channels, Narrow channel) :
    ∃ before wide after, StopsAt config channels cache before wide after := by
  induction channels generalizing cache with
  | nil => simp at broken
  | cons channel rest ih =>
    by_cases narrow : Narrow channel
    · have later : ¬ ∀ channel ∈ rest, Narrow channel := by simpa [narrow] using broken
      have more : rest ≠ [] := by
        rintro rfl
        simp at later
      obtain ⟨before, wide, after, stops⟩ :=
        @ih (renderChannel config channel cache).2 later
      refine ⟨channel :: before, wide, after, by simp [stops.split], ?_, stops.broken, ?_⟩
      · simpa [narrow] using stops.narrow
      · rw [renderChannels_cons_of_narrow narrow more, stops.pieces]
        by_cases first : before = []
        · subst first
          simp [renderChannels, Printout.ofPieces]
        · simp [renderChannels_cons_of_narrow narrow first, first]
    · refine ⟨[], channel, rest, rfl, by simp, narrow, ?_⟩
      rw [renderChannels_cons_of_wide narrow, renderChannel_of_wide narrow]
      rfl

namespace Sink

variable {sink : Sink}

def HasRoom (sink : Sink) (bytes : Nat) : Prop := ∀ limit ∈ sink.limit, bytes ≤ limit.room

theorem hasRoom_unlimited (bytes : Nat) : unlimited.HasRoom bytes := by
  simp [HasRoom, unlimited]

/-- What is written behind a text counts only if the text was accepted in full. -/
theorem write_append (sink : Sink) (first second : List UInt8) :
    sink.write (first ++ second) =
      match sink.write first with
      | (none, later) => later.write second
      | (some error, later) => (some error, later) := by
  obtain ⟨accepted, limit⟩ := sink
  cases limit with
  | none => simp [write]
  | some limit =>
    obtain ⟨room, error⟩ := limit
    by_cases fits : first.length ≤ room
    · have rest : first.length + second.length ≤ room ↔ second.length ≤ room - first.length := by
        omega
      simp [write, fits, rest, List.take_append, List.take_of_length_le fits, Nat.sub_add_eq]
    · have short : room ≤ first.length := Nat.le_of_not_le fits
      have exceeds : ¬ first.length + second.length ≤ room := by omega
      have full : room - (first.length + second.length) = room - first.length := by omega
      simp [write, fits, exceeds, full, List.take_append_of_le_length short]

/-- Pieces written one after the other are written like the whole text. -/
theorem writeAll_eq_write (sink : Sink) (pieces : List (List Char)) :
    sink.writeAll pieces = sink.write (Utf8.encode pieces.flatten) := by
  induction pieces generalizing sink with
  | nil => rcases sink with ⟨accepted, _ | limit⟩ <;> simp [writeAll, write, Utf8.encode]
  | cons piece rest ih =>
    rw [List.flatten_cons, Utf8.encode_append, write_append, writeAll]
    rcases sink.write (Utf8.encode piece) with ⟨_ | error, later⟩
    · exact ih later
    · rfl

theorem write_of_hasRoom {bytes : List UInt8} (room : sink.HasRoom bytes.length) :
    ∃ later : Sink, sink.write bytes = (none, later) ∧
      later.accepted = sink.accepted ++ bytes := by
  obtain ⟨accepted, limit⟩ := sink
  cases limit with
  | none => exact ⟨_, rfl, rfl⟩
  | some limit =>
    have whole : bytes.length ≤ limit.room := room limit rfl
    refine ⟨⟨accepted ++ bytes, some ⟨limit.room - bytes.length, limit.error⟩⟩, ?_, rfl⟩
    simp [write, whole, List.take_of_length_le whole]

/-- A printout ends as far as it was made in an output with room for its text. -/
theorem print_of_hasRoom {printout : Printout}
    (room : sink.HasRoom (Utf8.encode printout.text).length) :
    ∃ later : Sink, sink.print printout =
        (if printout.isComplete then .finished else .cutOff, later) ∧
      later.accepted = sink.accepted ++ Utf8.encode printout.text := by
  obtain ⟨later, written, accepted⟩ := write_of_hasRoom room
  rw [print, writeAll_eq_write, ← Printout.text, written]
  exact ⟨later, rfl, accepted⟩

end Sink

end ReleaseFeed.Report
