import ReleaseFeed.App.Run
import ReleaseFeed.Proofs.Channel.Conversion
import ReleaseFeed.Proofs.Channel.Lookup
import ReleaseFeed.Proofs.Fetch.Ending
import ReleaseFeed.Proofs.Fetch.Routing
import ReleaseFeed.Proofs.Report.Printing
/-!
Whole runs that read a file. Main statement: a run succeeds exactly when the file can be read, is a
manifest of version numbers and publishes the channel that is asked for; it then prints that channel
or all of them, and otherwise it prints nothing and says what was missing.
-/
namespace ReleaseFeed.App

open Fetch (Ends Engine Response Source Surroundings channelsOf outcomeOf retrieve)
open Files (Tree)
open Report (Narrow Sink)
open Text (Utf8.encode)

variable {settings : Settings} {arguments : Arguments} {sink : Sink} {channels : List Channel}

/-- How channels are shown under settings and arguments. -/
def configOf (settings : Settings) (arguments : Arguments) : Report.Config :=
  ⟨settings.wrapWidth, settings.channel, (identityOf settings).number?, arguments.newOnly⟩

/-- The text that shows channels: all of them, or the first one that the settings name. -/
def textOf? (settings : Settings) (arguments : Arguments) (channels : List Channel) :
    Option (List Char) :=
  if arguments.all then
    some (Report.renderChannels (configOf settings arguments) channels .empty).1.text
  else (Channel.find? channels settings.channel).map fun channel =>
    (Report.renderChannel (configOf settings arguments) channel .empty).1.text

section Engine

variable {source : Source} {response : Response}

/-- A usable response completes the first attempt while the program waits for it. -/
theorem await_of_ok (used : retrieve source.identity response = .ok channels) :
    ∃ engine : Engine, await source (some response) = (some .success, engine) ∧
      engine.outcome = .success ∧ engine.channels = channels := by
  have finished : awaited.2.finish source.identity response =
      (awaited.2.publish channels).complete ⟨1, .success⟩ := by
    simp only [Engine.finish, used]
    rfl
  refine ⟨((((awaited.2.publish channels).complete ⟨1, .success⟩).tell 1).endWait awaited.1).2,
    ?_, rfl, rfl⟩
  simp only [await, finished]
  rfl

/-- Any other response fails the first attempt while the program waits for it. -/
theorem await_of_error {outcome : Outcome}
    (failed : retrieve source.identity response = .error outcome) :
    ∃ engine : Engine, await source (some response) = (some outcome, engine) ∧
      engine.outcome = outcome := by
  have finished : awaited.2.finish source.identity response =
      awaited.2.complete ⟨1, outcome⟩ := by
    simp only [Engine.finish, failed]
    rfl
  refine ⟨(((awaited.2.complete ⟨1, outcome⟩).tell 1).endWait awaited.1).2, ?_, rfl⟩
  simp only [await, finished]
  rfl

end Engine

theorem printoutOf_eq (engine : Engine) : printoutOf settings arguments engine =
    if arguments.all then
      .ok (Report.renderChannels (configOf settings arguments) engine.channels .empty).1
    else
      match Channel.find? engine.channels settings.channel with
      | some channel =>
        .ok (Report.renderChannel (configOf settings arguments) channel .empty).1
      | none => .error (.channelNotPublished settings.channel) := by
  rw [← ChannelRef.channel_find?]
  unfold printoutOf
  split
  · rfl
  · simp only [Engine.activeChannel?, Engine.channel?, identityOf]
    cases ChannelRef.find? engine.channels settings.channel <;> rfl

theorem textOf?_eq_none_iff : textOf? settings arguments channels = none ↔
    arguments.all = false ∧ ∀ channel ∈ channels, channel.name ≠ settings.channel := by
  unfold textOf?
  by_cases every : arguments.all = true
  · simp [every]
  · simp [every, Channel.find?]

section Present

variable {engine : Engine}

theorem present_of_missing (missing : textOf? settings arguments engine.channels = none) :
    present settings arguments engine sink =
      (.failure (.channelNotPublished settings.channel), sink) := by
  obtain ⟨single, unnamed⟩ := textOf?_eq_none_iff.mp missing
  have none : Channel.find? engine.channels settings.channel = none :=
    List.find?_eq_none.mpr (by simpa using unnamed)
  simp [present, printoutOf_eq, single, none]

theorem present_of_text {text : List Char}
    (shown : textOf? settings arguments engine.channels = some text)
    (narrow : ∀ channel ∈ engine.channels, Narrow channel)
    (room : sink.HasRoom (Utf8.encode text).length) :
    ∃ later : Sink, present settings arguments engine sink = (.success, later) ∧
      later.accepted = sink.accepted ++ Utf8.encode text := by
  obtain ⟨printout, made, complete, rfl⟩ : ∃ printout : Report.Printout,
      printoutOf settings arguments engine = .ok printout ∧ printout.isComplete = true ∧
        printout.text = text := by
    rw [printoutOf_eq]
    unfold textOf? at shown
    by_cases every : arguments.all = true
    · rw [if_pos every] at shown ⊢
      exact ⟨_, rfl, Report.isComplete_renderChannels.mpr narrow, Option.some.inj shown⟩
    · rw [if_neg every] at shown ⊢
      obtain ⟨channel, found, same⟩ := Option.map_eq_some_iff.mp shown
      have member : channel ∈ engine.channels := List.mem_of_find?_eq_some found
      rw [found]
      exact ⟨_, rfl, Report.isComplete_renderChannel.mpr (narrow channel member), same⟩
  obtain ⟨later, printed, accepted⟩ := Sink.print_of_hasRoom room
  exact ⟨later, by simp [present, made, printed, complete], accepted⟩

end Present

section World

variable {paths : AppPaths} {world : World}

/-- The files as the request of a run finds them. -/
def treeAtRequest (paths : AppPaths) (settings : Settings) (world : World) : Tree :=
  (prepare paths settings world.tree).2

/-- What a run reads from the file that its endpoint names. -/
def contentFor (paths : AppPaths) (settings : Settings) (world : World) :
    Except TransportError (List UInt8) :=
  Endpoint.content ⟨settings.endpoint⟩ (treeAtRequest paths settings world)

theorem respond_of_file {surroundings : Surroundings} {endpoint : Endpoint}
    (file : ∀ scheme ∈ endpoint.scheme?, scheme ≠ "http".toList ∧ scheme ≠ "https".toList) :
    surroundings.respond endpoint =
      match endpoint.content surroundings.tree with
      | .ok bytes => .payload bytes
      | .error error => .failed error := by
  have fetched : surroundings.fetch endpoint = endpoint.content surroundings.tree := by
    rw [Surroundings.fetch, Endpoint.transport_of_scheme? file]
  cases content : endpoint.content surroundings.tree with
  | ok bytes => simp [Surroundings.respond, fetched, content]
  | error error => simp [Surroundings.respond, fetched, content]

/-- A run that nothing disturbs: its directories are known, its endpoint names no server, the
response comes while it waits, every label can be padded and the output takes the text. -/
structure Undisturbed (paths : AppPaths) (settings : Settings) (arguments : Arguments)
    (world : World) : Prop where
  located : AppPaths.ofEnvironment world.environment = .ok paths
  effective : settings = settingsFor arguments paths world.tree
  file : ∀ scheme ∈ Endpoint.scheme? ⟨settings.endpoint⟩,
    scheme ≠ "http".toList ∧ scheme ≠ "https".toList
  inTime : world.isInTime ⟨settings.endpoint⟩ settings.waitTimeoutSecs = true
  narrow : ∀ bytes channels, contentFor paths settings world = .ok bytes →
    channelsOf (identityOf settings) bytes = .ok channels → ∀ channel ∈ channels, Narrow channel
  room : ∀ bytes channels text, contentFor paths settings world = .ok bytes →
    channelsOf (identityOf settings) bytes = .ok channels →
      textOf? settings arguments channels = some text →
        world.sink.HasRoom (Utf8.encode text).length

namespace Undisturbed

variable (undisturbed : Undisturbed paths settings arguments world)

include undisturbed

theorem run_eq : run arguments world = runIn paths arguments world := by
  simp [run, undisturbed.located]

theorem response?_eq :
    response? settings world (treeAtRequest paths settings world) =
      some (match contentFor paths settings world with
        | .ok bytes => .payload bytes
        | .error error => .failed error) := by
  have arrives : world.isInTime (sourceOf settings).endpoint settings.waitTimeoutSecs = true :=
    undisturbed.inTime
  rw [response?, if_pos arrives]
  exact congrArg some (respond_of_file undisturbed.file)

theorem fails {response : Response} {outcome : Outcome}
    (arrived : response? settings world (treeAtRequest paths settings world) =
      some response)
    (ends : Ends (identityOf settings) response (.error outcome)) :
    (run arguments world).result = .failure (.fetchFailed settings.endpoint outcome) ∧
      (run arguments world).sink = world.sink := by
  have failed : retrieve (sourceOf settings).identity response = .error outcome := ends.retrieve_eq
  obtain ⟨engine, awaited, kept⟩ := await_of_error failed
  have isFailure : outcome ≠ .success := by cases ends <;> simp
  have concluded : conclude settings arguments (some outcome) engine world.sink =
      (.failure (.fetchFailed settings.endpoint outcome), world.sink, []) := by
    cases outcome with
    | success => exact absurd rfl isFailure
    | connectionFailed => simp [conclude, Engine.close, kept]
    | invalidData => simp [conclude, Engine.close, kept]
  rw [undisturbed.run_eq]
  simp only [treeAtRequest] at arrived
  simp [runIn, ← undisturbed.effective, arrived, awaited, concluded]

theorem presents {response : Response}
    (arrived : response? settings world (treeAtRequest paths settings world) =
      some response)
    (ends : Ends (identityOf settings) response (.ok channels)) :
    ∃ engine : Engine, engine.channels = channels ∧
      ((run arguments world).result, (run arguments world).sink) =
        present settings arguments engine world.sink := by
  have used : retrieve (sourceOf settings).identity response = .ok channels := ends.retrieve_eq
  obtain ⟨engine, awaited, kept, published⟩ := await_of_ok used
  refine ⟨engine.close, published, ?_⟩
  have concluded : conclude settings arguments (some .success) engine world.sink =
      ((present settings arguments engine.close world.sink).1,
        (present settings arguments engine.close world.sink).2,
        [⟨.info, "Rendering update info from " ++ settings.endpoint⟩]) := by
    have done : engine.close.outcome = .success := kept
    simp [conclude, done]
  rw [undisturbed.run_eq]
  simp only [treeAtRequest] at arrived
  simp [runIn, ← undisturbed.effective, arrived, awaited, concluded]

end Undisturbed

/-- How a run ends, by what its endpoint's file holds. -/
structure EndsByContent (settings : Settings) (arguments : Arguments)
    (content : Except TransportError (List UInt8)) (before : Sink) (finish : Finish) : Prop where
  success_iff : finish.result = .success ↔ ∃ bytes manifest, content = .ok bytes ∧
    Manifest.parse bytes = .ok manifest ∧
      (∀ text ∈ manifest.versionTexts, ∃ number, VersionNumber.parse text = .ok number) ∧
        (arguments.all = true ∨ ∃ record ∈ manifest.channels, record.name = settings.channel)
  /-- A run that succeeds has printed what shows the channels of the file, and nothing else. -/
  printed : finish.result = .success → ∃ bytes channels text, content = .ok bytes ∧
    channelsOf (identityOf settings) bytes = .ok channels ∧
      textOf? settings arguments channels = some text ∧
        finish.sink.accepted = before.accepted ++ Utf8.encode text
  /-- A run that fails has printed nothing. -/
  silent : finish.result ≠ .success → finish.sink = before ∧ finish.result.exitCode = 1
  unreadable : ∀ error, content = .error error →
    finish.result = .failure (.fetchFailed settings.endpoint .connectionFailed)
  malformed : ∀ bytes error, content = .ok bytes → Manifest.parse bytes = .error error →
    finish.result = .failure (.fetchFailed settings.endpoint .invalidData)
  badVersion : ∀ bytes manifest text error, content = .ok bytes →
    Manifest.parse bytes = .ok manifest → text ∈ manifest.versionTexts →
      VersionNumber.parse text = .error error →
        finish.result = .failure (.fetchFailed settings.endpoint .invalidData)
  unpublished : ∀ bytes manifest, content = .ok bytes → Manifest.parse bytes = .ok manifest →
    (∀ text ∈ manifest.versionTexts, ∃ number, VersionNumber.parse text = .ok number) →
      arguments.all = false → (∀ record ∈ manifest.channels, record.name ≠ settings.channel) →
        finish.result = .failure (.channelNotPublished settings.channel)

section Ending

variable (undisturbed : Undisturbed paths settings arguments world)

include undisturbed

theorem Undisturbed.fails_of_ends {bytes : List UInt8} {outcome : Outcome}
    (read : contentFor paths settings world = .ok bytes)
    (ends : Ends (identityOf settings) (.payload bytes) (.error outcome)) :
    (run arguments world).result = .failure (.fetchFailed settings.endpoint outcome) ∧
      (run arguments world).sink = world.sink :=
  undisturbed.fails (by rw [undisturbed.response?_eq, read]) ends

theorem Undisturbed.fails_of_unreadable {error : TransportError}
    (unread : contentFor paths settings world = .error error) :
    (run arguments world).result =
        .failure (.fetchFailed settings.endpoint .connectionFailed) ∧
      (run arguments world).sink = world.sink :=
  undisturbed.fails (by rw [undisturbed.response?_eq, unread]) (.unreachable error)

variable {bytes : List UInt8} {manifest : Manifest}
  (read : contentFor paths settings world = .ok bytes)
  (parsed : Manifest.parse bytes = .ok manifest)
  (built : Channel.ofManifest (identityOf settings).marker manifest = .ok channels)

include read parsed built

theorem Undisturbed.succeeds {text : List Char}
    (shown : textOf? settings arguments channels = some text) :
    (run arguments world).result = .success ∧
      (run arguments world).sink.accepted = world.sink.accepted ++ Utf8.encode text := by
  obtain ⟨engine, rfl, same⟩ := undisturbed.presents
    (by rw [undisturbed.response?_eq, read]) (.usable parsed built)
  have channelsOf_eq := (Fetch.channelsOf_of_parse_ok parsed).trans built
  obtain ⟨later, presented, accepted⟩ := present_of_text shown
    (undisturbed.narrow _ _ read channelsOf_eq) (undisturbed.room _ _ _ read channelsOf_eq shown)
  obtain ⟨result, sink⟩ := Prod.mk.inj (same.trans presented)
  exact ⟨result, sink ▸ accepted⟩

/-- A run that does not find its channel says so, and prints nothing. -/
theorem Undisturbed.misses (missing : textOf? settings arguments channels = none) :
    (run arguments world).result = .failure (.channelNotPublished settings.channel) ∧
      (run arguments world).sink = world.sink := by
  obtain ⟨engine, rfl, same⟩ := undisturbed.presents
    (by rw [undisturbed.response?_eq, read]) (.usable parsed built)
  exact Prod.mk.inj (same.trans (present_of_missing missing))

omit read parsed built in
/-- A run finds its channels in the file, or fails and prints nothing. -/
theorem Undisturbed.finds_or_fails :
    (∃ bytes manifest channels text, contentFor paths settings world = .ok bytes ∧
      Manifest.parse bytes = .ok manifest ∧
        Channel.ofManifest (identityOf settings).marker manifest = .ok channels ∧
          textOf? settings arguments channels = some text) ∨
      ∃ error, (run arguments world).result = .failure error ∧
        (run arguments world).sink = world.sink := by
  cases read : contentFor paths settings world with
  | error error => exact .inr ⟨_, undisturbed.fails_of_unreadable read⟩
  | ok bytes =>
    obtain ⟨result, ends⟩ : ∃ result, Ends (identityOf settings) (.payload bytes) result :=
      Fetch.exists_ends (.payload bytes)
    cases result with
    | error outcome => exact .inr ⟨_, undisturbed.fails_of_ends read ends⟩
    | ok channels =>
      cases ends with
      | usable parsed built =>
        cases shown : textOf? settings arguments channels with
        | none => exact .inr ⟨_, undisturbed.misses read parsed built shown⟩
        | some text => exact .inl ⟨bytes, _, channels, text, rfl, parsed, built, shown⟩

end Ending

/-- Channels have a text that shows them exactly if their records are asked for. -/
theorem exists_textOf?_iff {manifest : Manifest} {marker : BuildMarker}
    (built : Channel.ofManifest marker manifest = .ok channels) :
    (∃ text, textOf? settings arguments channels = some text) ↔
      arguments.all = true ∨ ∃ record ∈ manifest.channels, record.name = settings.channel := by
  have named : (∃ channel ∈ channels, channel.name = settings.channel) ↔
      ∃ record ∈ manifest.channels, record.name = settings.channel := by
    rw [← List.mem_map, Channel.names_ofManifest built, List.mem_map]
  rw [← Option.ne_none_iff_exists', Ne, textOf?_eq_none_iff, ← named]
  cases arguments.all <;> simp

end World

/-- A manifest with a stable channel of one release. -/
def infoPayload : List UInt8 :=
  Utf8.encode ("\x7b\"channels\":[\x7b\"name\":\"stable\",\"versions\":[".toList ++
    "\x7b\"version\":\"1.0.0\",\"date\":\"2023-01-01T00:00:00Z\"\x7d]\x7d]\x7d".toList)

/-- The channel of `infoPayload`, seen from a build that runs another release. -/
def infoChannel : Channel :=
  ⟨"stable", "", [⟨"1.0.0", .ofComponents 1 0 0, ⟨⟨2023, 1, 1⟩, 0, 0, 0, 0⟩, false⟩], []⟩

/-- A directory with nothing but a file of update info. -/
def infoWorld : World where
  environment := ⟨some "/home".toList, none, none, none⟩
  server := fun _ _ => .unanswered ""
  isInTime := fun _ _ => true
  tree := ⟨[(["info.json".toList], .file 0 infoPayload)], [], 1⟩
  sink := .unlimited

def infoPaths : AppPaths := ⟨"/home/.config/updinfo".toList, "/home/.local/share/updinfo".toList⟩

def infoArguments : Arguments := ⟨some "info.json", none, none, none, false, false, false⟩

end ReleaseFeed.App
