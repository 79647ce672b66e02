import ReleaseFeed.App.CommandLine
import ReleaseFeed.App.Error
import ReleaseFeed.App.Journal
import ReleaseFeed.Fetch.Operation
import ReleaseFeed.Fetch.Request
import ReleaseFeed.Report.Sink
/-!
One run of the program: settings and arguments are joined, the log is opened, update info is
fetched once, and its channels are printed. A run that fails prints nothing or the beginning of the
text, and says why.
-/
namespace ReleaseFeed.App

open Fetch (Engine Response Source Surroundings Wait)
open Files (Tree)
open Report (Printout Sink)

structure World where
  environment : Environment
  server : Endpoint → List Char → Http.Exchange
  /-- Whether the response of an endpoint comes within a number of seconds. -/
  isInTime : Endpoint → Nat → Bool
  tree : Tree
  sink : Sink

inductive Result where
  | success
  | failure (error : AppError)
  /-- The text was cut off by a label that is too long to pad. -/
  | crash
deriving DecidableEq

/-- What a run leaves, and the records that it added to its log. -/
structure Finish where
  result : Result
  tree : Tree
  sink : Sink
  records : List LogRecord

def Result.exitCode : Result → Nat
  | .success => 0
  | .failure _ => 1
  | .crash => 101

def Result.complaint? : Result → Option String
  | .failure error => some ("updinfo: " ++ error.message)
  | _ => none

/-- The version of this program, which counts as the running build if none is given. -/
def ownVersion : String := "0.4.2"

def identityOf (settings : Settings) : BuildIdentity :=
  ⟨settings.channel, some (settings.currentVersion.getD ownVersion)⟩

def sourceOf (settings : Settings) : Source :=
  let endpoint : Endpoint := ⟨settings.endpoint⟩
  ⟨endpoint, endpoint.transport.name, identityOf settings⟩

/-- The response that arrives while the program waits for it. -/
def response? (settings : Settings) (world : World) (tree : Tree) : Option Response :=
  let endpoint := (sourceOf settings).endpoint
  let surroundings : Surroundings := ⟨world.server, tree⟩
  if world.isInTime endpoint settings.waitTimeoutSecs then some (surroundings.respond endpoint)
  else none

/-- An engine whose first attempt is in flight, and a wait for that attempt. -/
def awaited : Wait × Engine :=
  let engine := Engine.initial.start.2
  let (wait, engine) := engine.advanceWait engine.beginWait
  engine.advanceWait wait

/-- What a wait for the first attempt was told, and the engine behind it. -/
def await (source : Source) (response : Option Response) : Option Outcome × Engine :=
  let engine := match response with
    | some response => (awaited.2.finish source.identity response).tell 1
    | none => awaited.2
  engine.endWait awaited.1

def startingRecords (paths : AppPaths) (settings : Settings) : List LogRecord :=
  let source := sourceOf settings
  Journal.openingRecords paths settings.debugLogging ++
    ⟨.debug, "Effective settings: " ++ settings.describe⟩ ::
    (Fetch.startRecords source Engine.initial ++ Fetch.requestRecords source.endpoint)

/-- The log and the files as the request finds them. -/
def prepare (paths : AppPaths) (settings : Settings) (tree : Tree) : Journal × Tree :=
  let (journal, tree) := Journal.openIn paths settings.debugLogging settings.maxLogSizeBytes tree
  journal.addAll tree (startingRecords paths settings)

/-- What is logged from the response to the end of the wait. -/
def fetchRecords (source : Source) (response : Option Response) : List LogRecord :=
  match response with
  | some response =>
    Fetch.finishRecords source response awaited.2 ++
      Fetch.tellRecords 1 (awaited.2.finish source.identity response) ++ Fetch.closeRecords
  | none => []

def printoutOf (settings : Settings) (arguments : Arguments) (engine : Engine) :
    Except AppError Printout :=
  let identity := identityOf settings
  let config : Report.Config :=
    ⟨settings.wrapWidth, identity.channel, identity.number?, arguments.newOnly⟩
  if arguments.all then .ok (Report.renderChannels config engine.channels .empty).1
  else
    match engine.activeChannel? identity with
    | some reference => .ok (Report.renderChannel config reference.channel .empty).1
    | none => .error (.channelNotPublished identity.channel)

def present (settings : Settings) (arguments : Arguments) (engine : Engine) (sink : Sink) :
    Result × Sink :=
  match printoutOf settings arguments engine with
  | .error error => (.failure error, sink)
  | .ok printout =>
    match sink.print printout with
    | (.finished, sink) => (.success, sink)
    | (.refused error, sink) => (.failure (.operationFailed "Write output" (.system error)), sink)
    | (.cutOff, sink) => (.crash, sink)

/-- How a run goes on after its wait, with what is logged on the way. -/
def conclude (settings : Settings) (arguments : Arguments) (outcome : Option Outcome)
    (engine : Engine) (sink : Sink) : Result × Sink × List LogRecord :=
  match outcome with
  | none => (.failure (.timeout "Update info fetch" settings.waitTimeoutSecs), sink, [])
  | some _ =>
    match engine.close.outcome with
    | .success =>
      let (result, sink) := present settings arguments engine.close sink
      (result, sink, [⟨.info, "Rendering update info from " ++ settings.endpoint⟩])
    | outcome => (.failure (.fetchFailed settings.endpoint outcome), sink, [])

def closingRecords : Result → List LogRecord
  | .failure error => [⟨.error, error.message⟩]
  | _ => []

def settingsFor (arguments : Arguments) (paths : AppPaths) (tree : Tree) : Settings :=
  arguments.apply (Settings.load paths tree).1

/-- A run whose directories are known. -/
def runIn (paths : AppPaths) (arguments : Arguments) (world : World) : Finish :=
  let settings := settingsFor arguments paths world.tree
  let (journal, tree) := prepare paths settings world.tree
  let source := sourceOf settings
  let response := response? settings world tree
  let (outcome, engine) := await source response
  let (result, sink, records) := conclude settings arguments outcome engine world.sink
  let (journal, tree) :=
    journal.addAll tree (fetchRecords source response ++ records ++ closingRecords result)
  ⟨result, tree, sink, journal.records⟩

def run (arguments : Arguments) (world : World) : Finish :=
  match AppPaths.ofEnvironment world.environment with
  | .ok paths => runIn paths arguments world
  | .error error =>
    ⟨.failure (.operationFailed "Locate app directories" (.ofPaths error)), world.tree,
      world.sink, []⟩

end ReleaseFeed.App
