import ReleaseFeed.Fetch.Engine

namespace ReleaseFeed.Fetch

/-- An operation on the engine, or a step of a job or a wait. Completing operations carry the
response that completes the attempt in flight. -/
inductive Operation where
  | start
  | retry
  | finish (response : Response)
  | tell (number : Nat)
  | subscribe
  | unsubscribe (slot : Nat)
  | receive (slot : Nat)
  | beginWait
  | advanceWait (wait : Wait)
  | endWait (wait : Wait)
  | waitNow
  | channel (name : String)
  | shutdown (response : Response)
  | cancel

inductive Answer where
  | none
  | admission (admission : Admission)
  | slot (slot : Nat)
  | received (received : Received)
  | wait (wait : Wait)
  | outcome (outcome : Option Outcome)
  | channel (reference : Option ChannelRef)

/-- The answer to an operation and the state behind it. -/
def Engine.step (identity : BuildIdentity) (engine : Engine) : Operation → Answer × Engine
  | .start => engine.start.map .admission id
  | .retry => engine.retry.map .admission id
  | .finish response => (.none, engine.finish identity response)
  | .tell number => (.none, engine.tell number)
  | .subscribe => engine.subscribe.map .slot id
  | .unsubscribe slot => (.none, engine.unsubscribe slot)
  | .receive slot => (engine.receive slot).map .received id
  | .beginWait => (.wait engine.beginWait, engine)
  | .advanceWait wait => (engine.advanceWait wait).map .wait id
  | .endWait wait => (engine.endWait wait).map .outcome id
  | .waitNow => engine.waitNow.map .outcome id
  | .channel name => (.channel (engine.channel? name), engine)
  | .shutdown response => (.none, engine.shutdown identity response)
  | .cancel => (.none, engine.cancel)

/-- The answers to operations in order, and the state behind the last. -/
def Engine.run (identity : BuildIdentity) (engine : Engine) :
    List Operation → List Answer × Engine
  | [] => ([], engine)
  | operation :: rest =>
    let (answer, engine) := engine.step identity operation
    let (answers, engine) := engine.run identity rest
    (answer :: answers, engine)

def launchRecords (source : Source) (engine : Engine) : List LogRecord :=
  [⟨.debug, "Starting update info fetch #" ++ toString (engine.attempts + 1) ++ " from " ++
    source.endpoint.text⟩]

/-- What is logged about a request for the first attempt. -/
def startRecords (source : Source) (engine : Engine) : List LogRecord :=
  match engine.start.1 with
  | .accepted => launchRecords source engine
  | .refused => [⟨.debug, "Update info fetch already started, ignoring start request"⟩]
  | .closed => []

def retryRecords (source : Source) (engine : Engine) : List LogRecord :=
  match engine.retry.1 with
  | .accepted => launchRecords source engine
  | .refused =>
    if engine.isStarted then
      [⟨.debug, "Update info fetch still in flight, ignoring retry request"⟩]
    else [⟨.debug, "Update info retry requested before any fetch was started"⟩]
  | .closed => []

def finishRecords (source : Source) (response : Response) (engine : Engine) : List LogRecord :=
  match engine.inFlight with
  | none => []
  | some attempt => responseRecords source attempt response

/-- What is logged when the subscribers were told of a completion. -/
def Engine.notifyRecord (engine : Engine) (completion : Completion) : LogRecord :=
  ⟨.debug, attemptName completion.attempt ++ " completed (" ++ completion.outcome.message ++
    "), notified " ++ toString engine.listeners.length ++ " subscribers"⟩

/-- What is logged when the subscribers are told of an attempt. -/
def tellRecords (number : Nat) (engine : Engine) : List LogRecord :=
  ((engine.untold.find? (·.attempt = number)).map engine.notifyRecord).toList

/-- What is logged when the subscribers are told of all attempts; all completions reach the same
ones. -/
def tellAllRecords (engine : Engine) : List LogRecord := engine.untold.map engine.notifyRecord

def closeRecords : List LogRecord := [⟨.debug, "Update info fetcher shut down"⟩]

/-- What is logged about an attempt that is given up. -/
def cancelRecords (engine : Engine) : List LogRecord :=
  if engine.inFlight.isSome then
    [⟨.warn, "Update info fetch task ended abnormally: task was cancelled"⟩]
  else []

def Operation.records (source : Source) (engine : Engine) : Operation → List LogRecord
  | .start => startRecords source engine
  | .retry => retryRecords source engine
  | .finish response => finishRecords source response engine
  | .tell number => tellRecords number engine
  | .shutdown response =>
    if engine.isOpen then
      finishRecords source response engine ++
        tellAllRecords (engine.finish source.identity response) ++ closeRecords
    else []
  | .cancel =>
    if engine.isOpen then tellAllRecords engine ++ cancelRecords engine ++ closeRecords else []
  | _ => []

end ReleaseFeed.Fetch
