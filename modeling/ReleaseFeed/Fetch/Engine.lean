import ReleaseFeed.Channel.Reference
import ReleaseFeed.Fetch.Retrieval
/-!
The engine that fetches update info. At most one attempt is in flight; when it completes, its
channels are published if it succeeded and its outcome is kept. Every subscriber is told in a step
of its own behind that, and requests, waits and other attempts may come in between. Waiting for an
attempt is a subscription that ends with the wait.
-/
namespace ReleaseFeed.Fetch

/-- The completions that a subscriber has not taken yet. -/
structure Mailbox where
  queue : List Completion
  isDropped : Bool
deriving DecidableEq

namespace Mailbox

def empty : Mailbox := ⟨[], false⟩

def dropped : Mailbox := ⟨[], true⟩

def push (mailbox : Mailbox) (completion : Completion) : Mailbox :=
  { mailbox with queue := mailbox.queue ++ [completion] }

end Mailbox

/-- Who is told about completions: a receiver, or a wait that has not ended. -/
inductive Subscriber where
  | receiver (slot : Nat)
  | waiter (number : Nat)
deriving DecidableEq

namespace Subscriber

def slot? : Subscriber → Option Nat
  | receiver slot => some slot
  | waiter _ => none

def number? : Subscriber → Option Nat
  | receiver _ => none
  | waiter number => some number

end Subscriber

/-- The state of the engine. Receivers and waits are numbered in the order of their creation. -/
structure Engine where
  isOpen : Bool
  isStarted : Bool
  isDone : Bool
  outcome : Outcome
  attempts : Nat
  calls : Nat
  inFlight : Option Nat
  /-- What has completed, but was not yet told to the subscribers. -/
  untold : List Completion
  channels : List Channel
  subscribers : List Subscriber
  receivers : List Mailbox
  waiters : List Mailbox
deriving DecidableEq

/-- What becomes of a request for an attempt. -/
inductive Admission where
  | accepted
  | refused
  /-- The engine was shut down before. -/
  | closed
deriving DecidableEq

/-- How far a wait has come. -/
inductive Wait where
  | ended (outcome : Option Outcome)
  /-- An attempt was in flight. -/
  | begun
  | listed (number : Nat)
  /-- Once listed, it looked again and found an attempt in flight. -/
  | pending (number : Nat)
  /-- Once listed, it looked again and found that an attempt had completed. -/
  | answered (number : Nat) (outcome : Outcome)
deriving DecidableEq

inductive Received where
  | completion (completion : Completion)
  /-- Nothing yet. -/
  | empty
  /-- Nothing any more. -/
  | disconnected
  | noReceiver
deriving DecidableEq

namespace Engine

def initial : Engine where
  isOpen := true
  isStarted := false
  isDone := false
  outcome := .success
  attempts := 0
  calls := 0
  inFlight := none
  untold := []
  channels := []
  subscribers := []
  receivers := []
  waiters := []

/-- The first step of a job: it calls the transport, once. -/
def beginJob (engine : Engine) : Engine := { engine with calls := engine.calls + 1 }

/-- Numbers the next attempt and sends its job on its way. -/
def launch (engine : Engine) : Engine :=
  { engine with
    attempts := engine.attempts + 1
    inFlight := some (engine.attempts + 1) }.beginJob

def start (engine : Engine) : Admission × Engine :=
  if !engine.isOpen then (.closed, engine)
  else if engine.isStarted then (.refused, engine)
  else (.accepted, { engine with isStarted := true }.launch)

/-- Asks for another attempt, which is granted once the one before it has completed. -/
def retry (engine : Engine) : Admission × Engine :=
  if !engine.isOpen then (.closed, engine)
  else if !engine.isStarted || !engine.isDone then (.refused, engine)
  else (.accepted, { engine with isDone := false }.launch)

def mailbox? (engine : Engine) : Subscriber → Option Mailbox
  | .receiver slot => engine.receivers[slot]?
  | .waiter number => engine.waiters[number]?

def isListening (engine : Engine) (subscriber : Subscriber) : Bool :=
  (engine.mailbox? subscriber).any fun mailbox => !mailbox.isDropped

def listeners (engine : Engine) : List Subscriber :=
  engine.subscribers.filter engine.isListening

/-- Puts a completion into mailboxes, once for every time that their place is listed. -/
def deliver (completion : Completion) (places : List Nat) (mailboxes : List Mailbox) :
    List Mailbox :=
  places.foldl (fun mailboxes place => mailboxes.modify place (·.push completion)) mailboxes

/-- Replaces the published channels, all at once. -/
def publish (channels : List Channel) (engine : Engine) : Engine := { engine with channels }

/-- Keeps the outcome of the attempt in flight, which from then on counts as completed. -/
def complete (engine : Engine) (completion : Completion) : Engine :=
  { engine with
    isDone := true
    outcome := completion.outcome
    inFlight := none
    untold := engine.untold ++ [completion] }

/-- Tells the subscribers of a completion; those that gave up their mailbox are forgotten. -/
def notify (engine : Engine) (completion : Completion) : Engine :=
  { engine with
    subscribers := engine.listeners
    receivers := deliver completion (engine.listeners.filterMap (·.slot?)) engine.receivers
    waiters := deliver completion (engine.listeners.filterMap (·.number?)) engine.waiters }

/-- Completes the attempt in flight, if there is one, with a response. -/
def finish (identity : BuildIdentity) (response : Response) (engine : Engine) : Engine :=
  match engine.inFlight with
  | none => engine
  | some attempt =>
    match retrieve identity response with
    | .ok channels => (engine.publish channels).complete ⟨attempt, .success⟩
    | .error outcome => engine.complete ⟨attempt, outcome⟩

/-- Tells the subscribers of an attempt that completed. The jobs of several attempts that have
completed do so in any order. -/
def tell (number : Nat) (engine : Engine) : Engine :=
  match engine.untold.find? (·.attempt = number) with
  | none => engine
  | some completion =>
    { engine with untold := engine.untold.filter (·.attempt ≠ number) }.notify completion

def tellAll (engine : Engine) : Engine :=
  engine.untold.foldl notify { engine with untold := [] }

def subscribe (engine : Engine) : Nat × Engine :=
  (engine.receivers.length,
    { engine with
      subscribers := engine.subscribers ++ [.receiver engine.receivers.length]
      receivers := engine.receivers ++ [.empty] })

def unsubscribe (slot : Nat) (engine : Engine) : Engine :=
  { engine with receivers := engine.receivers.modify slot fun _ => .dropped }

def receive (slot : Nat) (engine : Engine) : Received × Engine :=
  match engine.receivers[slot]? with
  | none => (.noReceiver, engine)
  | some mailbox =>
    if mailbox.isDropped then (.noReceiver, engine)
    else
      match mailbox.queue with
      | completion :: rest =>
        (.completion completion,
          { engine with receivers := engine.receivers.set slot { mailbox with queue := rest } })
      | [] =>
        (if .receiver slot ∈ engine.subscribers then .empty else .disconnected, engine)

def beginWait (engine : Engine) : Wait :=
  if !engine.isStarted then .ended none
  else if engine.isDone then .ended (some engine.outcome)
  else .begun

def register (engine : Engine) : Engine :=
  { engine with
    subscribers := engine.subscribers ++ [.waiter engine.waiters.length]
    waiters := engine.waiters ++ [.empty] }

/-- Takes a wait one step further: it is listed, and then it looks again, since the attempt may have
completed before it was listed. -/
def advanceWait (wait : Wait) (engine : Engine) : Wait × Engine :=
  match wait with
  | .begun => (.listed engine.waiters.length, engine.register)
  | .listed number =>
    (if engine.isDone then .answered number engine.outcome else .pending number, engine)
  | wait => (wait, engine)

def leave (number : Nat) (engine : Engine) : Engine :=
  { engine with
    subscribers := engine.subscribers.filter (· ≠ .waiter number)
    waiters := engine.waiters.modify number fun _ => .dropped }

/-- What a listed wait was told first. -/
def toldFirst? (number : Nat) (engine : Engine) : Option Outcome := do
  let mailbox ← engine.waiters[number]?
  let completion ← mailbox.queue.head?
  return completion.outcome

/-- Ends a wait, whether or not it was told an outcome. -/
def endWait (wait : Wait) (engine : Engine) : Option Outcome × Engine :=
  match wait with
  | .ended outcome => (outcome, engine)
  | .pending number => (engine.toldFirst? number, engine.leave number)
  | .answered number outcome => (some outcome, engine.leave number)
  | _ => (none, engine)

def waitNow (engine : Engine) : Option Outcome × Engine :=
  let (wait, engine) := engine.advanceWait engine.beginWait
  let (wait, engine) := engine.advanceWait wait
  engine.endWait wait

def close (engine : Engine) : Engine := { engine with isOpen := false, subscribers := [] }

/-- Completes the attempt in flight with a response, tells all that is left to tell and closes the
engine. -/
def shutdown (identity : BuildIdentity) (response : Response) (engine : Engine) : Engine :=
  if engine.isOpen then (engine.finish identity response).tellAll.close else engine

/-- Gives up the attempt in flight, which then never completes, and closes the engine. A job that
has come to tell the subscribers is not interrupted. -/
def cancel (engine : Engine) : Engine :=
  if engine.isOpen then { engine with inFlight := none }.tellAll.close else engine

def channel? (name : String) (engine : Engine) : Option ChannelRef :=
  ChannelRef.find? engine.channels name

def activeChannel? (identity : BuildIdentity) (engine : Engine) : Option ChannelRef :=
  engine.channel? identity.channel

def describe (engine : Engine) : String :=
  let flag (value : Bool) : String := if value then "true" else "false"
  "UpdateInfo \x7b fetch_started: " ++ flag engine.isStarted ++ ", done: " ++ flag engine.isDone ++
    ", fetch_error: " ++ engine.outcome.name ++ ", channels: " ++
    toString engine.channels.length ++ " \x7d"

end Engine
end ReleaseFeed.Fetch
