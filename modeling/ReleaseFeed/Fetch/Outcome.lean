namespace ReleaseFeed

/-- How an attempt ended. -/
inductive Outcome where
  | success
  | connectionFailed
  | invalidData
deriving DecidableEq

namespace Outcome

def name : Outcome → String
  | success => "None"
  | connectionFailed => "ConnectionError"
  | invalidData => "DeserializationError"

def message : Outcome → String
  | success => "no error"
  | connectionFailed => "could not reach the update server"
  | invalidData => "update server sent invalid update info"

def isFailure (outcome : Outcome) : Bool := outcome != success

end Outcome

/-- The end of one attempt, as it is announced to subscribers. -/
structure Completion where
  attempt : Nat
  outcome : Outcome
deriving DecidableEq

end ReleaseFeed
