import ReleaseFeed.App.Paths
import ReleaseFeed.Fetch.Outcome
import ReleaseFeed.Transport.Error

namespace ReleaseFeed

/-- What is known about a failed operation: a text, or a refusal by the operating system. -/
inductive AppError.Detail where
  | text (message : String)
  | system (error : SystemError)
deriving DecidableEq

/-- Why the program ends without showing anything. -/
inductive AppError where
  | timeout (operation : String) (seconds : Nat)
  | operationFailed (operation : String) (detail : AppError.Detail)
  | fetchFailed (endpoint : String) (outcome : Outcome)
  | channelNotPublished (channel : String)
deriving DecidableEq

/-- What is known when a transport error made the operation fail. -/
def AppError.Detail.ofTransport (error : TransportError) : AppError.Detail := .text error.message

/-- What is known when a directory of the user is missing. -/
def AppError.Detail.ofPaths (error : PathsError) : AppError.Detail := .text error.message

def AppError.Detail.message : AppError.Detail → String
  | .text message => message
  | .system error => error.kind.describe ++ ": " ++ error.message

def AppError.message : AppError → String
  | .timeout operation seconds => operation ++ " timed out after " ++ toString seconds ++ "s"
  | .operationFailed operation detail => operation ++ " failed: " ++ detail.message
  | .fetchFailed endpoint outcome => "Fetching " ++ endpoint ++ " failed: " ++ outcome.message
  | .channelNotPublished channel =>
    "Channel " ++ channel ++ " is not published by the update server"

end ReleaseFeed
