import ReleaseFeed.System.Error

namespace ReleaseFeed

/-- The part of an exchange with a server that failed. -/
inductive NetworkStage where
  | request
  | responseBody
deriving DecidableEq

def NetworkStage.describe : NetworkStage → String
  | .request => "request"
  | .responseBody => "response body"

inductive TransportError where
  | network (operation : String) (stage : NetworkStage) (details : String)
  | httpStatus (status : UInt16) (snippet : String)
  | unsupportedEndpoint (endpoint reason : String)
  | system (error : SystemError)
deriving DecidableEq

def TransportError.message : TransportError → String
  | .network operation stage details =>
    "Network error during " ++ operation ++ " (" ++ stage.describe ++ "): " ++ details
  | .httpStatus status snippet =>
    "Update server responded with HTTP " ++ toString status.toNat ++ snippet
  | .unsupportedEndpoint endpoint reason =>
    "Unsupported endpoint " ++ endpoint ++ ": " ++ reason
  | .system error => "IO error (" ++ error.kind.describe ++ "): " ++ error.message

end ReleaseFeed
