import ReleaseFeed.Channel.Build
import ReleaseFeed.Fetch.Outcome
import ReleaseFeed.Manifest.Decode
import ReleaseFeed.Transport.Endpoint
import ReleaseFeed.Transport.Error
/-!
One attempt: from the response of the transport to channels. It fails as a whole if the transport
fails, if the payload is no manifest or if one of its version texts is no version number.
-/
namespace ReleaseFeed.Fetch

/-- Where update info is fetched from, how, and for which build. -/
structure Source where
  endpoint : Endpoint
  transport : String
  identity : BuildIdentity
deriving DecidableEq

/-- What a transport hands back for one request. -/
inductive Response where
  | payload (bytes : List UInt8)
  | failed (error : TransportError)
  | crashed
deriving DecidableEq

/-- The channels of a payload, seen from the build. -/
def channelsOf (identity : BuildIdentity) (payload : List UInt8) :
    Except PayloadError (List Channel) := do
  Channel.ofManifest identity.marker (← Manifest.parse payload)

/-- The channels of a response, or how the attempt failed. -/
def retrieve (identity : BuildIdentity) : Response → Except Outcome (List Channel)
  | .payload bytes => (channelsOf identity bytes).mapError fun _ => .invalidData
  | .failed _ => .error .connectionFailed
  | .crashed => .error .connectionFailed

def outcomeOf (identity : BuildIdentity) (response : Response) : Outcome :=
  match retrieve identity response with
  | .ok _ => .success
  | .error outcome => outcome

def attemptName (attempt : Nat) : String := "Update info fetch #" ++ toString attempt

/-- What is logged while the manifest of a payload becomes channels. -/
def buildRecords (identity : BuildIdentity) (attempt : Nat) (manifest : Manifest) :
    List LogRecord :=
  identity.warnings ++ Channel.summaries identity.marker manifest ++
    [match Channel.ofManifest identity.marker manifest with
    | .ok channels =>
      ⟨.info, attemptName attempt ++ " succeeded with " ++ toString channels.length ++ " channels"⟩
    | .error error =>
      ⟨.warn, attemptName attempt ++ " received invalid records: " ++ error.message⟩]

def responseRecords (source : Source) (attempt : Nat) : Response → List LogRecord
  | .payload bytes =>
    ⟨.debug, attemptName attempt ++ " received " ++ toString bytes.length ++ " bytes"⟩ ::
      match Manifest.parse bytes with
      | .ok manifest => buildRecords source.identity attempt manifest
      | .error error =>
        [⟨.warn, attemptName attempt ++ " could not parse payload with json: " ++ error.message⟩]
  | .failed error =>
    [⟨.warn, attemptName attempt ++ " failed to reach " ++ source.endpoint.text ++ " via " ++
      source.transport ++ ": " ++ error.message⟩]
  | .crashed => [⟨.error, attemptName attempt ++ " panicked"⟩]

end ReleaseFeed.Fetch
