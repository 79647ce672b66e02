import ReleaseFeed.Fetch.Retrieval
import ReleaseFeed.Transport.Disk
import ReleaseFeed.Transport.Http
import ReleaseFeed.Transport.RequestTarget

namespace ReleaseFeed.Fetch

open Files (Tree)

/-- What answers requests: the server of an endpoint, which is sent the first line of a request, and
the files. -/
structure Surroundings where
  server : Endpoint → List Char → Http.Exchange
  tree : Tree

namespace Surroundings

/-- What happens between the program and the server of an endpoint. An endpoint that is no URL is
never asked for. -/
def exchange (surroundings : Surroundings) (endpoint : Endpoint) : Http.Exchange :=
  match endpoint.requestLine? with
  | some line => surroundings.server endpoint line
  | none => .unanswered "builder error"

def fetch (surroundings : Surroundings) (endpoint : Endpoint) :
    Except TransportError (List UInt8) :=
  match endpoint.transport with
  | .http => Http.payload (surroundings.exchange endpoint)
  | .file => endpoint.content surroundings.tree

def respond (surroundings : Surroundings) (endpoint : Endpoint) : Response :=
  match surroundings.fetch endpoint with
  | .ok bytes => .payload bytes
  | .error error => .failed error

end Surroundings

def requestRecords (endpoint : Endpoint) : List LogRecord :=
  match endpoint.transport, endpoint.path with
  | .http, _ => [⟨.debug, "Requesting update info from " ++ endpoint.text⟩]
  | .file, .ok path => [⟨.debug, "Reading update info from " ++ String.ofList path⟩]
  | .file, .error _ => []

end ReleaseFeed.Fetch
