import ReleaseFeed.Files.Tree
import ReleaseFeed.Transport.Endpoint
import ReleaseFeed.Transport.Error

namespace ReleaseFeed

open Files (Path Tree)

namespace Endpoint

/-- A text without the file marks at its start. -/
def dropFileMarks : List Char → List Char
  | 'f' :: 'i' :: 'l' :: 'e' :: ':' :: '/' :: '/' :: rest => dropFileMarks rest
  | text => text

/-- The path of the file that an endpoint names. -/
def path (endpoint : Endpoint) : Except TransportError Path :=
  match endpoint.scheme? with
  | none => .ok endpoint.text.toList
  | some scheme =>
    if scheme = "file".toList then .ok (dropFileMarks endpoint.text.toList)
    else .error (.unsupportedEndpoint endpoint.text
      "only file:// endpoints and plain paths are readable from disk")

def content (endpoint : Endpoint) (tree : Tree) : Except TransportError (List UInt8) := do
  let path ← endpoint.path
  (tree.read path).mapError .system

end Endpoint
end ReleaseFeed
