import ReleaseFeed.Text.Split

namespace ReleaseFeed

structure Endpoint where
  text : String
deriving DecidableEq

inductive Transport where
  | http
  | file
deriving DecidableEq

def Transport.name : Transport → String
  | .http => "http"
  | .file => "file"

namespace Endpoint

/-- What stands between a scheme and the rest. -/
def schemeMark : List Char := "://".toList

/-- The text in front of the first scheme mark, unless there is none. -/
def beforeMark? : List Char → Option (List Char)
  | [] => none
  | char :: rest =>
    if schemeMark.isPrefixOf (char :: rest) then some []
    else (beforeMark? rest).map (char :: ·)

/-- The scheme of an endpoint; an empty one is none. -/
def scheme? (endpoint : Endpoint) : Option (List Char) :=
  (beforeMark? endpoint.text.toList).filter (fun scheme => !scheme.isEmpty)

def transport (endpoint : Endpoint) : Transport :=
  if endpoint.scheme? = some "http".toList ∨ endpoint.scheme? = some "https".toList then .http
  else .file

end Endpoint
end ReleaseFeed
