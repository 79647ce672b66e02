import ReleaseFeed.Report.Render
import ReleaseFeed.System.Error
import ReleaseFeed.Text.Utf8

namespace ReleaseFeed.Report

/-- How many more bytes an output accepts, and how it refuses the rest. -/
structure Limit where
  room : Nat
  error : SystemError
deriving DecidableEq

/-- An output: the bytes that it accepted, and its limit if it has one. -/
structure Sink where
  accepted : List UInt8
  limit : Option Limit
deriving DecidableEq

/-- How printing ended. -/
inductive Ending where
  | finished
  /-- The output refused to accept more. -/
  | refused (error : SystemError)
  /-- The text was cut off by a label that is too long to pad. -/
  | cutOff
deriving DecidableEq

namespace Sink

def unlimited : Sink := ⟨[], none⟩

def limited (room : Nat) (error : SystemError) : Sink := ⟨[], some ⟨room, error⟩⟩

/-- Writes bytes; tells the refusal if not all of them were accepted. -/
def write (sink : Sink) (bytes : List UInt8) : Option SystemError × Sink :=
  match sink.limit with
  | none => (none, ⟨sink.accepted ++ bytes, none⟩)
  | some ⟨room, error⟩ =>
    (if bytes.length ≤ room then none else some error,
      ⟨sink.accepted ++ bytes.take room, some ⟨room - bytes.length, error⟩⟩)

/-- Writes pieces one after the other and stops at the first that is not accepted in full. -/
def writeAll (sink : Sink) : List (List Char) → Option SystemError × Sink
  | [] => (none, sink)
  | piece :: rest =>
    match sink.write (Text.Utf8.encode piece) with
    | (none, sink) => sink.writeAll rest
    | (some error, sink) => (some error, sink)

def print (sink : Sink) (printout : Printout) : Ending × Sink :=
  match sink.writeAll printout.pieces with
  | (some error, sink) => (.refused error, sink)
  | (none, sink) => (if printout.isComplete then .finished else .cutOff, sink)

end Sink
end ReleaseFeed.Report
