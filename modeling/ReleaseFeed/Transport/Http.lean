import ReleaseFeed.Text.Blank
import ReleaseFeed.Text.Utf8
import ReleaseFeed.Transport.Error
import ReleaseFeed.Transport.Message

namespace ReleaseFeed.Http

/-- What happened between the program and a server. -/
inductive Exchange where
  | unanswered (details : String)
  /-- An answer of which some bytes of the announced body did not arrive. -/
  | answered (status : Nat) (body : List UInt8) (missing : Nat)
deriving DecidableEq

/-- The exchange as it is named in errors. -/
def operation : String := "fetch update info"

def snippetChars : Nat := 160

/-- The start of the text that came with a refusal. -/
def snippet (body : List UInt8) : String :=
  let shown := (Text.trim (Text.Utf8.decodeLossy body)).take snippetChars
  if shown.isEmpty then "" else String.ofList (": ".toList ++ shown)

def isSuccess (status : Nat) : Bool := 200 ≤ status && status < 300

/-- The answer to a request. Behind an interim one, the bytes of its body hold the next. -/
def Exchange.answer? : Exchange → Option Answer
  | .unanswered _ => none
  | .answered status body missing =>
    if status < 100 || 1000 ≤ status then none
    else if isInterim status then Answer.ofBytes? body
    else sized? status (body.length + missing) body

def Answer.payload (answer : Answer) : Except TransportError (List UInt8) :=
  match isSuccess answer.status, answer.body with
  | true, some body => .ok body
  | true, none => .error (.network operation .responseBody "the body is incomplete")
  | false, body => .error (.httpStatus (.ofNat answer.status) (snippet (body.getD [])))

def payload (exchange : Exchange) : Except TransportError (List UInt8) :=
  match exchange, exchange.answer? with
  | .unanswered details, _ => .error (.network operation .request details)
  | .answered .., none => .error (.network operation .request "no final answer")
  | .answered .., some answer => answer.payload

end ReleaseFeed.Http
