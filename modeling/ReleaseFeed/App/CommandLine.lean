import ReleaseFeed.App.Settings
/-!
The arguments of the program. An option takes the argument behind it, or what follows `=` in its
own argument, as its value. A value that was begun is examined when the next option is met or the
arguments end.
-/
namespace ReleaseFeed

structure Arguments where
  endpoint : Option String
  channel : Option String
  currentVersion : Option String
  width : Option Nat
  debug : Bool
  all : Bool
  newOnly : Bool
deriving DecidableEq

inductive ArgumentsError where
  | helpAsked
  | versionAsked
  | unknownArgument
  /-- An option without a value. -/
  | missingValue
  /-- A value for something that takes none. -/
  | unneededValue
  /-- A value that is not of the required form. -/
  | invalidValue
  /-- An option that was given before. -/
  | repeated
deriving DecidableEq

/-- The exit code of a program that does not run with its arguments. -/
def ArgumentsError.exitCode : ArgumentsError → Nat
  | .helpAsked | .versionAsked => 0
  | _ => 2

def usage : String :=
  "Usage: updinfo [--endpoint ENDPOINT] [--channel CHANNEL] [--current-version VERSION] " ++
    "[--width WIDTH] [--debug] [--all] [--new-only]"

/-- What is said when the program does not run with its arguments. -/
def ArgumentsError.message : ArgumentsError → String
  | .helpAsked => usage
  | .versionAsked => "updinfo 0.4.2"
  | .unknownArgument => "error: unexpected argument\n" ++ usage
  | .missingValue => "error: a value is required\n" ++ usage
  | .unneededValue => "error: unexpected value\n" ++ usage
  | .invalidValue => "error: invalid value\n" ++ usage
  | .repeated => "error: an argument cannot be used multiple times\n" ++ usage

inductive ValueOption where
  | endpoint
  | channel
  | currentVersion
  | width
deriving DecidableEq

inductive Flag where
  | debug
  | all
  | newOnly
  | help
  | version
deriving DecidableEq

namespace Arguments

def none : Arguments where
  endpoint := .none
  channel := .none
  currentVersion := .none
  width := .none
  debug := false
  all := false
  newOnly := false

def optionNamed? (name : String) : Option (ValueOption ⊕ Flag) :=
  match name with
  | "endpoint" => some (.inl .endpoint)
  | "channel" => some (.inl .channel)
  | "current-version" => some (.inl .currentVersion)
  | "width" => some (.inl .width)
  | "debug" => some (.inr .debug)
  | "all" => some (.inr .all)
  | "new-only" => some (.inr .newOnly)
  | "help" => some (.inr .help)
  | "version" => some (.inr .version)
  | _ => .none

def flagLettered? (letter : Char) : Option Flag :=
  match letter with
  | 'h' => some .help
  | 'V' => some .version
  | _ => .none

/-- A width: digits, perhaps behind a plus sign, whose value fits 64 bits. -/
def readWidth (text : String) : Option Nat :=
  let digits := match text.toList with
    | '+' :: digits => digits
    | digits => digits
  let value := Nat.ofDigitChars 10 digits 0
  if !digits.isEmpty && digits.all Char.isDigit && value < UInt64.size then some value else .none

/-- A text that is given for the first time. -/
def once {α : Type} (given : Option α) (value : α) : Except ArgumentsError (Option α) :=
  if given.isSome then .error .repeated else .ok (some value)

def raise (given : Bool) : Except ArgumentsError Bool :=
  if given then .error .repeated else .ok true

def setValue (arguments : Arguments) (value : String) :
    ValueOption → Except ArgumentsError Arguments
  | .endpoint => do return { arguments with endpoint := ← once arguments.endpoint value }
  | .channel => do return { arguments with channel := ← once arguments.channel value }
  | .currentVersion => do
    return { arguments with currentVersion := ← once arguments.currentVersion value }
  | .width => do
    if arguments.width.isSome then throw .repeated
    match readWidth value with
    | some width => return { arguments with width := some width }
    | .none => throw .invalidValue

def setFlag (arguments : Arguments) : Flag → Except ArgumentsError Arguments
  | .debug => do return { arguments with debug := ← raise arguments.debug }
  | .all => do return { arguments with all := ← raise arguments.all }
  | .newOnly => do return { arguments with newOnly := ← raise arguments.newOnly }
  | .help => throw .helpAsked
  | .version => throw .versionAsked

/-- Arguments that were read so far, and the option whose value was begun: without value while it
waits for one. -/
structure Reading where
  arguments : Arguments
  begun : Option (ValueOption × Option String)
deriving DecidableEq

def Reading.settle (reading : Reading) : Except ArgumentsError Arguments :=
  match reading.begun with
  | .none => .ok reading.arguments
  | some (_, .none) => .error .missingValue
  | some (option, some value) => reading.arguments.setValue value option

inductive Form where
  /-- The mark behind which nothing is an option any more. -/
  | mark
  | long (name : String) (value : Option String)
  | short (letter : Char)
  | plain (text : String)
deriving DecidableEq

def Form.of (text : String) : Form :=
  match text.toList with
  | ['-', '-'] => .mark
  | '-' :: '-' :: rest =>
    let name := String.ofList (rest.takeWhile (· != '='))
    match rest.dropWhile (· != '=') with
    | _ :: value => .long name (some (String.ofList value))
    | [] => .long name .none
  | '-' :: letter :: _ => .short letter
  | _ => .plain text

/-- Reads an option that was given by its long name. -/
def Reading.long (reading : Reading) (name : String) (value : Option String) :
    Except ArgumentsError Reading :=
  match optionNamed? name, value with
  | .none, _ => .error .unknownArgument
  | some (.inl option), some value => do
    return ⟨← (← reading.settle).setValue value option, .none⟩
  | some (.inl option), .none => do return ⟨← reading.settle, some (option, .none)⟩
  | some (.inr _), some _ => .error .unneededValue
  | some (.inr flag), .none => do return ⟨← (← reading.settle).setFlag flag, .none⟩

/-- Reads one argument that is not the mark. -/
def Reading.next (reading : Reading) : Form → Except ArgumentsError Reading
  | .mark => .ok reading
  | .long name value => reading.long name value
  | .short letter =>
    match flagLettered? letter with
    | some flag => do return ⟨← (← reading.settle).setFlag flag, .none⟩
    | .none => .error .unknownArgument
  | .plain text =>
    match reading.begun with
    | some (option, .none) => .ok { reading with begun := some (option, some text) }
    | _ => .error .unknownArgument

/-- Reads the arguments from a reading on. There is nothing that could stand behind the mark. -/
def readFrom (reading : Reading) : List String → Except ArgumentsError Arguments
  | [] => reading.settle
  | argument :: rest =>
    match Form.of argument with
    | .mark => if rest.isEmpty then reading.settle else .error .unknownArgument
    | form => do readFrom (← reading.next form) rest

def parse (arguments : List String) : Except ArgumentsError Arguments :=
  readFrom ⟨none, .none⟩ arguments

def apply (arguments : Arguments) (settings : Settings) : Settings :=
  { settings with
    endpoint := arguments.endpoint.getD settings.endpoint
    channel := arguments.channel.getD settings.channel
    currentVersion := arguments.currentVersion.or settings.currentVersion
    wrapWidth := arguments.width.getD settings.wrapWidth
    debugLogging := settings.debugLogging || arguments.debug }

end Arguments
end ReleaseFeed
