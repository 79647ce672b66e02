import ReleaseFeed.Json.Text

namespace ReleaseFeed.Json

/-- The rest of a word such as `null`, of which the first letter was taken. -/
def expectWord (word : List UInt8) (bytes : List UInt8) : Except Fault (List UInt8) :=
  match word, bytes with
  | [], rest => .ok rest
  | _ :: _, [] => .error (.here .endInValue [])
  | letter :: word, byte :: rest =>
    if byte == letter then expectWord word rest else .error (.here .expectedWord rest)

def restOfNull : List UInt8 := ascii "ull"

def restOfTrue : List UInt8 := ascii "rue"

def restOfFalse : List UInt8 := ascii "alse"

def skipExponent (bytes : List UInt8) : Except Fault (List UInt8) :=
  let digits := match bytes with
    | plus :: rest => rest
    | minus :: rest => rest
    | rest => rest
  match digits with
  | [] => .error (.here .invalidNumber [])
  | first :: rest =>
    if isDigit first then .ok (rest.dropWhile isDigit) else .error (.here .invalidNumber rest)

/-- The exponent of a skipped number, if there is one. -/
def skipScale (bytes : List UInt8) : Except Fault (List UInt8) :=
  match bytes with
  | [] => .ok []
  | byte :: rest => if isExponentMark byte then skipExponent rest else .ok bytes

def skipFraction (bytes : List UInt8) : Except Fault (List UInt8) :=
  match bytes with
  | [] => .error (.here .invalidNumber [])
  | first :: rest =>
    if isDigit first then skipScale (rest.dropWhile isDigit)
    else .error (.atNext .invalidNumber bytes)

def skipNumberTail (bytes : List UInt8) : Except Fault (List UInt8) :=
  match bytes with
  | point :: rest => skipFraction rest
  | rest => skipScale rest

def skipNumber (bytes : List UInt8) : Except Fault (List UInt8) :=
  match bytes with
  | [] => .error (.here .invalidNumber [])
  | zeroDigit :: rest =>
    if rest.head?.any isDigit then .error (.atNext .invalidNumber rest) else skipNumberTail rest
  | first :: rest =>
    if isDigit first then skipNumberTail (rest.dropWhile isDigit)
    else .error (.here .invalidNumber rest)

def expectColon (bytes : List UInt8) : Except Fault (List UInt8) :=
  match skipBlank bytes with
  | [] => .error (.here .endInObject [])
  | colon :: rest => .ok rest
  | rest => .error (.atNext .expectedColon rest)

/-- A value that is neither array nor object, by its first byte. -/
def skipScalar (first : UInt8) (rest : List UInt8) : Except Fault (List UInt8) :=
  match first with
  | letterN => expectWord restOfNull rest
  | letterT => expectWord restOfTrue rest
  | letterF => expectWord restOfFalse rest
  | minus => skipNumber rest
  | quote => skipString rest
  | _ =>
    if isDigit first then skipNumber (first :: rest)
    else .error (.atNext .expectedValue (first :: rest))

def skipKey (bytes : List UInt8) : Except Fault (List UInt8) :=
  match skipBlank bytes with
  | [] => .error (.here .endInObject [])
  | quote :: rest => do expectColon (← skipString rest)
  | rest => .error (.atNext .keyMustBeString rest)

mutual

/-- Skips one value. Each step takes a byte, so the fuel never runs out when it exceeds their
number. -/
def skipValueWith : Nat → List UInt8 → Except Fault (List UInt8)
  | 0, bytes => .error (.here .endInValue bytes)
  | fuel + 1, bytes =>
    match skipBlank bytes with
    | [] => .error (.here .endInValue [])
    | openArray :: rest => skipElements fuel true rest
    | openObject :: rest => skipMembers fuel true rest
    | first :: rest => skipScalar first rest

/-- Skips the elements of an array up to its closing bracket. -/
def skipElements : Nat → Bool → List UInt8 → Except Fault (List UInt8)
  | 0, _, bytes => .error (.here .endInArray bytes)
  | fuel + 1, isFirst, bytes =>
    match skipBlank bytes with
    | [] => .error (.here .endInArray [])
    | closeArray :: rest => .ok rest
    | byte :: rest =>
      if isFirst then do
        skipElements fuel false (← skipValueWith fuel (byte :: rest))
      else if byte == comma then do
        skipElements fuel false (← skipValueWith fuel rest)
      else .error (.atNext .expectedArrayCommaOrEnd (byte :: rest))

/-- Skips the members of an object up to its closing brace. -/
def skipMembers : Nat → Bool → List UInt8 → Except Fault (List UInt8)
  | 0, _, bytes => .error (.here .endInObject bytes)
  | fuel + 1, isFirst, bytes =>
    match skipBlank bytes with
    | [] => .error (.here .endInObject [])
    | closeObject :: rest => .ok rest
    | byte :: rest =>
      if isFirst then do
        let rest ← skipKey (byte :: rest)
        skipMembers fuel false (← skipValueWith fuel rest)
      else if byte == comma then do
        let rest ← skipKey rest
        skipMembers fuel false (← skipValueWith fuel rest)
      else .error (.atNext .expectedObjectCommaOrEnd (byte :: rest))

end

def skipValue (bytes : List UInt8) : Except Fault (List UInt8) :=
  skipValueWith (2 * bytes.length + 2) bytes

end ReleaseFeed.Json
