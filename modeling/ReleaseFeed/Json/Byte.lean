namespace ReleaseFeed.Json

/-- The double quote. -/
@[match_pattern] abbrev quote : UInt8 := 0x22
/-- The plus sign. -/
@[match_pattern] abbrev plus : UInt8 := 0x2B
/-- The comma. -/
@[match_pattern] abbrev comma : UInt8 := 0x2C
/-- The hyphen. -/
@[match_pattern] abbrev minus : UInt8 := 0x2D
/-- The full stop. -/
@[match_pattern] abbrev point : UInt8 := 0x2E
/-- The digit zero. -/
@[match_pattern] abbrev zeroDigit : UInt8 := 0x30
/-- The colon. -/
@[match_pattern] abbrev colon : UInt8 := 0x3A
/-- The opening bracket of an array. -/
@[match_pattern] abbrev openArray : UInt8 := 0x5B
/-- The backslash. -/
@[match_pattern] abbrev backslash : UInt8 := 0x5C
/-- The closing bracket of an array. -/
@[match_pattern] abbrev closeArray : UInt8 := 0x5D
/-- The small letter `f`. -/
@[match_pattern] abbrev letterF : UInt8 := 0x66
/-- The small letter `n`. -/
@[match_pattern] abbrev letterN : UInt8 := 0x6E
/-- The small letter `t`. -/
@[match_pattern] abbrev letterT : UInt8 := 0x74
/-- The small letter `u`. -/
@[match_pattern] abbrev letterU : UInt8 := 0x75
/-- The opening brace of an object. -/
@[match_pattern] abbrev openObject : UInt8 := 0x7B
/-- The closing brace of an object. -/
@[match_pattern] abbrev closeObject : UInt8 := 0x7D

/-- The four bytes that may stand between tokens. -/
def isBlank (byte : UInt8) : Bool := byte == 0x20 || byte == 0x0A || byte == 0x09 || byte == 0x0D

def isDigit (byte : UInt8) : Bool := 0x30 ≤ byte && byte ≤ 0x39

def digitValue (byte : UInt8) : Nat := byte.toNat - 0x30

def isExponentMark (byte : UInt8) : Bool := byte == 0x65 || byte == 0x45

/-- A control byte, which may not stand in a string. -/
def isControl (byte : UInt8) : Bool := byte < 0x20

def hexValue? (byte : UInt8) : Option Nat :=
  if isDigit byte then some (digitValue byte)
  else if 0x61 ≤ byte && byte ≤ 0x66 then some (byte.toNat - 0x57)
  else if 0x41 ≤ byte && byte ≤ 0x46 then some (byte.toNat - 0x37)
  else none

def skipBlank (bytes : List UInt8) : List UInt8 := bytes.dropWhile isBlank

/-- The bytes of an ASCII word. -/
def ascii (word : String) : List UInt8 := word.toList.map (fun c => UInt8.ofNat c.toNat)

end ReleaseFeed.Json
