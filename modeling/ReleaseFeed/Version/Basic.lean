namespace ReleaseFeed

/-- One dot-separated part of a pre-release or of build metadata. -/
abbrev Identifier := List Char

structure VersionNumber where
  major : UInt64
  minor : UInt64
  patch : UInt64
  pre : List Identifier
  build : List Identifier
deriving DecidableEq

namespace VersionNumber

/-- A plain release, without pre-release or build metadata. -/
def ofComponents (major minor patch : UInt64) : VersionNumber := ⟨major, minor, patch, [], []⟩

/-- A release that comes before the plain one with the same components. -/
def isPrerelease (number : VersionNumber) : Bool := !number.pre.isEmpty

def digitsOf (component : UInt64) : List Char := Nat.toDigits 10 component.toNat

def dotted (identifiers : List Identifier) : List Char := ['.'].intercalate identifiers

/-- Identifiers behind the mark that announces them; nothing if there are none. -/
def announced (mark : Char) (identifiers : List Identifier) : List Char :=
  if identifiers.isEmpty then [] else mark :: dotted identifiers

/-- The written form `MAJOR.MINOR.PATCH[-PRE][+BUILD]`. -/
def display (number : VersionNumber) : List Char :=
  digitsOf number.major ++ '.' :: digitsOf number.minor ++ '.' :: digitsOf number.patch ++
    announced '-' number.pre ++ announced '+' number.build

instance : ToString VersionNumber := ⟨fun number => String.ofList number.display⟩

end VersionNumber
end ReleaseFeed
