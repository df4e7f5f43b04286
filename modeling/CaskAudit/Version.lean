import CaskAudit.Text.Alphanumeric
import CaskAudit.Text.Blank
import CaskAudit.Text.Decimal
import CaskAudit.Text.Pieces

/-!
# Versions

A version is the text that a vendor gives to a release of an application. Templates refer to parts
and respellings of it by the names of methods; each method is a partial function on texts, and a
chain of methods is their composition from left to right.
-/

namespace CaskAudit

open Text

/-- A version, never empty. -/
structure Version where
  raw : String
  deriving DecidableEq, Repr, Inhabited

/-- A fault of a version or of a reference to one. -/
inductive VersionError where
  | empty
  | unknownMethod (name : String)
  deriving DecidableEq, Repr

/-- The report of a fault. -/
def VersionError.message : VersionError → String
  | .empty => "Version string is empty"
  | .unknownMethod name => s!"Unknown version method: {name}"

/-- A method that derives a text from a version. -/
inductive Method where
  | major | minor | patch | majorMinor | majorMinorPatch
  | noSeparator | noDots | dotsToUnderscores | dotsToHyphens
  | beforeComma | afterComma | beforeColon | afterColon
  deriving DecidableEq, Repr, Inhabited

/-- The digits at the start of each part, up to the first part that is not made of digits alone. -/
def leadingNumbers : List (List Char) → List (List Char)
  | [] => []
  | part :: parts =>
    let digits := part.takeWhile isAsciiDigit
    if digits.isEmpty then []
    else if digits.length = part.length then digits :: leadingNumbers parts
    else [digits]

/-- The numeric components at the start of a text, separated by dots. -/
def numericParts (s : List Char) : List (List Char) := leadingNumbers (splitOn '.' s)

namespace Method

/-- Every method. -/
def all : List Method :=
  [major, minor, patch, majorMinor, majorMinorPatch, noSeparator, noDots, dotsToUnderscores,
    dotsToHyphens, beforeComma, afterComma, beforeColon, afterColon]

/-- The name of a method in templates. -/
def name : Method → String
  | major => "major"
  | minor => "minor"
  | patch => "patch"
  | majorMinor => "major_minor"
  | majorMinorPatch => "major_minor_patch"
  | noSeparator => "no_separator"
  | noDots => "no_dots"
  | dotsToUnderscores => "dots_to_underscores"
  | dotsToHyphens => "dots_to_hyphens"
  | beforeComma => "before_comma"
  | afterComma => "after_comma"
  | beforeColon => "before_colon"
  | afterColon => "after_colon"

/-- The method with a name. -/
def ofName (name : List Char) : Except VersionError Method :=
  match all.find? (·.name.toList = name) with
  | some m => .ok m
  | none => .error (.unknownMethod (String.ofList name))

/-- The first `n` numeric components of a text, if it has as many. -/
def firstParts? (n : Nat) (s : List Char) : Option (List Char) :=
  let parts := numericParts s
  if n ≤ parts.length then some (joinWith ['.'] (parts.take n)) else none

/-- What a method makes of a text. -/
def apply (m : Method) (s : List Char) : Option (List Char) :=
  match m with
  | major => (numericParts s)[0]?
  | minor => (numericParts s)[1]?
  | patch => (numericParts s)[2]?
  | majorMinor => firstParts? 2 s
  | majorMinorPatch => firstParts? 3 s
  | noSeparator => some (s.filter isAlphanumeric)
  | noDots => some (s.filter (· ≠ '.'))
  | dotsToUnderscores => some (s.map fun c => if c = '.' then '_' else c)
  | dotsToHyphens => some (s.map fun c => if c = '.' then '-' else c)
  | beforeComma => some (((splitFirst? ',' s).map (·.1)).getD s)
  | afterComma => (splitFirst? ',' s).map (·.2)
  | beforeColon => some (((splitFirst? ':' s).map (·.1)).getD s)
  | afterColon => (splitFirst? ':' s).map (·.2)

/-- What a chain of methods makes of a text, from left to right. -/
def applyAll : List Method → List Char → Option (List Char)
  | [], s => some s
  | m :: ms, s => (m.apply s).bind (applyAll ms)

end Method

namespace Version

/-- The version that a text writes; blanks around it and one colon before it do not count. -/
def ofText (text : String) : Except VersionError Version :=
  let raw := dropOne ':' (trim text.toList)
  if raw.isEmpty then .error .empty else .ok ⟨String.ofList raw⟩

/-- The first numeric component of a version. -/
def major? (v : Version) : Option String :=
  (Method.major.apply v.raw.toList).map String.ofList

/-- The letters and digits of a version. -/
def noSeparator (v : Version) : String := String.ofList (v.raw.toList.filter isAlphanumeric)

/-- What a chain of methods makes of a version. -/
def derive? (v : Version) (methods : List Method) : Option String :=
  (Method.applyAll methods v.raw.toList).map String.ofList

/-- Whether a version is the placeholder for whatever is newest. -/
def isLatest (v : Version) : Bool := v.raw = "latest"

end Version

end CaskAudit
