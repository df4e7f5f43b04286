import CaskAudit.Text.Blank
import CaskAudit.Text.Lowercase

/-!
# Processors

The processor families and word sizes that a host may have, and the capabilities by which guards
ask for them.
-/

namespace CaskAudit

open Text

/-- A processor family. -/
inductive Arch where
  | arm | intel | powerPc
  deriving DecidableEq, Repr, Inhabited

/-- A native word size. -/
inductive WordSize where
  | bits32 | bits64
  deriving DecidableEq, Repr, Inhabited

/-- A property of a processor that a guard may ask for. -/
inductive Capability where
  | is32Bit | is64Bit | intel | arm | powerPc
  deriving DecidableEq, Repr, Inhabited

namespace Arch

/-- The short name of a processor family. -/
def name : Arch → String
  | arm => "arm"
  | intel => "intel"
  | powerPc => "ppc"

/-- The processor family that a text names, in any case. -/
def ofText? (text : String) : Option Arch :=
  match String.ofList (lowercase text.toList) with
  | "arm" | "arm64" | "aarch64" => some arm
  | "intel" | "x86" | "x86_64" | "amd64" | "i386" => some intel
  | "ppc" | "powerpc" | "ppc64" => some powerPc
  | _ => none

/-- The report of a text that names no processor family. -/
def unknownMessage (text : String) : String := s!"Unknown architecture: {text}"

end Arch

namespace WordSize

/-- The number of bits of a word. -/
def bits : WordSize → Nat
  | bits32 => 32
  | bits64 => 64

/-- The word size that a text names; blanks around it do not count. -/
def ofText? (text : String) : Option WordSize :=
  match String.ofList (trim text.toList) with
  | "32" | "32bit" | "32-bit" => some bits32
  | "64" | "64bit" | "64-bit" => some bits64
  | _ => none

/-- The report of a text that names no word size. -/
def unknownMessage (text : String) : String := s!"Unknown word size: {text}"

end WordSize

namespace Capability

/-- The question by which a guard asks for a capability. -/
def method : Capability → String
  | is32Bit => "is_32_bit?"
  | is64Bit => "is_64_bit?"
  | intel => "intel?"
  | arm => "arm?"
  | powerPc => "ppc?"

/-- The capability that a question asks for; question marks at its end do not count. -/
def ofMethod? (text : String) : Option Capability :=
  match String.ofList (text.toList.reverse.dropWhile (· = '?')).reverse with
  | "is_32_bit" => some is32Bit
  | "is_64_bit" => some is64Bit
  | "intel" => some intel
  | "arm" => some arm
  | "ppc" => some powerPc
  | _ => none

/-- Whether a processor has a capability. -/
def holds (c : Capability) (arch : Arch) (word : WordSize) : Bool :=
  match c with
  | is32Bit => word = .bits32
  | is64Bit => word = .bits64
  | intel => arch = .intel
  | arm => arch = .arm
  | powerPc => arch = .powerPc

/-- A capability as a term of a guard. -/
def term (c : Capability) : String := "Hardware::CPU." ++ c.method

end Capability

end CaskAudit
