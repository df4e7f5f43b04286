import CaskAudit.Hardware
import CaskAudit.Release

/-!
# Platform facts

What a guard can observe of a host. The library never asks the operating system: a caller states
the facts, and everything computed from them is a function of the statement.
-/

namespace CaskAudit

/-- A release, a processor family and a word size. -/
structure Facts where
  release : Release
  arch : Arch
  wordSize : WordSize
  deriving DecidableEq, Repr, Inhabited

namespace Facts

/-- Facts whose processor is left open describe a 64-bit ARM host. -/
def ofRelease (release : Release) : Facts := ⟨release, .arm, .bits64⟩

/-- Whether the host has a capability. -/
def has (f : Facts) (c : Capability) : Bool := c.holds f.arch f.wordSize

/-- The facts in words. -/
def describe (f : Facts) : String :=
  s!"{f.release.name} ({f.arch.name}, {f.wordSize.bits}-bit)"

end Facts

end CaskAudit
