/-!
# Decimal numbers

The natural number that a run of ASCII digits writes, and reading of bounded numbers as settings
and options give them: digits only, after at most one plus sign.
-/

namespace CaskAudit.Text

/-- Whether a character is one of the ten ASCII digits. -/
def isAsciiDigit (c : Char) : Bool := '0' ≤ c && c ≤ '9'

/-- The value of an ASCII digit. -/
def digitValue (c : Char) : Nat := c.toNat - '0'.toNat

/-- The natural number written by a run of ASCII digits, leading zeros allowed. -/
def ofDigits (s : List Char) : Nat := s.foldl (fun n c => 10 * n + digitValue c) 0

/-- A text without one leading plus sign. -/
def dropPlus : List Char → List Char
  | '+' :: rest => rest
  | s => s

/-- The number below a bound that a text writes with digits after at most one plus sign. -/
def readBelow? (bound : Nat) (s : List Char) : Option Nat :=
  let digits := dropPlus s
  if digits.isEmpty || !digits.all isAsciiDigit then none
  else if ofDigits digits < bound then some (ofDigits digits) else none

/-- A number that is read is below the bound. -/
theorem lt_of_readBelow? {bound n : Nat} {s : List Char} (h : readBelow? bound s = some n) :
    n < bound := by
  simp only [readBelow?] at h
  split at h
  · simp at h
  · split at h
    · next hb => simp only [Option.some.injEq] at h; exact h ▸ hb
    · simp at h

end CaskAudit.Text
