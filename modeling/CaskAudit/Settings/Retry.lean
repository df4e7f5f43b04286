import CaskAudit.Limits

/-!
# Retrying

How often a request is tried, and how long to wait between two tries. The wait doubles with every
failure up to a bound; times are milliseconds that fit sixty-four bits.
-/

namespace CaskAudit

/-- How often, and how patiently, a request is tried. -/
structure RetryPolicy where
  maxAttempts : Nat
  initialBackoffMs : Nat
  maxBackoffMs : Nat
  deriving DecidableEq, Repr, Inhabited

namespace RetryPolicy

/-- The policy where none is given. -/
def standard : RetryPolicy := ⟨3, 500, 8000⟩

/-- How often a request is tried, at least once. -/
def attempts (p : RetryPolicy) : Nat := max p.maxAttempts 1

/-- The longest time that can be counted. -/
def longest : Nat := limit64 - 1

/-- The wait after a number of failures in a row: the initial one, doubled for every failure but the
first, with thirty-two doublings at most, and never more than the maximum. -/
def backoff (p : RetryPolicy) (failures : Nat) : Nat :=
  min (min (p.initialBackoffMs <<< min (failures - 1) 32) longest) p.maxBackoffMs

/-- No wait is longer than the maximum. -/
theorem backoff_le_max (p : RetryPolicy) (failures : Nat) :
    p.backoff failures ≤ p.maxBackoffMs := Nat.min_le_right _ _

end RetryPolicy

end CaskAudit
