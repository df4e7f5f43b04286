import CaskAudit.Settings.Retry
import Mathlib.Algebra.Ring.Nat
import Mathlib.Order.Basic
import Mathlib.Tactic.ByContra
import Mathlib.Tactic.Lemma

/-!
# Doubled waits

The wait after some failures is a power of two of the initial one, and never more than the maximum.
No number of failures lets it overflow (`backoff_eq_min`), but only thirty-two of them double it. So
it is the wait that doubles for ever exactly as long as the doublings suffice, or where the maximum
has been reached before they are used up (`backoff_doubles_iff`).
-/

namespace CaskAudit.RetryPolicy

variable {p : RetryPolicy}

/-- The wait that doubles for every failure but the first for ever, up to the maximum. -/
def doubled (p : RetryPolicy) (failures : Nat) : Nat :=
  min (p.initialBackoffMs * 2 ^ (failures - 1)) p.maxBackoffMs

/-- With a maximum that can be counted, every wait is counted exactly: what is cut off at the
longest time is longer than the maximum. -/
lemma backoff_eq_min (h : p.maxBackoffMs < limit64) (failures : Nat) :
    p.backoff failures = min (p.initialBackoffMs * 2 ^ min (failures - 1) 32) p.maxBackoffMs := by
  have hlongest : p.maxBackoffMs ≤ longest := Nat.le_sub_one_of_lt h
  rw [backoff, Nat.shiftLeft_eq, Nat.min_assoc, Nat.min_eq_right hlongest]

/-- Every wait is counted exactly, and it is the one that doubles for ever exactly if no more than
thirty-two doublings are asked for, nothing is doubled, or thirty-two doublings reach the maximum.
-/
theorem backoff_doubles_iff (p : RetryPolicy) (h : p.maxBackoffMs < limit64) (failures : Nat) :
    p.backoff failures = min (p.initialBackoffMs * 2 ^ min (failures - 1) 32) p.maxBackoffMs ∧
    (p.backoff failures = p.doubled failures ↔
      failures ≤ 33 ∨ p.initialBackoffMs = 0 ∨ p.maxBackoffMs ≤ p.initialBackoffMs * 2 ^ 32) := by
  refine ⟨backoff_eq_min h failures, ?_⟩
  by_cases hfew : failures ≤ 33
  · have hmin : min (failures - 1) 32 = failures - 1 := by omega
    rw [backoff_eq_min h, hmin]
    exact iff_of_true rfl (.inl hfew)
  · have hmin : min (failures - 1) 32 = 32 := by omega
    -- From here on the wait that doubles for ever is at least twice the other one.
    have hpow : 2 ^ 33 ≤ 2 ^ (failures - 1) := Nat.pow_le_pow_right (by decide) (by omega)
    have hmore : p.initialBackoffMs * 2 ^ 33 ≤ p.initialBackoffMs * 2 ^ (failures - 1) :=
      Nat.mul_le_mul_left _ hpow
    rw [backoff_eq_min h, hmin, doubled]
    constructor
    · intro heq
      refine .inr ?_
      by_contra hnot
      obtain ⟨hzero, hmax⟩ := not_or.1 hnot
      omega
    · rintro (hle | hzero | hmax)
      · exact absurd hle hfew
      · rw [hzero, Nat.zero_mul, Nat.zero_mul]
      · omega

/-- With the longest maximum, the wait after thirty-three failures is still doubled for each of
them. -/
theorem backoff_doubles_iff_longest :
    longest < limit64 ∧ backoff ⟨40, 1, longest⟩ 33 = doubled ⟨40, 1, longest⟩ 33 :=
  have h : longest < limit64 := by decide
  ⟨h, (backoff_doubles_iff ⟨40, 1, longest⟩ h 33).2.2 (.inl (Nat.le_refl 33))⟩

/-- The failure number thirty-four does not double the wait, although the maximum is far from being
reached. -/
theorem backoff_stops_doubling :
    backoff ⟨40, 1, longest⟩ 34 = 2 ^ 32 ∧ doubled ⟨40, 1, longest⟩ 34 = 2 ^ 33 := by
  decide

end CaskAudit.RetryPolicy
