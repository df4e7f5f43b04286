/-!
# Character classes given by intervals

A class of characters is written as the ascending list of its closed intervals of scalar values.
`exists_of_inRanges` says that the early exit of the search never invents a member.
-/

namespace CaskAudit.Text

/-- Membership of a scalar value in an ascending list of closed intervals; the search stops at the
first interval that starts above the value. -/
def inRanges (n : Nat) : List (Nat × Nat) → Bool
  | [] => false
  | (lo, hi) :: rest => if n < lo then false else if n ≤ hi then true else inRanges n rest

/-- A value found in a list of intervals lies in one of them. -/
theorem exists_of_inRanges {n : Nat} {rs : List (Nat × Nat)} (h : inRanges n rs = true) :
    ∃ r ∈ rs, r.1 ≤ n ∧ n ≤ r.2 := by
  induction rs with
  | nil => simp [inRanges] at h
  | cons r rest ih =>
    obtain ⟨lo, hi⟩ := r
    rw [inRanges] at h
    split at h
    · simp at h
    · split at h
      · exact ⟨(lo, hi), by simp, by simp only; omega⟩
      · obtain ⟨r, hr, hb⟩ := ih h
        exact ⟨r, by simp [hr], hb⟩

end CaskAudit.Text
