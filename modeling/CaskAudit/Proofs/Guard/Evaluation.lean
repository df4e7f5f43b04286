import CaskAudit.Proofs.Guard.Reread

/-!
# The truth value of a guard

Conjunctions and disjunctions are evaluated alike: from left to right, past the operands that
decide nothing (`Connective.neutral`), up to the first that decides. `Connective.evaluate_cases`
says so once for both connectives, and everything else about the value of a junction follows from
it.

A guard fails to have a truth value for one of two reasons. It is malformed, which is excluded when
a guard is validated (`evaluate_ne_malformed`), or it compares with a release that is not known
(`releases_of_evaluate`).
-/

namespace CaskAudit.Guard

variable {f : Facts} {k : Connective} {g : Guard} {gs : List Guard}

/-! ## Guards and their operands -/

/-- A property of guards that a negation and a junction inherit from what they are made of holds of
every guard. -/
@[elab_as_elim]
theorem induction {motive : Guard → Prop}
    (release : ∀ op token, motive (.release op token))
    (capability : ∀ c, motive (.capability c))
    (not : ∀ g, motive g → motive (.not g))
    (junction : ∀ (k : Connective) (gs : List Guard), (∀ g ∈ gs, motive g) → motive (k.combine gs))
    (g : Guard) : motive g := by
  -- The recursor of guards has a motive of its own for lists of them.
  refine @Guard.rec motive (fun gs => ∀ g ∈ gs, motive g) release capability not
    (junction .and) (junction .or) ?_ ?_ g
  · simp
  · intro g gs hg hgs
    exact List.forall_mem_cons.2 ⟨hg, hgs⟩

/-- The releases of several guards are those of any of them. -/
lemma mem_allReleases {token : String} :
    token ∈ allReleases gs ↔ ∃ g ∈ gs, token ∈ g.releases := by
  induction gs with
  | nil => simp [allReleases]
  | cons g gs ih => simp [allReleases, ih]

/-- The releases of a junction are those of its operands. -/
lemma mem_releases_combine {token : String} :
    token ∈ (k.combine gs).releases ↔ ∃ g ∈ gs, token ∈ g.releases := by
  cases k <;> exact mem_allReleases

/-! ## Validated guards -/

/-- Several guards are well-formed if each of them is. -/
lemma firstMalformation?_eq_none_iff :
    firstMalformation? gs = none ↔ ∀ g ∈ gs, g.malformation? = none := by
  induction gs with
  | nil => simp [firstMalformation?]
  | cons g gs ih =>
    rw [firstMalformation?, List.forall_mem_cons, ← ih]
    cases g.malformation? <;> simp

/-- A junction is well-formed if it has operands and each of them is. -/
lemma malformation?_combine_eq_none_iff :
    (k.combine gs).malformation? = none ↔ gs ≠ [] ∧ ∀ g ∈ gs, g.malformation? = none := by
  rw [← firstMalformation?_eq_none_iff]
  cases k <;> cases gs <;> simp [Connective.combine, malformation?]

/-- Validation accepts the guards without a malformation. -/
lemma validate_eq_ok_iff : g.validate = .ok () ↔ g.malformation? = none := by
  rw [validate]
  cases g.malformation? <;> simp

/-! ## The operands of a connective -/

namespace Connective

/-- The truth value of an operand that leaves the value of the junction to the others. -/
def neutral : Connective → Bool
  | or => false
  | and => true

/-- What a junction without operands is reported as. -/
def emptiness : Connective → Malformation
  | or => .emptyAny
  | and => .emptyAll

/-- The truth value of operands, looked at from left to right. -/
def evaluate (f : Facts) : Connective → List Guard → Except GuardError Bool
  | or => evaluateAny f
  | and => evaluateAll f

/-- No operand decides anything if there is none. -/
lemma evaluate_nil : k.evaluate f [] = .ok k.neutral := by
  cases k <;> rfl

/-- A neutral operand leaves the decision to those after it. -/
lemma evaluate_cons_of_neutral (h : g.evaluate f = .ok k.neutral) :
    k.evaluate f (g :: gs) = k.evaluate f gs := by
  cases k <;> simp only [neutral] at h <;> simp [evaluate, evaluateAny, evaluateAll, h]

/-- Any other operand decides, and those after it are not looked at. -/
lemma evaluate_cons_of_ne (h : g.evaluate f ≠ .ok k.neutral) :
    k.evaluate f (g :: gs) = g.evaluate f := by
  cases k <;> simp only [evaluate, evaluateAny, evaluateAll, neutral] at h ⊢ <;>
    rcases hg : g.evaluate f with e | (_ | _) <;> simp_all

/-- Operands are all neutral, and so is their value, or the value is that of one which is not. -/
lemma evaluate_cases (f : Facts) (k : Connective) (gs : List Guard) :
    ((∀ g ∈ gs, g.evaluate f = .ok k.neutral) ∧ k.evaluate f gs = .ok k.neutral) ∨
      ∃ g ∈ gs, g.evaluate f ≠ .ok k.neutral ∧ k.evaluate f gs = g.evaluate f := by
  induction gs with
  | nil => exact .inl ⟨by simp, evaluate_nil⟩
  | cons g gs ih =>
    by_cases hg : g.evaluate f = .ok k.neutral
    · rw [evaluate_cons_of_neutral hg]
      rcases ih with ⟨hall, hv⟩ | ⟨h, hmem, hne, hv⟩
      · exact .inl ⟨List.forall_mem_cons.2 ⟨hg, hall⟩, hv⟩
      · exact .inr ⟨h, List.mem_cons_of_mem g hmem, hne, hv⟩
    · exact .inr ⟨g, List.mem_cons_self, hg, evaluate_cons_of_ne hg⟩

end Connective

/-- A junction without operands is malformed. -/
lemma evaluate_combine_nil : evaluate f (k.combine []) = .error (.malformed k.emptiness) := by
  cases k <;> simp [Connective.combine, Connective.emptiness, evaluate]

/-- The value of a junction is that of its operands. -/
lemma evaluate_combine (h : gs ≠ []) : evaluate f (k.combine gs) = k.evaluate f gs := by
  cases k <;> simp [Connective.combine, Connective.evaluate, evaluate, h]

/-- A negation has a value if what it negates has the opposite one. -/
lemma evaluate_not_eq_ok_iff {b : Bool} :
    evaluate f (.not g) = .ok b ↔ evaluate f g = .ok !b := by
  rw [evaluate]
  rcases evaluate f g with e | (_ | _) <;> cases b <;> simp

/-- A negation fails as what it negates. -/
lemma evaluate_not_eq_error_iff {e : GuardError} :
    evaluate f (.not g) = .error e ↔ evaluate f g = .error e := by
  rw [evaluate]
  rcases evaluate f g with e' | (_ | _) <;> simp

/-! ## Why a guard has no truth value -/

/-- A guard that fails for a release compares with this release, and it is not known. -/
lemma releases_of_evaluate {token : String} (h : evaluate f g = .error (.unknownRelease token)) :
    token ∈ g.releases ∧ Release.ofToken? token = none := by
  induction g using induction with
  | release op t =>
    rw [evaluate, compareRelease] at h
    split at h
    · simp at h
    · cases ht : Release.ofToken? t with
      | some r => simp [ht] at h
      | none =>
        obtain rfl : t = token := by simpa [ht] using h
        exact ⟨List.mem_singleton_self t, ht⟩
  | capability c => simp [evaluate] at h
  | not g ih => exact ih (evaluate_not_eq_error_iff.1 h)
  | junction k gs ih =>
    have hne : gs ≠ [] := by
      rintro rfl
      rw [evaluate_combine_nil] at h
      simp at h
    rw [evaluate_combine hne] at h
    rcases k.evaluate_cases f gs with ⟨-, hv⟩ | ⟨g, hg, -, hv⟩
    · simp [h] at hv
    · obtain ⟨hmem, hunknown⟩ := ih g hg (hv ▸ h)
      exact ⟨mem_releases_combine.2 ⟨g, hg, hmem⟩, hunknown⟩

/-- A validated guard does not fail for being malformed. -/
lemma evaluate_ne_malformed (h : g.malformation? = none) (m : Malformation) :
    evaluate f g ≠ .error (.malformed m) := by
  induction g using induction with
  | release op token =>
    have hne : token.isEmpty = false := by simpa [malformation?] using h
    rw [evaluate, compareRelease, hne]
    cases Release.ofToken? token <;> simp
  | capability c => simp [evaluate]
  | not g ih => exact fun he => ih h (evaluate_not_eq_error_iff.1 he)
  | junction k gs ih =>
    obtain ⟨hne, hall⟩ := malformation?_combine_eq_none_iff.1 h
    rw [evaluate_combine hne]
    rcases k.evaluate_cases f gs with ⟨-, hv⟩ | ⟨g, hg, -, hv⟩
    · simp [hv]
    · rw [hv]
      exact ih g hg (hall g hg)

end CaskAudit.Guard
