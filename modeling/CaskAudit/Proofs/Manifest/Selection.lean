import CaskAudit.Resolution
import Mathlib.Data.List.Count

/-!
# Which clause is selected

The clauses of a manifest are looked at in their order. Those that are `Refuted` are passed over:
guarded ones whose guard is false, and the one without a guard, wherever it stands. The first guard
that is not false settles the matter, by a failure if it fails (`firstAdmitted_of_reached`). If
there is none, the clause without a guard is selected. `select_ok_cases` and `select_error_cases`
list the ways in which this ends.
-/

namespace CaskAudit.Manifest

variable {f : Facts} {m : Manifest} {g : Guard} {d : Declarations} {cs l r : List Clause} {n : Nat}

/-! ## Passing over clauses -/

/-- Every guard of the clauses is false on a host. -/
def Refuted (f : Facts) (cs : List Clause) : Prop :=
  ∀ g d, Clause.guarded g d ∈ cs → g.evaluate f = .ok false

/-- Nothing in a list has a property, or there is a first thing that has it. -/
lemma forall_or_exists_first {α : Type} (p : α → Prop) (as : List α) :
    (∀ a ∈ as, ¬p a) ∨ ∃ l a r, as = l ++ a :: r ∧ (∀ b ∈ l, ¬p b) ∧ p a := by
  classical
  cases h : as.find? (p ·) with
  | none => exact .inl (by simpa using h)
  | some a =>
    obtain ⟨ha, l, r, rfl, hl⟩ := List.find?_eq_some_iff_append.1 h
    exact .inr ⟨l, a, r, rfl, by simpa using hl, by simpa using ha⟩

/-- Either every guard is false, or there is a first that is not. -/
lemma refuted_or_reached (f : Facts) (cs : List Clause) :
    Refuted f cs ∨
      ∃ l g d r, cs = l ++ .guarded g d :: r ∧ Refuted f l ∧ g.evaluate f ≠ .ok false := by
  have hrefuted : ∀ l : List Clause,
      (∀ c ∈ l, ¬∃ g d, c = .guarded g d ∧ g.evaluate f ≠ .ok false) → Refuted f l := by
    intro l hl g d hmem
    by_contra hne
    exact hl _ hmem ⟨g, d, rfl, hne⟩
  rcases forall_or_exists_first (fun c => ∃ g d, c = .guarded g d ∧ g.evaluate f ≠ .ok false) cs
    with hall | ⟨l, _, r, rfl, hl, g, d, rfl, hg⟩
  · exact .inl (hrefuted cs hall)
  · exact .inr ⟨l, g, d, r, rfl, hrefuted l hl, hg⟩

/-- Nothing is found among clauses whose guards are false. -/
lemma firstAdmitted_of_refuted (h : Refuted f cs) : firstAdmitted f n cs = .ok none := by
  induction cs generalizing n with
  | nil => rfl
  | cons c cs ih =>
    have hcs : Refuted f cs := fun g d hmem => h g d (List.mem_cons_of_mem c hmem)
    cases c with
    | fallback d => exact ih hcs
    | guarded g d =>
      rw [firstAdmitted, h g d List.mem_cons_self]
      exact ih hcs

/-- Clauses are looked at only after those before them, if nothing is found there. -/
lemma firstAdmitted_append :
    firstAdmitted f n (l ++ r) =
      (firstAdmitted f n l).bind fun
        | some found => .ok (some found)
        | none => firstAdmitted f (n + l.length) r := by
  induction l generalizing n with
  | nil => rfl
  | cons c l ih =>
    have hn : n + (c :: l).length = n + 1 + l.length := by
      rw [List.length_cons]
      omega
    rw [hn]
    cases c with
    | fallback d => exact ih
    | guarded g d =>
      rw [List.cons_append, firstAdmitted, firstAdmitted]
      rcases g.evaluate f with (m | token) | (_ | _)
      · rfl
      · rfl
      · exact ih
      · rfl

/-- The first guard that is not false settles the matter, whatever comes after it. -/
lemma firstAdmitted_of_reached (hl : Refuted f l) :
    firstAdmitted f 0 (l ++ .guarded g d :: r) =
      firstAdmitted f l.length (.guarded g d :: r) := by
  rw [firstAdmitted_append, firstAdmitted_of_refuted hl, Nat.zero_add]
  rfl

/-! ## The clause without a guard -/

/-- No clause without a guard is found if there is none. -/
lemma fallback?_eq_none (hm : ∀ d, Clause.fallback d ∉ m.clauses) : m.fallback? = none := by
  rw [fallback?, List.findSome?_eq_none_iff]
  rintro ⟨c, i⟩ hc
  cases c with
  | guarded g d => rfl
  | fallback d => exact absurd (List.fst_mem_of_mem_zipIdx hc) (hm d)

/-- The clause without a guard is found with its number. -/
lemma fallback?_eq_some (hm : m.clauses = l ++ .fallback d :: r)
    (hl : ∀ d', Clause.fallback d' ∉ l) : m.fallback? = some (l.length, d) := by
  have hbefore : fallback? ⟨m.token, m.outer, l⟩ = none := fallback?_eq_none hl
  rw [fallback?] at hbefore
  rw [fallback?, hm, List.zipIdx_append, List.findSome?_append, Nat.zero_add, hbefore]
  rfl

/-- The only clause without a guard is not among those before it. -/
lemma fallback_notMem (h : (l ++ .fallback d :: r).countP Clause.isFallback ≤ 1)
    (d' : Declarations) : Clause.fallback d' ∉ l := by
  intro hmem
  have hpos : 0 < l.countP Clause.isFallback := List.countP_pos_iff.2 ⟨_, hmem, rfl⟩
  rw [List.countP_append, List.countP_cons_of_pos rfl] at h
  omega

/-! ## The selected clause -/

/-- The first guard that is not false selects its clause if it is true. -/
lemma select_of_admitted (hm : m.clauses = l ++ .guarded g d :: r) (hl : Refuted f l)
    (hg : g.evaluate f = .ok true) : m.select f = .ok (.guarded l.length g.render, d) := by
  rw [select, hm, firstAdmitted_of_reached hl, firstAdmitted, hg]

/-- The fault that is reported for a guard that fails. -/
def guardFault (index : Nat) : GuardError → ResolveFault
  | .malformed x => .malformedGuard index x
  | .unknownRelease release => .unknownRelease index release

/-- The first guard that is not false stops the search if it fails. -/
lemma select_of_failed {x : GuardError} (hm : m.clauses = l ++ .guarded g d :: r)
    (hl : Refuted f l) (hg : g.evaluate f = .error x) :
    m.select f = .error (guardFault l.length x) := by
  rw [select, hm, firstAdmitted_of_reached hl, firstAdmitted, hg]
  cases x <;> rfl

/-- The clause without a guard is selected if every guard is false. -/
lemma select_of_refuted (hm : m.clauses = l ++ .fallback d :: r)
    (hl : ∀ d', Clause.fallback d' ∉ l) (h : Refuted f m.clauses) :
    m.select f = .ok (.fallback l.length, d) := by
  rw [select, firstAdmitted_of_refuted h, fallback?_eq_some hm hl]

/-- Nothing is selected if every guard is false and each clause has one. -/
lemma select_of_refuted_of_guarded (hm : ∀ d, Clause.fallback d ∉ m.clauses)
    (h : Refuted f m.clauses) : m.select f = .error (.noMatchingVersion f) := by
  rw [select, firstAdmitted_of_refuted h, fallback?_eq_none hm]

/-- A clause that is selected is the first whose guard is not false, and that guard is true, or it
is the one without a guard, and every guard is false. -/
lemma select_ok_cases {s : Selection} (h : m.select f = .ok (s, d)) :
    (∃ l g r, m.clauses = l ++ .guarded g d :: r ∧ Refuted f l ∧ g.evaluate f = .ok true ∧
      s = .guarded l.length g.render) ∨
    Refuted f m.clauses ∧ ∃ l r, m.clauses = l ++ .fallback d :: r ∧
      (∀ d', Clause.fallback d' ∉ l) ∧ s = .fallback l.length := by
  rcases refuted_or_reached f m.clauses with hrefuted | ⟨l, g, d', r, hm, hl, hg⟩
  · refine .inr ⟨hrefuted, ?_⟩
    rcases forall_or_exists_first (fun c => ∃ d', c = Clause.fallback d') m.clauses
      with hnone | ⟨l, _, r, hm, hl, d', rfl⟩
    · have hguarded : ∀ d, Clause.fallback d ∉ m.clauses := fun d hd => hnone _ hd ⟨d, rfl⟩
      rw [select_of_refuted_of_guarded hguarded hrefuted] at h
      cases h
    · have hbefore : ∀ d, Clause.fallback d ∉ l := fun d hd => hl _ hd ⟨d, rfl⟩
      rw [select_of_refuted hm hbefore hrefuted] at h
      cases h
      exact ⟨l, r, hm, hbefore, rfl⟩
  · refine .inl ?_
    rcases hv : g.evaluate f with x | (_ | _)
    · rw [select_of_failed hm hl hv] at h
      cases h
    · exact absurd hv hg
    · rw [select_of_admitted hm hl hv] at h
      cases h
      exact ⟨l, g, r, hm, hl, hv, rfl⟩

/-- Nothing is selected if the first guard that is not false fails, or if every guard is false. -/
lemma select_error_cases {e : ResolveFault} (h : m.select f = .error e) :
    (∃ l g d r x, m.clauses = l ++ .guarded g d :: r ∧ g.evaluate f = .error x ∧
      e = guardFault l.length x) ∨ e = .noMatchingVersion f := by
  rcases refuted_or_reached f m.clauses with hrefuted | ⟨l, g, d, r, hm, hl, hg⟩
  · rw [select, firstAdmitted_of_refuted hrefuted] at h
    cases hfallback : m.fallback? with
    | none => exact .inr (by simpa [hfallback] using h.symm)
    | some found => simp [hfallback] at h
  · refine .inl ?_
    rcases hv : g.evaluate f with x | (_ | _)
    · rw [select_of_failed hm hl hv] at h
      cases h
      exact ⟨l, g, d, r, x, hm, hv, rfl⟩
    · exact absurd hv hg
    · rw [select_of_admitted hm hl hv] at h
      cases h

end CaskAudit.Manifest
