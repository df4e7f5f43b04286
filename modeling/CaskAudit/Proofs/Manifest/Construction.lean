import CaskAudit.Manifest
import CaskAudit.Proofs.Guard.Evaluation

/-!
# Which descriptions are manifests

`Acceptable` lists what a description has to be, `Manifest.build_eq_ok_iff` says that this is what
`Manifest.build` asks for: it goes over the clauses one by one and stops at the first that is at
fault, but accepts a description exactly if none is.
-/

namespace CaskAudit

/-- A description that is a manifest: it has a token and clauses, of which one at most has no guard;
every guard is valid; and every clause yields a version and a checksum, if need be with the help of
the outer scope. -/
structure Acceptable (token : Token) (outer : Declarations) (clauses : List Clause) : Prop where
  token_ne_empty : token.text ≠ ""
  clauses_ne_nil : clauses ≠ []
  guards_valid : ∀ c ∈ clauses, ∀ g, c.guard? = some g → g.validate = .ok ()
  versions : ∀ c ∈ clauses, c.body.version.isSome ∨ outer.version.isSome
  checksums : ∀ c ∈ clauses, c.body.checksum.isSome ∨ outer.checksum.isSome
  one_fallback : clauses.countP Clause.isFallback ≤ 1

variable {token : Token} {outer : Declarations} {clauses : List Clause}

/-- The order of clauses has no part in whether a description is a manifest. -/
lemma Acceptable.of_perm {clauses' : List Clause} (h : Acceptable token outer clauses)
    (hp : clauses.Perm clauses') : Acceptable token outer clauses' where
  token_ne_empty := h.token_ne_empty
  clauses_ne_nil := by
    rintro rfl
    exact h.clauses_ne_nil hp.eq_nil
  guards_valid c hc := h.guards_valid c (hp.mem_iff.2 hc)
  versions c hc := h.versions c (hp.mem_iff.2 hc)
  checksums c hc := h.checksums c (hp.mem_iff.2 hc)
  one_fallback := hp.countP_eq Clause.isFallback ▸ h.one_fallback

/-- A guard of an acceptable description fails for nothing but a release that is not known. -/
lemma Acceptable.exists_unknownRelease (h : Acceptable token outer clauses) {g : Guard}
    {d : Declarations} (hmem : Clause.guarded g d ∈ clauses) {f : Facts} {x : GuardError}
    (hx : g.evaluate f = .error x) : ∃ release, x = .unknownRelease release := by
  have hvalid : g.malformation? = none :=
    Guard.validate_eq_ok_iff.1 (h.guards_valid _ hmem g rfl)
  cases x with
  | malformed y => exact absurd hx (Guard.evaluate_ne_malformed hvalid y)
  | unknownRelease release => exact ⟨release, rfl⟩

namespace Manifest

/-- A clause is accepted if its guard is valid and it yields a version and a checksum. -/
lemma checkClause_eq_ok_iff {index : Nat} {c : Clause} :
    checkClause token outer index c = .ok () ↔
      (∀ g, c.guard? = some g → g.validate = .ok ()) ∧
        (c.body.version.isSome ∨ outer.version.isSome) ∧
          (c.body.checksum.isSome ∨ outer.checksum.isSome) := by
  have hvalid : (∀ g, c.guard? = some g → g.validate = .ok ()) ↔
      c.guard?.bind Guard.malformation? = none := by
    cases c.guard? <;> simp [Guard.validate_eq_ok_iff]
  rw [hvalid, checkClause]
  cases c.guard?.bind Guard.malformation? with
  | some m => simp
  | none =>
    cases c.body.version <;> cases c.body.checksum <;> cases outer.version <;>
      cases outer.checksum <;> simp

/-- Clauses are accepted if each of them is, whatever number the first has. -/
lemma checkClauses_eq_ok_iff {index : Nat} :
    checkClauses token outer index clauses = .ok () ↔
      ∀ c ∈ clauses, checkClause token outer 0 c = .ok () := by
  induction clauses generalizing index with
  | nil => simp [checkClauses]
  | cons c cs ih =>
    have hc : checkClause token outer index c = .ok () ↔ checkClause token outer 0 c = .ok () := by
      rw [checkClause_eq_ok_iff, checkClause_eq_ok_iff]
    rw [List.forall_mem_cons, ← hc, ← @ih (index + 1), checkClauses]
    cases checkClause token outer index c <;> simp

/-- What `build` checks is what makes a description acceptable. -/
lemma acceptable_iff_checkClauses :
    Acceptable token outer clauses ↔
      token.text.isEmpty = false ∧ clauses.isEmpty = false ∧
        checkClauses token outer 0 clauses = .ok () ∧ ¬1 < clauses.countP Clause.isFallback := by
  have htoken : token.text.isEmpty = false ↔ token.text ≠ "" := by
    rw [← Bool.not_eq_true, String.isEmpty_iff]
  rw [htoken, List.isEmpty_eq_false_iff, Nat.not_lt, checkClauses_eq_ok_iff]
  simp only [checkClause_eq_ok_iff]
  constructor
  · intro h
    refine ⟨h.token_ne_empty, h.clauses_ne_nil, ?_, h.one_fallback⟩
    intro c hc
    exact ⟨h.guards_valid c hc, h.versions c hc, h.checksums c hc⟩
  · rintro ⟨hne, hnil, hall, hone⟩
    exact ⟨hne, hnil, fun c hc => (hall c hc).1, fun c hc => (hall c hc).2.1,
      fun c hc => (hall c hc).2.2, hone⟩

/-- A description gives a manifest if it is acceptable, and then the manifest that it says. -/
lemma build_eq_ok_iff {text : String} {m : Manifest} :
    build text outer clauses = .ok m ↔
      Acceptable (.ofText text) outer clauses ∧ m = ⟨.ofText text, outer, clauses⟩ := by
  rw [acceptable_iff_checkClauses, build]
  cases htoken : (Token.ofText text).text.isEmpty with
  | true => simp
  | false =>
    cases hclauses : clauses.isEmpty with
    | true => simp
    | false =>
      cases hcheck : checkClauses (.ofText text) outer 0 clauses with
      | error e => simp
      | ok _ =>
        by_cases hone : 1 < clauses.countP Clause.isFallback
        · simp [hone]
        · simp [hone, eq_comm]

end Manifest

end CaskAudit
