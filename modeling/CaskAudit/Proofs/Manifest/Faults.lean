import CaskAudit.Proofs.Manifest.Construction
import CaskAudit.Proofs.Manifest.Description
import CaskAudit.Proofs.Manifest.Selection

/-!
# Faults that a manifest cannot have

A manifest is checked once, when it is built. `resolve_error_cases` lists what can go wrong with one
that was accepted: a guard fails for a release that is not known, nothing matches, or a template
cannot be expanded. Malformed guards and missing fields are not on the list.
-/

namespace CaskAudit.Manifest

variable {text : String} {outer : Declarations} {clauses : List Clause} {m : Manifest} {f : Facts}

/-- A selected clause is one of the manifest. -/
lemma exists_mem_of_select {s : Selection} {d : Declarations} (h : m.select f = .ok (s, d)) :
    ∃ c ∈ m.clauses, c.body = d := by
  rcases select_ok_cases h with ⟨l, g, r, hm, -⟩ | ⟨-, l, r, hm, -⟩
  · exact ⟨.guarded g d, by simp [hm], rfl⟩
  · exact ⟨.fallback d, by simp [hm], rfl⟩

/-- What can go wrong with a manifest that was accepted. -/
lemma resolve_error_cases (hm : Acceptable m.token m.outer m.clauses) {e : ResolveError}
    (h : m.resolve f = .error e) :
    (∃ l g d r release, m.clauses = l ++ .guarded g d :: r ∧
      g.evaluate f = .error (.unknownRelease release) ∧
        e.fault = .unknownRelease l.length release) ∨
    e.fault = .noMatchingVersion f ∨ ∃ field te, e.fault = .template field te := by
  cases hs : m.select f with
  | error fault =>
    rw [resolve_of_select_eq_error hs] at h
    cases h
    rcases select_error_cases hs with ⟨l, g, d, r, x, hclauses, hx, rfl⟩ | rfl
    · have hmem : Clause.guarded g d ∈ m.clauses := by simp [hclauses]
      obtain ⟨release, rfl⟩ := hm.exists_unknownRelease hmem hx
      exact .inl ⟨l, g, d, r, release, hclauses, hx, rfl⟩
    · exact .inr (.inl rfl)
  | ok found =>
    obtain ⟨s, d⟩ := found
    obtain ⟨c, hc, rfl⟩ := exists_mem_of_select hs
    rw [resolve_of_select_eq_ok hs] at h
    cases hd : describe m.token s (c.body.orElse m.outer) with
    | ok cask =>
      rw [hd] at h
      cases h
    | error fault =>
      rw [hd] at h
      cases h
      rcases describe_error_cases hd with (hversion | hchecksum) | htemplate
      · have hnone := Option.or_eq_none_iff.1 hversion
        simpa [hnone.1, hnone.2] using hm.versions c hc
      · have hnone := Option.or_eq_none_iff.1 hchecksum
        simpa [hnone.1, hnone.2] using hm.checksums c hc
      · exact .inr (.inr htemplate)

/-- A description gives a manifest if it is acceptable. On no host does such a manifest then fail
for a malformed guard or a missing field, and if it fails for an unknown release, then this stands
in the guard of the clause that is named. -/
theorem build_excludes_faults (text : String) (outer : Declarations) (clauses : List Clause) :
    ((∃ m, build text outer clauses = .ok m) ↔ Acceptable (.ofText text) outer clauses) ∧
    ∀ m, build text outer clauses = .ok m → ∀ f e, m.resolve f = .error e →
      (∀ clause x, e.fault ≠ .malformedGuard clause x) ∧
      (∀ clause field, e.fault ≠ .missingField clause field) ∧
      ∀ clause release, e.fault = .unknownRelease clause release →
        ∃ g d, m.clauses[clause]? = some (.guarded g d) ∧ release ∈ g.releases := by
  refine ⟨?_, ?_⟩
  · constructor
    · rintro ⟨m, hm⟩
      exact (build_eq_ok_iff.1 hm).1
    · intro hacceptable
      exact ⟨_, build_eq_ok_iff.2 ⟨hacceptable, rfl⟩⟩
  · intro m hm f e he
    obtain ⟨hacceptable, rfl⟩ := build_eq_ok_iff.1 hm
    rcases resolve_error_cases hacceptable he with
      ⟨l, g, d, r, release, hclauses, hrelease, hfault⟩ | hfault | ⟨field, te, hfault⟩
    · refine ⟨by simp [hfault], by simp [hfault], ?_⟩
      intro clause release' heq
      obtain ⟨rfl, rfl⟩ : l.length = clause ∧ release = release' := by simpa [hfault] using heq
      refine ⟨g, d, ?_, (Guard.releases_of_evaluate hrelease).1⟩
      rw [hclauses]
      simp
    · exact ⟨by simp [hfault], by simp [hfault], by simp [hfault]⟩
    · exact ⟨by simp [hfault], by simp [hfault], by simp [hfault]⟩

/-- A cask with a version for every host, and a checksum for those that are not on a release that is
not known. -/
def notOnCopland : Manifest where
  token := ⟨"copland"⟩
  outer := { Declarations.empty with version := some ⟨"8"⟩ }
  clauses :=
    [.fallback { Declarations.empty with checksum := some .noCheck },
      .guarded (.any [.capability .arm, .not (.release .eq "copland")])
        { Declarations.empty with checksum := some .noCheck }]

/-- A description with a guard for an unknown release is acceptable, and the fault to which the
guard leads names its clause. -/
theorem build_excludes_faults_copland :
    Acceptable (.ofText " Copland") notOnCopland.outer notOnCopland.clauses ∧
    notOnCopland.resolve ⟨.jaguar, .powerPc, .bits32⟩ =
      .error ⟨⟨"copland"⟩, .unknownRelease 1 "copland"⟩ ∧
    ∃ g d, notOnCopland.clauses[1]? = some (.guarded g d) ∧ "copland" ∈ g.releases := by
  obtain ⟨hiff, hfaults⟩ :=
    build_excludes_faults " Copland" notOnCopland.outer notOnCopland.clauses
  have hbuild : build " Copland" notOnCopland.outer notOnCopland.clauses = .ok notOnCopland := by
    rfl
  have hfails : notOnCopland.resolve ⟨.jaguar, .powerPc, .bits32⟩ =
      .error ⟨⟨"copland"⟩, .unknownRelease 1 "copland"⟩ := by
    rfl
  exact ⟨hiff.1 ⟨_, hbuild⟩, hfails, (hfaults _ hbuild _ _ hfails).2.2 _ _ rfl⟩

end CaskAudit.Manifest
