import CaskAudit.Proofs.Manifest.Description
import CaskAudit.Proofs.Manifest.Selection

/-!
# Clauses that are not selected

What a manifest says about a host depends on its token, its outer scope, its guards and the one
clause that is selected. Two manifests that agree in these say the same, whatever the clauses that
lose declare (`resolve_depends_on_selected`): the guards alone decide which clause is selected
(`select_of_same_guards`), and nothing is read from another one.
-/

namespace CaskAudit.Manifest

variable {f : Facts} {m m' : Manifest} {d : Declarations} {cs cs' l r : List Clause}

/-! ## Clauses with the same guards -/

/-- Whether every guard is false shows in the guards. -/
lemma Refuted.of_same_guards (h : Refuted f cs)
    (hsame : cs'.map Clause.guard? = cs.map Clause.guard?) : Refuted f cs' := by
  intro g d hmem
  have hguard : some g ∈ cs.map Clause.guard? := by
    rw [← hsame]
    exact List.mem_map_of_mem hmem
  obtain ⟨c, hc, hg⟩ := List.mem_map.1 hguard
  cases c with
  | guarded g' d' =>
    obtain rfl : g' = g := Option.some.inj hg
    exact h g' d' hc
  | fallback d' => cases hg

/-- Whether each clause has a guard shows in the guards. -/
lemma fallback_notMem_of_same_guards (h : ∀ d, Clause.fallback d ∉ cs)
    (hsame : cs'.map Clause.guard? = cs.map Clause.guard?) (d : Declarations) :
    Clause.fallback d ∉ cs' := by
  intro hmem
  have hguard : none ∈ cs.map Clause.guard? := by
    rw [← hsame]
    exact List.mem_map_of_mem hmem
  obtain ⟨c, hc, hg⟩ := List.mem_map.1 hguard
  cases c with
  | guarded g' d' => cases hg
  | fallback d' => exact h d' hc

/-- Clauses with the same guards have a clause with the same guard in the same place. -/
lemma exists_of_same_guards {c : Clause}
    (hsame : cs'.map Clause.guard? = (l ++ c :: r).map Clause.guard?) :
    ∃ l' c' r', cs' = l' ++ c' :: r' ∧ l'.map Clause.guard? = l.map Clause.guard? ∧
      c'.guard? = c.guard? := by
  rw [List.map_append, List.map_cons] at hsame
  obtain ⟨l', cs'', rfl, hl, hcs⟩ := List.map_eq_append_iff.1 hsame
  obtain ⟨c', r', rfl, hc, -⟩ := List.map_eq_cons_iff.1 hcs
  exact ⟨l', c', r', rfl, hl, hc⟩

/-- The declarations of the clause with a number. -/
def bodyAt? (m : Manifest) (i : Nat) : Option Declarations := m.clauses[i]?.map Clause.body

/-- The clause in a place is the one with the number of the place. -/
lemma bodyAt?_length {c : Clause} (h : m.clauses = l ++ c :: r) :
    m.bodyAt? l.length = some c.body := by
  rw [bodyAt?, h]
  simp

/-- The declarations that are selected are those of the clause with the selected number. -/
lemma bodyAt?_of_select {s : Selection} (h : m.select f = .ok (s, d)) :
    m.bodyAt? s.index = some d := by
  rcases select_ok_cases h with ⟨l, g, r, hm, -, -, rfl⟩ | ⟨-, l, r, hm, -, rfl⟩
  · exact bodyAt?_length hm
  · exact bodyAt?_length hm

/-- The guards decide which clause is selected. -/
lemma select_of_same_guards {s : Selection} (h : m.select f = .ok (s, d))
    (hsame : m'.clauses.map Clause.guard? = m.clauses.map Clause.guard?) :
    ∃ d', m'.select f = .ok (s, d') := by
  rcases select_ok_cases h with ⟨l, g, r, hm, hl, hg, rfl⟩ | ⟨hrefuted, l, r, hm, hl, rfl⟩
  · obtain ⟨l', c', r', hm', hl', hc'⟩ := exists_of_same_guards (hm ▸ hsame)
    have hlength : l'.length = l.length := by simpa using congrArg List.length hl'
    cases c' with
    | fallback d' => cases hc'
    | guarded g' d' =>
      obtain rfl : g' = g := Option.some.inj hc'
      exact ⟨d', hlength ▸ select_of_admitted hm' (hl.of_same_guards hl') hg⟩
  · obtain ⟨l', c', r', hm', hl', hc'⟩ := exists_of_same_guards (hm ▸ hsame)
    have hlength : l'.length = l.length := by simpa using congrArg List.length hl'
    cases c' with
    | guarded g' d' => cases hc'
    | fallback d' =>
      have hbefore := fallback_notMem_of_same_guards hl hl'
      exact ⟨d', hlength ▸ select_of_refuted hm' hbefore (hrefuted.of_same_guards hsame)⟩

/-! ## Nothing but the selected clause is read -/

/-- Two manifests with the same token, outer scope and guards say the same about a host if the
clause that is selected for it declares the same in both, whatever the others declare. And a
descriptor has each field as the selected clause declares it, or else as the outer scope does. -/
theorem resolve_depends_on_selected :
    (∀ (m m' : Manifest) (f : Facts) (s : Selection) (d : Declarations),
      m'.token = m.token → m'.outer = m.outer →
      m'.clauses.map Clause.guard? = m.clauses.map Clause.guard? →
      m.select f = .ok (s, d) → m'.bodyAt? s.index = m.bodyAt? s.index →
      m'.resolve f = m.resolve f) ∧
    ∀ (m : Manifest) (f : Facts) (cask : ResolvedCask),
      m.resolve f = .ok cask ↔
        cask.token = m.token ∧ ∃ d, m.select f = .ok (cask.selected, d) ∧
          m.bodyAt? cask.selected.index = some d ∧ Describes d m.outer cask := by
  refine ⟨?_, ?_⟩
  · intro m m' f s d htoken houter hsame hs hbody
    obtain ⟨d', hs'⟩ := select_of_same_guards hs hsame
    have hd : d' = d := by
      rw [bodyAt?_of_select hs, bodyAt?_of_select hs'] at hbody
      exact Option.some.inj hbody
    rw [resolve_of_select_eq_ok hs, resolve_of_select_eq_ok hs', htoken, houter, hd]
  · intro m f cask
    constructor
    · intro h
      cases hs : m.select f with
      | error e =>
        rw [resolve_of_select_eq_error hs] at h
        cases h
      | ok found =>
        obtain ⟨s, d⟩ := found
        obtain ⟨htoken, rfl, hd⟩ := (resolve_eq_ok_iff hs).1 h
        exact ⟨htoken, d, rfl, bodyAt?_of_select hs, hd⟩
    · rintro ⟨htoken, d, hs, -, hd⟩
      exact (resolve_eq_ok_iff hs).2 ⟨htoken, rfl, hd⟩

/-- A cask whose address has the second component of the version in it, with a version of its own
for old hosts. -/
def forOldHosts (version : String) : Manifest where
  token := ⟨"praat"⟩
  outer := { Declarations.empty with
    checksum := some .noCheck
    url := some ⟨"#\x7bversion.minor\x7d.dmg", [.version [.minor], .literal ".dmg".toList]⟩
    license := some ⟨"gpl"⟩ }
  clauses :=
    [.guarded (.release .le "tiger") { Declarations.empty with version := some ⟨version⟩ },
      .fallback { Declarations.empty with version := some ⟨"6.1"⟩, license := some ⟨"mit"⟩ }]

/-- The version for old hosts has no part in what is said about a new one, even if it has no second
component, so that nothing can be said about old hosts. -/
theorem resolve_depends_on_selected_praat :
    (forOldHosts "5").resolve ⟨.tiger, .powerPc, .bits32⟩ =
      .error ⟨⟨"praat"⟩, .template .url (.noValue "version.minor" "5")⟩ ∧
    (forOldHosts "5").resolve ⟨.tahoe, .arm, .bits64⟩ =
      (forOldHosts "4.3").resolve ⟨.tahoe, .arm, .bits64⟩ ∧
    (forOldHosts "4.3").resolve ⟨.tahoe, .arm, .bits64⟩ = .ok
      { token := ⟨"praat"⟩, version := ⟨"6.1"⟩, checksum := .noCheck, url := some "1.dmg"
        appcast := none, autoUpdates := false, name := none, homepage := none
        license := some ⟨"mit"⟩, app := none, selected := .fallback 1 } := by
  obtain ⟨hsame, hcask⟩ := resolve_depends_on_selected
  refine ⟨by rfl, hsame _ _ _ (.fallback 1) _ rfl rfl rfl rfl rfl, (hcask _ _ _).2 ?_⟩
  exact ⟨rfl, _, rfl, rfl, rfl, rfl, .some rfl, .none, rfl, rfl, rfl, rfl, rfl⟩

end CaskAudit.Manifest
