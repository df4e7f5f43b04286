import CaskAudit.Proofs.Manifest.Construction
import CaskAudit.Proofs.Manifest.Description
import CaskAudit.Proofs.Manifest.Selection

/-!
# The order of clauses

`resolve_by_first_admitted` says how a manifest answers: by its first guard that is not false, or by
its clause without a guard. It does not matter where that clause stands among the others, but for
the numbers by which clauses are reported: a clause is renumbered as the other one is moved
(`resolve_move_fallback`).
-/

namespace CaskAudit

/-! ## Clauses with other numbers -/

/-- A selection after clauses are renumbered. -/
def Selection.renumber (σ : Nat → Nat) : Selection → Selection
  | guarded index guard => guarded (σ index) guard
  | fallback index => fallback (σ index)

/-- A fault after clauses are renumbered. -/
def ResolveFault.renumber (σ : Nat → Nat) : ResolveFault → ResolveFault
  | unknownRelease clause release => unknownRelease (σ clause) release
  | malformedGuard clause m => malformedGuard (σ clause) m
  | noMatchingVersion facts => noMatchingVersion facts
  | missingField clause field => missingField (σ clause) field
  | template field e => template field e

/-- A failed resolution after clauses are renumbered. -/
def ResolveError.renumber (σ : Nat → Nat) (e : ResolveError) : ResolveError :=
  { e with fault := e.fault.renumber σ }

/-- A descriptor after clauses are renumbered. -/
def ResolvedCask.renumber (σ : Nat → Nat) (cask : ResolvedCask) : ResolvedCask :=
  { cask with selected := cask.selected.renumber σ }

/-- The selected clause is the renumbered one. -/
@[simp]
lemma Selection.index_renumber (σ : Nat → Nat) (s : Selection) :
    (s.renumber σ).index = σ s.index := by
  cases s <;> rfl

namespace Manifest

variable {f : Facts} {m m' : Manifest} {d : Declarations} {cs l r l' r' : List Clause} {n n' : Nat}
  {σ : Nat → Nat}

/-- Nothing but the number of the selected clause changes in a descriptor, or in the fault that
there is instead. -/
lemma describe_renumber (token : Token) (s : Selection) (d : Declarations) :
    describe token (s.renumber σ) d =
      ((describe token s d).map (·.renumber σ)).mapError (·.renumber σ) := by
  rw [describe, describe, Selection.index_renumber]
  cases d.version with
  | none => rfl
  | some version =>
    cases d.checksum with
    | none => rfl
    | some checksum =>
      dsimp only
      cases hurl : expandField version .url d.url with
      | error e =>
        obtain ⟨te, rfl⟩ := exists_of_expandField_eq_error hurl
        rfl
      | ok url =>
        cases happcast : expandAppcast version d.appcast with
        | error e =>
          obtain ⟨te, rfl⟩ := exists_of_expandAppcast_eq_error happcast
          rfl
        | ok appcast => rfl

/-! ## Moving the clause without a guard -/

/-- The number of a clause after another one is put in at a place. -/
def skip (p k : Nat) : Nat := if k < p then k else k + 1

/-- The number of a clause after the one at a place is moved to another place. -/
def moved (p q i : Nat) : Nat :=
  if i < p then skip q i else if i = p then q else skip q (i - 1)

/-- The clause that is moved gets the number of its new place. -/
lemma moved_self (p q : Nat) : moved p q p = q := by
  rw [moved, if_neg (Nat.lt_irrefl p), if_pos rfl]

/-- Any other clause gets the number that it would have got without the move. -/
lemma moved_skip (p q k : Nat) : moved p q (skip p k) = skip q k := by
  unfold moved
  by_cases hk : k < p
  · have hskip : skip p k = k := if_pos hk
    rw [hskip, if_pos hk]
  · have hskip : skip p k = k + 1 := if_neg hk
    rw [hskip, if_neg (by omega), if_neg (by omega), Nat.add_sub_cancel]

/-- Every number is that of the clause that is put in, or that of one of the others. -/
lemma eq_or_exists_skip (p i : Nat) : i = p ∨ ∃ k, i = skip p k := by
  rcases Nat.lt_trichotomy i p with h | h | h
  · exact .inr ⟨i, (if_pos h).symm⟩
  · exact .inl h
  · refine .inr ⟨i - 1, ?_⟩
    rw [skip, if_neg (by omega)]
    omega

/-- Clauses stay what they are when another one is put in. -/
lemma getElem?_skip {α : Type} (l r : List α) (c : α) (k : Nat) :
    (l ++ c :: r)[skip l.length k]? = (l ++ r)[k]? := by
  unfold skip
  by_cases hk : k < l.length
  · rw [if_pos hk, List.getElem?_append_left hk, List.getElem?_append_left hk]
  · have hk' : l.length ≤ k + 1 := by omega
    have hindex : k + 1 - l.length = k - l.length + 1 := by omega
    rw [if_neg hk, List.getElem?_append_right hk', List.getElem?_append_right (Nat.not_lt.1 hk)]
    rw [hindex, List.getElem?_cons_succ]

/-- Clauses stay what they are when one of them is moved. -/
lemma getElem?_moved {α : Type} {l r l' r' : List α} (h : l ++ r = l' ++ r') (c : α) (i : Nat) :
    (l' ++ c :: r')[moved l.length l'.length i]? = (l ++ c :: r)[i]? := by
  rcases eq_or_exists_skip l.length i with rfl | ⟨k, rfl⟩
  · rw [moved_self]
    simp
  · rw [moved_skip, getElem?_skip, getElem?_skip, h]

/-- What is found after clauses are renumbered. -/
def renumberFound (σ : Nat → Nat) :
    Except ResolveFault (Option (Selection × Declarations)) →
      Except ResolveFault (Option (Selection × Declarations))
  | .ok none => .ok none
  | .ok (some (s, d)) => .ok (some (s.renumber σ, d))
  | .error e => .error (e.renumber σ)

/-- The same is found among clauses with other numbers, but for the numbers. -/
lemma firstAdmitted_renumber (h : ∀ i < cs.length, σ (n + i) = n' + i) :
    firstAdmitted f n' cs = renumberFound σ (firstAdmitted f n cs) := by
  induction cs generalizing n n' with
  | nil => rfl
  | cons c cs ih =>
    -- The clauses after the first are numbered from `n + 1`, and from `n' + 1`.
    have hn : σ n = n' := h 0 (Nat.succ_pos _)
    have hcs : firstAdmitted f (n' + 1) cs = renumberFound σ (firstAdmitted f (n + 1) cs) := by
      refine ih fun i hi => ?_
      have := h (i + 1) (Nat.succ_lt_succ hi)
      rw [Nat.add_assoc, Nat.add_comm 1 i, this]
      omega
    cases c with
    | fallback d => exact hcs
    | guarded g d =>
      rw [firstAdmitted, firstAdmitted]
      rcases g.evaluate f with (m | token) | (_ | _)
      · simp [renumberFound, ResolveFault.renumber, hn]
      · simp [renumberFound, ResolveFault.renumber, hn]
      · exact hcs
      · simp [renumberFound, Selection.renumber, hn]

/-- A clause without a guard changes nothing but the numbers of the clauses after it in what is
found. -/
lemma firstAdmitted_fallback :
    firstAdmitted f 0 (l ++ .fallback d :: r) =
      renumberFound (skip l.length) (firstAdmitted f 0 (l ++ r)) := by
  have hl : firstAdmitted f 0 l = renumberFound (skip l.length) (firstAdmitted f 0 l) := by
    refine firstAdmitted_renumber fun i hi => ?_
    rw [Nat.zero_add, skip, if_pos hi]
  have hr : firstAdmitted f (l.length + 1) r =
      renumberFound (skip l.length) (firstAdmitted f l.length r) := by
    refine firstAdmitted_renumber fun i hi => ?_
    rw [skip, if_neg (by omega)]
    omega
  rw [firstAdmitted_append, firstAdmitted_append, Nat.zero_add, firstAdmitted, hr]
  rcases hfound : firstAdmitted f 0 l with e | (_ | ⟨s, d⟩)
  · rw [hfound] at hl
    exact hl
  · rfl
  · rw [hfound] at hl
    exact hl

/-- A fault with the number that a clause gets in one place becomes, by moving the other clause,
the fault with the number that it gets in another. -/
lemma renumber_moved_fault (p q : Nat) (e : ResolveFault) :
    (e.renumber (skip p)).renumber (moved p q) = e.renumber (skip q) := by
  cases e <;> simp [ResolveFault.renumber, moved_skip]

/-- So does a selection. -/
lemma renumber_moved_selection (p q : Nat) (s : Selection) :
    (s.renumber (skip p)).renumber (moved p q) = s.renumber (skip q) := by
  cases s <;> simp [Selection.renumber, moved_skip]

/-- Two manifests that differ in the number of the selected clause answer alike but for numbers. -/
lemma resolve_renumber {s : Selection} (htoken : m'.token = m.token) (houter : m'.outer = m.outer)
    (h : m.select f = .ok (s, d)) (h' : m'.select f = .ok (s.renumber σ, d)) :
    m'.resolve f = ((m.resolve f).map (·.renumber σ)).mapError (·.renumber σ) := by
  rw [resolve_of_select_eq_ok h, resolve_of_select_eq_ok h', htoken, houter, describe_renumber]
  cases describe m.token s (d.orElse m.outer) <;> rfl

/-- A manifest answers the same wherever the clause without a guard stands among the others, but for
the numbers of clauses: each clause is reported by the number of its place. -/
lemma resolve_move_fallback (htoken : m'.token = m.token) (houter : m'.outer = m.outer)
    (hm : m.clauses = l ++ .fallback d :: r) (hm' : m'.clauses = l' ++ .fallback d :: r')
    (hl : ∀ d', Clause.fallback d' ∉ l) (hl' : ∀ d', Clause.fallback d' ∉ l')
    (hsame : l ++ r = l' ++ r') (f : Facts) :
    m'.resolve f =
      ((m.resolve f).map (·.renumber (moved l.length l'.length))).mapError
        (·.renumber (moved l.length l'.length)) := by
  have hfound : firstAdmitted f 0 m.clauses =
      renumberFound (skip l.length) (firstAdmitted f 0 (l ++ r)) := by
    rw [hm, firstAdmitted_fallback]
  have hfound' : firstAdmitted f 0 m'.clauses =
      renumberFound (skip l'.length) (firstAdmitted f 0 (l ++ r)) := by
    rw [hm', firstAdmitted_fallback, hsame]
  -- Both manifests come to the same end among the clauses with a guard: a fault, no clause, or one.
  rcases hguarded : firstAdmitted f 0 (l ++ r) with e | (_ | ⟨s, body⟩)
  · have hs : m.select f = .error (e.renumber (skip l.length)) := by
      rw [select, hfound, hguarded]
      rfl
    have hs' : m'.select f = .error (e.renumber (skip l'.length)) := by
      rw [select, hfound', hguarded]
      rfl
    rw [resolve_of_select_eq_error hs, resolve_of_select_eq_error hs', htoken,
      ← renumber_moved_fault l.length]
    rfl
  · have hs : m.select f = .ok (.fallback l.length, d) := by
      rw [select, hfound, hguarded, fallback?_eq_some hm hl]
      rfl
    have hs' : m'.select f =
        .ok ((Selection.fallback l.length).renumber (moved l.length l'.length), d) := by
      rw [select, hfound', hguarded, fallback?_eq_some hm' hl', Selection.renumber, moved_self]
      rfl
    exact resolve_renumber htoken houter hs hs'
  · have hs : m.select f = .ok (s.renumber (skip l.length), body) := by
      rw [select, hfound, hguarded]
      rfl
    have hs' : m'.select f =
        .ok ((s.renumber (skip l.length)).renumber (moved l.length l'.length), body) := by
      rw [select, hfound', hguarded, renumber_moved_selection]
      rfl
    exact resolve_renumber htoken houter hs hs'

/-! ## The answer of a manifest -/

/-- A manifest answers by the first guard that is not false. If this fails, it is for a release that
is not known, and so does the manifest, whatever comes after it; if it is true, its clause is
selected. If every guard is false, the clause without a guard is selected, wherever it stands, and
if there is none, nothing matches. To move that clause among the others makes another manifest,
which answers the same on every host, with the numbers that clauses have in it. -/
theorem resolve_by_first_admitted {text : String} {outer : Declarations} {clauses : List Clause}
    {m : Manifest} (hm : build text outer clauses = .ok m) :
    (∀ f l g d r, m.clauses = l ++ .guarded g d :: r → Refuted f l →
      (∀ e, g.evaluate f = .error e → ∃ release, e = .unknownRelease release ∧
        m.resolve f = .error ⟨m.token, .unknownRelease l.length release⟩) ∧
      (g.evaluate f = .ok true →
        m.select f = .ok (.guarded l.length g.render, d) ∧
          ∀ cask, m.resolve f = .ok cask → cask.selected = .guarded l.length g.render)) ∧
    (∀ f, Refuted f m.clauses →
      (∀ l d r, m.clauses = l ++ .fallback d :: r →
        m.select f = .ok (.fallback l.length, d) ∧
          ∀ cask, m.resolve f = .ok cask → cask.selected = .fallback l.length) ∧
      ((∀ d, Clause.fallback d ∉ m.clauses) →
        m.resolve f = .error ⟨m.token, .noMatchingVersion f⟩)) ∧
    ∀ l d r l' r', m.clauses = l ++ .fallback d :: r → l ++ r = l' ++ r' →
      ∃ m' σ, build text outer (l' ++ .fallback d :: r') = .ok m' ∧
        (∀ i, m'.clauses[σ i]? = m.clauses[i]?) ∧
        ∀ f, m'.resolve f = ((m.resolve f).map (·.renumber σ)).mapError (·.renumber σ) := by
  obtain ⟨hacceptable, rfl⟩ := build_eq_ok_iff.1 hm
  refine ⟨?_, ?_, ?_⟩
  · rintro f l g d r hclauses hl
    refine ⟨?_, ?_⟩
    · intro e he
      have hmem : Clause.guarded g d ∈ l ++ .guarded g d :: r := by simp
      obtain ⟨release, rfl⟩ := hacceptable.exists_unknownRelease (hclauses ▸ hmem) he
      exact ⟨release, rfl, resolve_of_select_eq_error (select_of_failed hclauses hl he)⟩
    · intro hg
      have hs := select_of_admitted hclauses hl hg
      exact ⟨hs, fun cask hcask => ((resolve_eq_ok_iff hs).1 hcask).2.1⟩
  · intro f hrefuted
    refine ⟨?_, ?_⟩
    · intro l d r hclauses
      have hone : (l ++ .fallback d :: r).countP Clause.isFallback ≤ 1 :=
        hclauses ▸ hacceptable.one_fallback
      have hs := select_of_refuted hclauses (fallback_notMem hone) hrefuted
      exact ⟨hs, fun cask hcask => ((resolve_eq_ok_iff hs).1 hcask).2.1⟩
    · intro hguarded
      exact resolve_of_select_eq_error (select_of_refuted_of_guarded hguarded hrefuted)
  · rintro l d r l' r' rfl hsame
    have hp : (l ++ .fallback d :: r).Perm (l' ++ .fallback d :: r') := by
      refine List.perm_middle.trans ?_
      rw [hsame]
      exact List.perm_middle.symm
    have hacceptable' := hacceptable.of_perm hp
    exact ⟨_, moved l.length l'.length, build_eq_ok_iff.2 ⟨hacceptable', rfl⟩,
      getElem?_moved hsame _,
      resolve_move_fallback rfl rfl rfl rfl (fallback_notMem hacceptable.one_fallback)
        (fallback_notMem hacceptable'.one_fallback) hsame⟩

/-- Declares a version, and that an installer is not to be checked. -/
def unchecked (version : String) : Declarations :=
  { Declarations.empty with version := some ⟨version⟩, checksum := some .noCheck }

/-- A clause for a release that is not known. -/
def onRhapsody : Clause :=
  .guarded (.all [.capability .arm, .release .ge "rhapsody"]) (unchecked "1.5")

/-- A cask with a clause for a release that is not known after the one without a guard. -/
def future : Manifest where
  token := ⟨"future"⟩
  outer := .empty
  clauses :=
    [.guarded (.release .ge "lion") (unchecked "2.0"), .fallback (unchecked "1.0"), onRhapsody]

/-- On lion the first clause is selected, on an old processor the one without a guard, and elsewhere
the last one fails; it does so by its new number when the clause without a guard comes last. -/
theorem resolve_by_first_admitted_future :
    build " Future" .empty future.clauses = .ok future ∧
    future.select ⟨.lion, .arm, .bits64⟩ =
      .ok (.guarded 0 "MacOS.release >= :lion", unchecked "2.0") ∧
    future.select ⟨.tiger, .powerPc, .bits32⟩ = .ok (.fallback 1, unchecked "1.0") ∧
    future.resolve ⟨.tiger, .arm, .bits64⟩ = .error ⟨⟨"future"⟩, .unknownRelease 2 "rhapsody"⟩ ∧
    ∃ (m : Manifest) (σ : Nat → Nat),
      build " Future" .empty
        [.guarded (.release .ge "lion") (unchecked "2.0"), onRhapsody,
          .fallback (unchecked "1.0")] = .ok m ∧
      m.clauses[σ 2]? = some onRhapsody ∧
      m.resolve ⟨.tiger, .arm, .bits64⟩ =
        .error ⟨⟨"future"⟩, .unknownRelease (σ 2) "rhapsody"⟩ := by
  have hm : build " Future" .empty future.clauses = .ok future := by rfl
  have hlion : Guard.evaluate ⟨.lion, .arm, .bits64⟩ (.release .ge "lion") = .ok true := by decide
  have hfails : Guard.evaluate ⟨.tiger, .arm, .bits64⟩
      (.all [.capability .arm, .release .ge "rhapsody"]) =
        .error (.unknownRelease "rhapsody") := by decide
  have hrefuted : Refuted ⟨.tiger, .powerPc, .bits32⟩ future.clauses := by
    simp only [Refuted, future, onRhapsody, List.mem_cons, Clause.guarded.injEq]
    rintro g d (⟨rfl, -⟩ | h | ⟨rfl, -⟩ | h)
    · decide
    · cases h
    · decide
    · cases h
  have hbefore : Refuted ⟨.tiger, .arm, .bits64⟩
      [.guarded (.release .ge "lion") (unchecked "2.0"), .fallback (unchecked "1.0")] := by
    simp only [Refuted, List.mem_cons, Clause.guarded.injEq]
    rintro g d (⟨rfl, -⟩ | h | h)
    · decide
    · cases h
    · cases h
  obtain ⟨hreached, hnone, hmoved⟩ := resolve_by_first_admitted hm
  have hrhapsody : future.resolve ⟨.tiger, .arm, .bits64⟩ =
      .error ⟨⟨"future"⟩, .unknownRelease 2 "rhapsody"⟩ := by
    obtain ⟨release, he, hresolve⟩ := (hreached _ _ _ _ [] rfl hbefore).1 _ hfails
    obtain rfl : "rhapsody" = release := by simpa using he
    exact hresolve
  refine ⟨hm, ((hreached _ [] _ _ _ rfl (by simp [Refuted])).2 hlion).1,
    ((hnone _ hrefuted).1 [_] _ [_] rfl).1, hrhapsody, ?_⟩
  obtain ⟨m, σ, hbuild, hplaces, hresolve⟩ := hmoved [_] _ [onRhapsody] [_, onRhapsody] [] rfl rfl
  refine ⟨m, σ, hbuild, hplaces 2, ?_⟩
  rw [hresolve, hrhapsody]
  rfl

end Manifest

end CaskAudit
