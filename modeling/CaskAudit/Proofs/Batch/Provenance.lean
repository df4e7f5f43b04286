import CaskAudit.Proofs.Batch.Progress
import CaskAudit.Proofs.Catalog.Histories

/-!
# Where the results of a batch come from

Every result of a batch is that of a manifest of the catalog (`Manifest.Yields`): the error with
which the manifest is refused, or the outcome that the verification of its cask comes to under some
answers. `Traced` says so of the results, and of what is still to become one: the running tasks are
what is left of verifications after some answers. No move breaks this (`Traced.move`), so a finished
batch gives one such result for each manifest, in the order of the catalog (`forall₂_inOrder`).
-/

namespace CaskAudit

open Relation

/-- A process comes to a result under some answers. -/
def Process.ComesTo {α : Type} (p : Process α) (a : α) : Prop := ReflTransGen Answered p (.done a)

/-- What a manifest may come to: it is refused, or the cask in it is verified. -/
inductive Manifest.Yields (o : FetchOptions) (f : Facts) (m : Manifest) : CheckResult → Prop
  | refused {e : ResolveError} (hcask : m.resolve f = .error e) : Yields o f m (.error e)
  | verified {cask : ResolvedCask} {outcome : Outcome} (hcask : m.resolve f = .ok cask)
      (houtcome : (verify o cask.appcast).ComesTo outcome) : Yields o f m (.ok ⟨cask, outcome⟩)

namespace Batch

variable {o : FetchOptions} {f : Facts} {limit : Nat} {c : Catalog} {b b' : Batch}

/-- What is in a list without one of its members is in the list. -/
lemma mem_of_mem_without {α : Type} {l before after : List α} {a x : α}
    (hl : l = before ++ a :: after) (hx : x ∈ before ++ after) : x ∈ l := by
  rw [hl]
  exact List.perm_middle.mem_iff.2 (List.mem_cons_of_mem a hx)

/-- What a batch holds can be traced to the manifests of a catalog. -/
structure Traced (o : FetchOptions) (f : Facts) (c : Catalog) (b : Batch) : Prop where
  pending : ∀ m ∈ b.pending, m ∈ c.manifests
  running : ∀ t ∈ b.running, ∃ m ∈ c.manifests, m.resolve f = .ok t.cask ∧
    ReflTransGen Process.Answered (verify o t.cask.appcast) t.rest
  results : ∀ p ∈ b.results, ∃ m ∈ c.manifests, p.1 = m.token ∧ m.Yields o f p.2

/-- At the beginning there are the manifests and nothing else. -/
lemma traced_ofCatalog (o : FetchOptions) (f : Facts) (c : Catalog) :
    Traced o f c (ofCatalog c) where
  pending _ hm := hm
  running _ ht := nomatch ht
  results _ hp := nomatch hp

/-- No move breaks a trace. -/
lemma Traced.move (h : Traced o f c b) (hmove : Move o f limit b b') : Traced o f c b' := by
  cases hmove with
  | @refuse before after m e hpending hroom hcask =>
    have hm : m ∈ c.manifests := h.pending m (hpending ▸ List.mem_append_cons_self)
    refine ⟨fun n hn => h.pending n (mem_of_mem_without hpending hn), h.running, ?_⟩
    intro p hp
    rcases List.mem_cons.1 hp with rfl | hp
    · exact ⟨m, hm, rfl, .refused hcask⟩
    · exact h.results p hp
  | @launch before after m cask time hpending hroom hcask =>
    have hm : m ∈ c.manifests := h.pending m (hpending ▸ List.mem_append_cons_self)
    refine ⟨fun n hn => h.pending n (mem_of_mem_without hpending hn), ?_, h.results⟩
    intro t ht
    rcases List.mem_append.1 ht with ht | ht
    · exact h.running t ht
    · obtain rfl := List.mem_singleton.1 ht
      exact ⟨m, hm, hcask, .refl⟩
  | @proceed before after t rest time hrunning hanswer =>
    obtain ⟨m, hm, hcask, hanswers⟩ := h.running t (hrunning ▸ List.mem_append_cons_self)
    refine ⟨h.pending, ?_, h.results⟩
    intro u hu
    rcases List.mem_append.1 hu with hu | hu
    · exact h.running u (mem_of_mem_without hrunning hu)
    · obtain rfl := List.mem_singleton.1 hu
      exact ⟨m, hm, hcask, hanswers.tail hanswer⟩
  | @close before after t outcome hrunning hrest =>
    obtain ⟨m, hm, hcask, hanswers⟩ := h.running t (hrunning ▸ List.mem_append_cons_self)
    refine ⟨h.pending, fun u hu => h.running u (mem_of_mem_without hrunning hu), ?_⟩
    intro p hp
    rcases List.mem_cons.1 hp with rfl | hp
    · rw [hrest] at hanswers
      exact ⟨m, hm, token_of_resolve hcask, .verified hcask hanswers⟩
    · exact h.results p hp

/-- What a batch holds can be traced at every moment of a run. -/
lemma traced_of_moves (h : ReflTransGen (Move o f limit) (ofCatalog c) b) : Traced o f c b := by
  induction h with
  | refl => exact traced_ofCatalog o f c
  | tail _ hmove ih => exact ih.move hmove

/-- A batch that has been run gives for each manifest what the manifest yields, in the order of the
catalog. -/
lemma forall₂_inOrder (o : FetchOptions) (f : Facts) (concurrency : Nat) (hc : c.Ordered)
    (w : World) :
    List.Forall₂ (fun m p => p.1 = m.token ∧ m.Yields o f p.2) c.manifests
      ((run o f concurrency c w).2.inOrder c) := by
  obtain ⟨hmoves, hfinished⟩ := moves_run o f concurrency c w
  obtain ⟨hkeys, hmem⟩ := (telling_of_moves hc hmoves).1.inOrder hfinished
  have hresults : ∀ p ∈ (run o f concurrency c w).2.inOrder c,
      ∃ m ∈ c.manifests, p.1 = m.token ∧ m.Yields o f p.2 :=
    fun p hp => (traced_of_moves hmoves).results p (hmem p hp)
  have htokens : List.Forall₂ (· = ·) (c.manifests.map Manifest.token)
      (((run o f concurrency c w).2.inOrder c).map Prod.fst) := by
    rw [hkeys]
    exact List.forall₂_refl _
  rw [List.forall₂_map_left_iff, List.forall₂_map_right_iff] at htokens
  -- Each result is that of the manifest in its place, since no other one has the token.
  have hmanifests := (List.forall₂_and_left _ _).2 ⟨fun m hm => hm, htokens⟩
  refine ((List.forall₂_and_left _ _).2 ⟨hresults, hmanifests.flip⟩).flip.imp ?_
  rintro m p ⟨⟨n, hn, hpn, hyields⟩, hm, htoken⟩
  obtain rfl : m = n := hc.eq_of_token_eq hm hn (htoken.trans hpn)
  exact ⟨hpn, hyields⟩

end Batch

end CaskAudit
