import CaskAudit.Proofs.Batch.Interleaving
import CaskAudit.Proofs.Batch.Schedule
import CaskAudit.Proofs.Fetch.Worlds

/-!
# Independence of the order of checks

In a steady world, where every URL is always answered alike, the steps in which checks interleave
follow the schedule by the clock (`followsSchedule_step`). So what does not depend on the order of
the checks holds of `Batch.run`, and `checks_independent_of_order` puts together what holds of all
runs.
-/

namespace CaskAudit

open Relation

namespace Interleaving

variable {answer : String → Response}

/-- Steps under the same answers follow the schedule in steady worlds. -/
lemma followsSchedule_step (o : FetchOptions) (f : Facts) (answer : String → Response)
    (limit : Nat) :
    Batch.FollowsSchedule o f limit (Step o f (fun _ => .always answer) limit) batch
      (World.Steady answer) where
  move h := h.move
  refuse hpending hroom hcask := by
    have hsplit : _ = [] ++ _ := hpending
    exact ⟨_, .refuse hsplit hroom hcask, rfl⟩
  launch time hpending hroom hcask := by
    have hsplit : _ = [] ++ _ := hpending
    exact ⟨_, .launch time hsplit hroom hcask, rfl⟩
  fetch := by
    intro s w before after t url timeoutMs next time hw hrunning hrest
    obtain ⟨hresult, hw'⟩ := hw.beginFetch url timeoutMs (s.begun t.cask.token)
    refine ⟨hw', _, .proceed time hrunning ?_, ?_⟩
    · rw [hrest]
      exact fun a h => nomatch h
    · rw [hrest, hresult]
      rfl
  wait := by
    intro s w before after t ms next time hw hrunning hrest
    have hcut := hw.beginWait ms (s.begun t.cask.token)
    refine ⟨_, .proceed time hrunning ?_, ?_⟩
    · rw [hrest]
      exact fun a h => nomatch h
    · rw [hrest, hcut]
      rfl
  close hrunning hrest := ⟨_, .close hrunning hrest, rfl⟩
  later hw time := hw.later time

/-- Whatever the number of checks at once and in whatever order they are begun, go on and come to
their ends, the checks of a catalog, which is ordered as every one that is built, do not stop before
all are finished, and they are finished after some steps. Then there is one result for each token of
the catalog and no other, which is what its manifest comes to when it is resolved and verified
alone, be it an error or not; and the outcomes are the same with the casks left out. The schedule by
the clock is one such run where every URL is always answered alike. -/
theorem checks_independent_of_order (o : FetchOptions) (f : Facts) (c : Catalog) (hc : c.Ordered)
    (concurrency : Nat) :
    (∀ serve : Token → Conditions,
      Acc (fun s' s => Step o f serve (max 1 concurrency) s s') (ofCatalog c) ∧
      ∀ s, ReflTransGen (Step o f serve (max 1 concurrency)) (ofCatalog c) s →
        (s.Finished ∨ ∃ s', Step o f serve (max 1 concurrency) s s') ∧
        (s.Finished →
          (s.batch.results.map Prod.fst).Perm (c.manifests.map Manifest.token) ∧
          s.batch.inOrder c =
            c.manifests.map (fun m => (m.token, checkAlone o f (serve m.token) m)) ∧
          s.batch.outcomesInOrder c = c.manifests.map (fun m =>
            (m.token, (checkAlone o f (serve m.token) m).map CheckedCask.outcome)))) ∧
    ∀ (answer : String → Response) (w : World), w.Steady answer →
      ∃ s, ReflTransGen (Step o f (fun _ => .always answer) (max 1 concurrency)) (ofCatalog c) s ∧
        s.Finished ∧ s.batch = (Batch.run o f concurrency c w).2 := by
  have hlimit : 0 < max 1 concurrency := Nat.le_max_left _ _
  refine ⟨?_, ?_⟩
  · intro serve
    refine ⟨acc_ofCatalog o f serve _ c, ?_⟩
    intro s hrun
    have hsound : Sound o f serve c s := sound_of_reachable hc hrun
    refine ⟨?_, ?_⟩
    · by_cases hfinished : s.Finished
      · exact .inl hfinished
      · exact .inr (exists_step hlimit hfinished)
    · intro hfinished
      have hinOrder := hsound.inOrder hc hfinished
      refine ⟨hsound.keys hfinished, hinOrder, ?_⟩
      rw [Batch.outcomesInOrder, hinOrder, List.map_map]
      rfl
  · intro answer w hw
    obtain ⟨s, hrun, hbatch, hfinished⟩ :=
      (followsSchedule_step o f answer _).exists_finished (s := ofCatalog c) hlimit hw rfl
    exact ⟨s, hrun, hfinished, hbatch⟩

/-- A manifest without a version, which no host can resolve. -/
def unversioned : Manifest := ⟨⟨"zeta"⟩, .empty, [.fallback .empty]⟩

/-- A manifest with a feed that was empty when it was recorded. -/
def withFeed : Manifest where
  token := ⟨"alpha"⟩
  outer := .empty
  clauses :=
    [.fallback
      { Declarations.empty with
        version := some ⟨"8"⟩
        checksum := some .noCheck
        appcast := some ⟨⟨"https://e/feed", [.literal "https://e/feed".toList]⟩,
          Checkpoint.fingerprint []⟩ }]

/-- A manifest that cannot be resolved leaves the entry of another as it is, where one check is
under way at a time. -/
theorem checks_independent_of_order_unversioned :
    let o : FetchOptions := ⟨.standard, 10⟩
    let f : Facts := .ofRelease .sierra
    let c := Catalog.collect [unversioned, withFeed]
    let answer := fun _ : String => (⟨5, .body []⟩ : Response)
    let w : World := ⟨0, none, [("https://e/feed", [⟨5, .body []⟩])], answer, []⟩
    (Batch.run o f 0 c w).2.inOrder c =
        [(withFeed.token, checkAlone o f (.always answer) withFeed),
          (unversioned.token, checkAlone o f (.always answer) unversioned)] ∧
      checkAlone o f (.always answer) unversioned =
        .error ⟨unversioned.token, .missingField 0 .version⟩ ∧
      (checkAlone o f (.always answer) withFeed).map CheckedCask.outcome =
        .ok (.unchanged (Checkpoint.fingerprint [])) := by
  intro o f c answer w
  have hmanifests : c.manifests = [withFeed, unversioned] := by rfl
  have hsteady : w.Steady answer := by
    refine ⟨rfl, ?_⟩
    intro url n
    by_cases hurl : "https://e/feed" = url
    · subst hurl
      rfl
    · rw [World.respond, World.scriptOf_cons_of_ne hurl]
      rfl
  obtain ⟨hruns, hclock⟩ := checks_independent_of_order o f c (Catalog.ordered_collect _) 0
  obtain ⟨s, hrun, hfinished, hs⟩ := hclock answer w hsteady
  obtain ⟨-, hinOrder, -⟩ := ((hruns _).2 s hrun).2 hfinished
  rw [hs, hmanifests] at hinOrder
  exact ⟨hinOrder, by rfl, by decide +kernel⟩

end Interleaving

end CaskAudit
