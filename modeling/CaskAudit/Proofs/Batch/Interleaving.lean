import CaskAudit.Proofs.Batch.Moves
import CaskAudit.Proofs.Catalog.Order
import CaskAudit.Proofs.Manifest.Description
import Mathlib.Data.List.Nodup
import Mathlib.Logic.Function.Basic

/-!
# Checks that interleave

The checks of a catalog may be begun in any order, go on in any order, one request at a time, and
come to their ends in any order, as long as there is room for them. `Interleaving.Step` has one case
for each way in which a batch can go on; it leaves open which manifest is taken up next, which task
goes on, and when.

What a check is answered does not depend on the requests of the others, so each check meets the
conditions of its token. Then no step changes what has been promised for any token: the result it
has, the result that its task will come to, or the one that its manifest will have when it is
checked alone (`Sound.step`). A step is a move of its batch (`Step.move`), so every run comes to an
end, and then the promises are the results.
-/

namespace CaskAudit

/-- What the check of a manifest comes to by itself. -/
def checkAlone (o : FetchOptions) (f : Facts) (c : Conditions) (m : Manifest) : CheckResult :=
  match m.resolve f with
  | .error e => .error e
  | .ok cask => .ok ⟨cask, ((verify o cask.appcast).runIn c []).1⟩

/-- The cask of a manifest has its token. -/
lemma token_of_resolve {m : Manifest} {f : Facts} {cask : ResolvedCask}
    (h : m.resolve f = .ok cask) : cask.token = m.token := by
  cases hs : m.select f with
  | error fault =>
    rw [Manifest.resolve_of_select_eq_error hs] at h
    cases h
  | ok selected => exact ((Manifest.resolve_eq_ok_iff hs).1 h).1

/-- A batch and what each check in it has begun. -/
structure Interleaving where
  batch : Batch
  begun : Token → List Activity

namespace Interleaving

/-- A catalog of which nothing has been begun. -/
def ofCatalog (c : Catalog) : Interleaving := ⟨.ofCatalog c, fun _ => []⟩

/-- Nothing is left to begin and nothing is under way. -/
def Finished (s : Interleaving) : Prop := s.batch.pending = [] ∧ s.batch.running = []

/-- One step with room for a number of tasks, where each check meets the conditions of its token. -/
inductive Step (o : FetchOptions) (f : Facts) (serve : Token → Conditions) (limit : Nat) :
    Interleaving → Interleaving → Prop
  /-- A manifest is taken up that cannot be resolved. -/
  | refuse {s : Interleaving} {before after : List Manifest} {m : Manifest} {e : ResolveError}
      (hpending : s.batch.pending = before ++ m :: after)
      (hroom : s.batch.running.length < limit) (hcask : m.resolve f = .error e) :
      Step o f serve limit s
        ⟨({ s.batch with pending := before ++ after }.noteChecking m.token).noteFailure m.token e,
          s.begun⟩
  /-- A manifest is taken up and its verification is under way. -/
  | launch {s : Interleaving} {before after : List Manifest} {m : Manifest} {cask : ResolvedCask}
      (time : Nat) (hpending : s.batch.pending = before ++ m :: after)
      (hroom : s.batch.running.length < limit) (hcask : m.resolve f = .ok cask) :
      Step o f serve limit s
        ⟨({ s.batch with pending := before ++ after }.noteChecking m.token).suspend cask time
          (verify o cask.appcast), s.begun⟩
  /-- A task goes on with one request. -/
  | proceed {s : Interleaving} {before after : List Batch.Task} {t : Batch.Task} (time : Nat)
      (hrunning : s.batch.running = before ++ t :: after) (hrest : ∀ a, t.rest ≠ .done a) :
      Step o f serve limit s
        ⟨{ s.batch with running := before ++ after }.suspend t.cask time
            (t.rest.goOn (serve t.cask.token) (s.begun t.cask.token)).1,
          Function.update s.begun t.cask.token
            (t.rest.goOn (serve t.cask.token) (s.begun t.cask.token)).2⟩
  /-- A task has come to its outcome. -/
  | close {s : Interleaving} {before after : List Batch.Task} {t : Batch.Task} {outcome : Outcome}
      (hrunning : s.batch.running = before ++ t :: after) (hrest : t.rest = .done outcome) :
      Step o f serve limit s
        ⟨{ s.batch with running := before ++ after }.noteOutcome t.cask outcome, s.begun⟩

variable {o : FetchOptions} {f : Facts} {serve : Token → Conditions} {limit : Nat}
  {c : Catalog} {s s' : Interleaving}

/-- A step is a move of the batch, in which the conditions answer. -/
lemma Step.move (h : Step o f serve limit s s') : Batch.Move o f limit s.batch s'.batch := by
  cases h with
  | refuse hpending hroom hcask => exact .refuse hpending hroom hcask
  | launch time hpending hroom hcask => exact .launch time hpending hroom hcask
  | proceed time hrunning hrest =>
    exact .proceed time hrunning (Process.answered_goOn hrest _ _)
  | close hrunning hrest => exact .close hrunning hrest

/-- While there is something to do, a step can be taken: whatever the batch can do next, it can do
under any conditions. -/
lemma exists_step (hlimit : 0 < limit) (h : ¬s.Finished) : ∃ s', Step o f serve limit s s' := by
  obtain ⟨b', hmove⟩ : ∃ b', Batch.Move o f limit s.batch b' := Batch.exists_move hlimit h
  cases hmove with
  | refuse hpending hroom hcask => exact ⟨_, .refuse hpending hroom hcask⟩
  | launch time hpending hroom hcask => exact ⟨_, .launch time hpending hroom hcask⟩
  | proceed time hrunning hanswer => exact ⟨_, .proceed time hrunning hanswer.ne_done⟩
  | close hrunning hrest => exact ⟨_, .close hrunning hrest⟩

/-- Every run from a catalog comes to an end, since its batch does. -/
lemma acc_ofCatalog (o : FetchOptions) (f : Facts) (serve : Token → Conditions) (limit : Nat)
    (c : Catalog) : Acc (fun s' s => Step o f serve limit s s') (ofCatalog c) := by
  have hbatch : Acc (fun b' b => Batch.Move o f limit b b') (ofCatalog c).batch :=
    (Batch.leftWithin_ofCatalog o c).acc
  exact Subrelation.accessible (fun hstep => hstep.move) (InvImage.accessible batch hbatch)

/-! ## Promises -/

/-- The entry of a manifest that is checked alone. -/
def entry (o : FetchOptions) (f : Facts) (serve : Token → Conditions) (m : Manifest) :
    Token × CheckResult :=
  (m.token, checkAlone o f (serve m.token) m)

/-- The entry that a task comes to if it is left to itself. -/
def promise (serve : Token → Conditions) (begun : Token → List Activity) (t : Batch.Task) :
    Token × CheckResult :=
  (t.cask.token, .ok ⟨t.cask, (t.rest.runIn (serve t.cask.token) (begun t.cask.token)).1⟩)

/-- The entries that there are and those that are to come. -/
def promises (o : FetchOptions) (f : Facts) (serve : Token → Conditions) (s : Interleaving) :
    List (Token × CheckResult) :=
  s.batch.results ++ (s.batch.running.map (promise serve s.begun) ++
    s.batch.pending.map (entry o f serve))

variable {b : Batch} {begun : Token → List Activity} {before after : List Batch.Task}
  {t : Batch.Task}

section

variable (o f serve begun)

/-- A running task is one of those with promises. -/
lemma promises_of_running (h : b.running = before ++ t :: after) :
    (promises o f serve ⟨b, begun⟩).Perm (promise serve begun t ::
      promises o f serve ⟨{ b with running := before ++ after }, begun⟩) :=
  Batch.perm_map_of_split h (promise serve begun) b.results (b.pending.map (entry o f serve))

/-- A manifest that has not been begun is one of those with promises. -/
lemma promises_of_pending {before after : List Manifest} {m : Manifest}
    (h : b.pending = before ++ m :: after) :
    (promises o f serve ⟨b, begun⟩).Perm (entry o f serve m ::
      promises o f serve ⟨{ b with pending := before ++ after }, begun⟩) := by
  have hperm := Batch.perm_map_of_split h (entry o f serve)
    (b.results ++ b.running.map (promise serve begun)) []
  simpa only [promises, List.append_assoc, List.append_nil] using hperm

/-- A running task has a promise. -/
lemma mem_promises_of_running {u : Batch.Task} (hu : u ∈ b.running) :
    promise serve begun u ∈ promises o f serve ⟨b, begun⟩ :=
  List.mem_append_right _ (List.mem_append_left _ (List.mem_map_of_mem hu))

/-- A manifest that has not been begun has a promise. -/
lemma mem_promises_of_pending {m : Manifest} (hm : m ∈ b.pending) :
    entry o f serve m ∈ promises o f serve ⟨b, begun⟩ :=
  List.mem_append_right _ (List.mem_append_right _ (List.mem_map_of_mem hm))

/-- A task that is put behind the others is one of those with promises. -/
lemma promises_suspend (cask : ResolvedCask) (time : Nat) (p : Process Outcome) :
    (promises o f serve ⟨b.suspend cask time p, begun⟩).Perm
      (promise serve begun ⟨cask, time, p⟩ :: promises o f serve ⟨b, begun⟩) := by
  have h : (b.suspend cask time p).running = b.running ++ ⟨cask, time, p⟩ :: [] := rfl
  have hperm : (promises o f serve ⟨b.suspend cask time p, begun⟩).Perm _ :=
    promises_of_running o f serve begun h
  rw [List.append_nil] at hperm
  exact hperm

end

/-- A running task keeps its promise when another check begins something. -/
lemma promises_update {token : Token} {activities : List Activity}
    (h : ∀ t ∈ b.running, t.cask.token ≠ token) :
    promises o f serve ⟨b, Function.update begun token activities⟩ =
      promises o f serve ⟨b, begun⟩ := by
  have hrunning : b.running.map (promise serve (Function.update begun token activities)) =
      b.running.map (promise serve begun) := by
    refine List.map_congr_left ?_
    intro t ht
    rw [promise, Function.update_of_ne (h t ht), promise]
  rw [promises, hrunning, promises]

/-- A task that goes on with one request keeps its promise. -/
lemma promise_goOn (serve : Token → Conditions) (begun : Token → List Activity)
    (t : Batch.Task) (time : Nat) :
    promise serve (Function.update begun t.cask.token
        (t.rest.goOn (serve t.cask.token) (begun t.cask.token)).2)
      ⟨t.cask, time, (t.rest.goOn (serve t.cask.token) (begun t.cask.token)).1⟩ =
    promise serve begun t := by
  simp only [promise, Function.update_self, Process.runIn_goOn]

/-- The task of a manifest promises what the manifest comes to alone. -/
lemma promise_launch {m : Manifest} {cask : ResolvedCask} (time : Nat)
    (hcask : m.resolve f = .ok cask) (hfresh : begun m.token = []) :
    promise serve begun ⟨cask, time, verify o cask.appcast⟩ = entry o f serve m := by
  have htoken := token_of_resolve hcask
  simp only [promise, entry, checkAlone, hcask, htoken, hfresh]

/-! ## What holds at every moment -/

/-- What holds of a run at every moment. -/
structure Sound (o : FetchOptions) (f : Facts) (serve : Token → Conditions) (c : Catalog)
    (s : Interleaving) : Prop where
  /-- Every manifest of the catalog has the entry promised that it has alone. -/
  promised : (promises o f serve s).Perm (c.manifests.map (entry o f serve))
  /-- A check that has not been taken up has begun nothing. -/
  fresh : ∀ m ∈ s.batch.pending, s.begun m.token = []

/-- Everything is promised at the beginning. -/
lemma sound_ofCatalog (c : Catalog) : Sound o f serve c (ofCatalog c) where
  promised := .refl _
  fresh := fun _ _ => rfl

/-- The manifests beside the one that is taken up have begun nothing. -/
lemma Sound.fresh_of_pending (h : Sound o f serve c s) {before after : List Manifest} {m : Manifest}
    (hpending : s.batch.pending = before ++ m :: after) :
    s.begun m.token = [] ∧ ∀ n ∈ before ++ after, s.begun n.token = [] := by
  have hfresh := h.fresh
  rw [hpending] at hfresh
  refine ⟨hfresh m (List.mem_append_right _ List.mem_cons_self), ?_⟩
  intro n hn
  exact hfresh n (((List.sublist_cons_self m after).append_left before).subset hn)

/-- The tokens with promises are those of the catalog. -/
lemma Sound.tokens (h : Sound o f serve c s) :
    ((promises o f serve s).map Prod.fst).Perm (c.manifests.map Manifest.token) := by
  have htokens := h.promised.map Prod.fst
  rw [List.map_map] at htokens
  exact htokens

/-- A running task has its token for itself. -/
lemma Sound.token_ne (hc : c.Ordered) (h : Sound o f serve c s)
    (hrunning : s.batch.running = before ++ t :: after) :
    (∀ u ∈ before ++ after, u.cask.token ≠ t.cask.token) ∧
      ∀ m ∈ s.batch.pending, m.token ≠ t.cask.token := by
  have hnodup : ((promises o f serve s).map Prod.fst).Nodup :=
    h.tokens.nodup_iff.2 hc.nodup_tokens
  have hsplit := (promises_of_running o f serve s.begun hrunning).map Prod.fst
  obtain ⟨hnot, -⟩ := List.nodup_cons.1 (hsplit.nodup_iff.1 hnodup)
  refine ⟨?_, ?_⟩
  · intro u hu heq
    have hmem := mem_promises_of_running o f serve s.begun
      (b := { s.batch with running := before ++ after }) hu
    exact hnot (List.mem_map.2 ⟨_, hmem, heq⟩)
  · intro m hm heq
    have hmem := mem_promises_of_pending o f serve s.begun
      (b := { s.batch with running := before ++ after }) hm
    exact hnot (List.mem_map.2 ⟨_, hmem, heq⟩)

/-- No step changes a promise, and none is lost or made twice. -/
lemma Sound.step (hc : c.Ordered) (h : Sound o f serve c s) (hstep : Step o f serve limit s s') :
    Sound o f serve c s' := by
  cases hstep with
  | @refuse before after m e hpending hroom hcask =>
    have hentry : entry o f serve m = (m.token, .error e) := by
      simp only [entry, checkAlone, hcask]
    have hperm := promises_of_pending o f serve s.begun hpending
    rw [hentry] at hperm
    exact ⟨hperm.symm.trans h.promised, (h.fresh_of_pending hpending).2⟩
  | @launch before after m cask time hpending hroom hcask =>
    obtain ⟨hm, hothers⟩ := h.fresh_of_pending hpending
    have hperm := promises_of_pending o f serve s.begun hpending
    rw [← promise_launch time hcask hm] at hperm
    exact ⟨(promises_suspend o f serve s.begun cask time _).trans
      (hperm.symm.trans h.promised), hothers⟩
  | @proceed before after t time hrunning hrest =>
    obtain ⟨hothers, hpending⟩ := h.token_ne hc hrunning
    have hperm := promises_of_running o f serve s.begun hrunning
    rw [← promise_goOn serve s.begun t time] at hperm
    refine ⟨?_, ?_⟩
    · refine (promises_suspend o f serve _ t.cask time _).trans ?_
      rw [promises_update hothers]
      exact hperm.symm.trans h.promised
    · intro n hn
      rw [← h.fresh n hn]
      exact Function.update_of_ne (hpending n hn) _ _
  | @close before after t outcome hrunning hrest =>
    have hpromise : promise serve s.begun t = (t.cask.token, .ok ⟨t.cask, outcome⟩) := by
      rw [promise, hrest, Process.runIn_done]
    have hperm := promises_of_running o f serve s.begun hrunning
    rw [hpromise] at hperm
    exact ⟨hperm.symm.trans h.promised, h.fresh⟩

/-- What holds at the beginning holds at every moment of a run. -/
lemma sound_of_reachable (hc : c.Ordered)
    (h : Relation.ReflTransGen (Step o f serve limit) (ofCatalog c) s) : Sound o f serve c s := by
  induction h with
  | refl => exact sound_ofCatalog c
  | tail _ hstep ih => exact ih.step hc hstep

/-! ## The end of a run -/

/-- A finished batch has the results that were promised. -/
lemma Sound.results (h : Sound o f serve c s) (hs : s.Finished) :
    s.batch.results.Perm (c.manifests.map (entry o f serve)) := by
  have hleft : promises o f serve s = s.batch.results := by
    simp only [promises, hs.1, hs.2, List.map_nil, List.append_nil]
  exact hleft ▸ h.promised

/-- A finished batch has one result for each token of the catalog. -/
lemma Sound.keys (h : Sound o f serve c s) (hs : s.Finished) :
    (s.batch.results.map Prod.fst).Perm (c.manifests.map Manifest.token) := by
  have hkeys := (h.results hs).map Prod.fst
  rw [List.map_map] at hkeys
  exact hkeys

/-- A finished batch has for each manifest the result that it has alone. -/
lemma Sound.resultOf? (hc : c.Ordered) (h : Sound o f serve c s) (hs : s.Finished) {m : Manifest}
    (hm : m ∈ c.manifests) :
    s.batch.resultOf? m.token = some (checkAlone o f (serve m.token) m) := by
  have hmem : entry o f serve m ∈ s.batch.results :=
    (h.results hs).mem_iff.2 (List.mem_map_of_mem hm)
  obtain ⟨newer, older, hsplit⟩ := List.append_of_mem hmem
  have hnodup : (s.batch.results.map Prod.fst).Nodup :=
    (h.keys hs).nodup_iff.2 hc.nodup_tokens
  rw [hsplit, List.map_append, List.map_cons] at hnodup
  refine List.lookup_eq_some_iff.2 ⟨newer, older, hsplit, ?_⟩
  intro p hp
  have hne : m.token ≠ p.1 := by
    intro heq
    refine List.disjoint_of_nodup_append hnodup (List.mem_map_of_mem hp) ?_
    rw [← heq]
    exact List.mem_cons_self
  simpa using hne

/-- The results of a finished batch, in the order of the catalog, are those of each manifest
alone. -/
lemma Sound.inOrder (hc : c.Ordered) (h : Sound o f serve c s) (hs : s.Finished) :
    s.batch.inOrder c = c.manifests.map (entry o f serve) := by
  have hentry : ∀ m ∈ c.manifests,
      (s.batch.resultOf? m.token).map (m.token, ·) = some (entry o f serve m) := by
    intro m hm
    rw [h.resultOf? hc hs hm, Option.map_some, entry]
  rw [Batch.inOrder, List.filterMap_congr hentry, List.filterMap_eq_map']

end Interleaving

end CaskAudit
