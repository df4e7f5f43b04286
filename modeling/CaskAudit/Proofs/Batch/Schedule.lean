import CaskAudit.Proofs.Batch.Moves

/-!
# The schedule by the clock

A batch in scripted surroundings goes on with the task whose time comes first, and for as long as no
time passes. What it does at once is a number of small steps, and `FollowsSchedule` says of which
kind these have to be: a relation follows the schedule if it has a step for each manifest that is
taken up, for each answer that the world gives and for each outcome. Then one step of the schedule
is a number of its steps (`FollowsSchedule.leads_of_step?`), and since each of these is a move of
the batch, the steps that a batch is given are enough for it to come to its end
(`FollowsSchedule.exists_finished`). Moves themselves follow the schedule in every world
(`moves_run`).
-/

namespace CaskAudit

namespace Batch

open Relation

variable {o : FetchOptions} {f : Facts} {limit n k : Nat} {w w' : World} {b : Batch}
  {before after : List Task} {t : Task} {cask : ResolvedCask}

/-! ## One request -/

/-- A verification that fetches goes on if the answer takes no time, and waits for it otherwise. -/
lemma advance_fetch (w : World) (b : Batch) (cask : ResolvedCask) (url : String) (timeoutMs : Nat)
    (next : FetchResult → Process Outcome) :
    advance w b cask (.fetch url timeoutMs next) =
      if (w.beginFetch url timeoutMs).1 = w.now then
        advance (w.beginFetch url timeoutMs).2.2 b cask (next (w.beginFetch url timeoutMs).2.1)
      else ((w.beginFetch url timeoutMs).2.2,
        b.suspend cask (w.beginFetch url timeoutMs).1 (next (w.beginFetch url timeoutMs).2.1)) := by
  rw [advance, World.runNow]
  by_cases hnow : (w.beginFetch url timeoutMs).1 = w.now
  · simp only [hnow, if_true]
    rfl
  · simp only [hnow, if_false]

/-- A verification that waits goes on if that takes no time. -/
lemma advance_wait (w : World) (b : Batch) (cask : ResolvedCask) (ms : Nat)
    (next : Bool → Process Outcome) :
    advance w b cask (.wait ms next) =
      if (w.beginWait ms).1 = w.now then advance w b cask (next (w.beginWait ms).2)
      else (w, b.suspend cask (w.beginWait ms).1 (next (w.beginWait ms).2)) := by
  rw [advance, World.runNow]
  by_cases hnow : (w.beginWait ms).1 = w.now
  · simp only [hnow, if_true]
    rfl
  · simp only [hnow, if_false]

/-! ## What comes next -/

/-- Some task goes on first, unless none is running. -/
lemma eq_nil_of_earliest? {tasks : List Task} (h : earliest? tasks = none) : tasks = [] := by
  cases tasks with
  | nil => rfl
  | cons u us =>
    rw [earliest?] at h
    split at h
    · cases h
    · split at h
      · cases h
      · cases h

/-- The task that goes on first is one of the running tasks. -/
lemma split_of_earliest? {tasks others : List Task} (h : earliest? tasks = some (t, others)) :
    ∃ before after, tasks = before ++ t :: after ∧ others = before ++ after := by
  induction tasks generalizing t others with
  | nil => cases h
  | cons u us ih =>
    rw [earliest?] at h
    cases hrest : earliest? us with
    | none =>
      simp only [hrest, Option.some.injEq, Prod.mk.injEq] at h
      obtain ⟨rfl, rfl⟩ := h
      exact ⟨[], [], by rw [eq_nil_of_earliest? hrest]; rfl, rfl⟩
    | some p =>
      obtain ⟨v, vs⟩ := p
      simp only [hrest] at h
      split at h
      · obtain ⟨rfl, rfl⟩ : u = t ∧ us = others := by simpa using h
        exact ⟨[], us, rfl, rfl⟩
      · obtain ⟨rfl, rfl⟩ : v = t ∧ u :: vs = others := by simpa using h
        obtain ⟨before, after, rfl, rfl⟩ := ih hrest
        exact ⟨u :: before, after, rfl, rfl⟩

/-- The schedule stops only when everything is finished. -/
lemma finished_of_step? (h : step? o f limit w b = none) : b.Finished := by
  unfold step? at h
  split at h
  · next hnone hpending => exact ⟨hpending, eq_nil_of_earliest? hnone⟩
  · cases h
  · cases h
  · split at h
    · cases h
    · cases h

/-- The schedule takes up the next manifest, if there is room, or lets a running task go on. -/
lemma step?_cases {p : World × Batch} (hlimit : 0 < limit) (h : step? o f limit w b = some p) :
    (∃ m ms, b.pending = m :: ms ∧ b.running.length < limit ∧
      p = launch o f w { b with pending := ms } m) ∨
    ∃ before t after, b.running = before ++ t :: after ∧ p = resume w b t (before ++ after) := by
  unfold step? at h
  split at h
  · cases h
  · next m ms hnone hpending =>
    have hroom : b.running.length < limit := by
      rw [eq_nil_of_earliest? hnone]
      exact hlimit
    exact .inl ⟨m, ms, hpending, hroom, (Option.some.inj h).symm⟩
  · next t others hsome hpending =>
    obtain ⟨before, after, hrunning, rfl⟩ := split_of_earliest? hsome
    exact .inr ⟨before, t, after, hrunning, (Option.some.inj h).symm⟩
  · next t others m ms hsome hpending =>
    split at h
    · next hroom => exact .inl ⟨m, ms, hpending, hroom.2, (Option.some.inj h).symm⟩
    · obtain ⟨before, after, hrunning, rfl⟩ := split_of_earliest? hsome
      exact .inr ⟨before, t, after, hrunning, (Option.some.inj h).symm⟩

/-! ## Relations that follow the schedule -/

/-- A relation on states that have batches follows the schedule in worlds of some kind: its steps
are moves of the batch, and it has one for whatever the schedule does next. -/
structure FollowsSchedule {σ : Type} (o : FetchOptions) (f : Facts) (limit : Nat)
    (R : σ → σ → Prop) (batch : σ → Batch) (Kind : World → Prop) : Prop where
  move {s s' : σ} (h : R s s') : Move o f limit (batch s) (batch s')
  refuse {s : σ} {m : Manifest} {ms : List Manifest} {e : ResolveError}
    (hpending : (batch s).pending = m :: ms) (hroom : (batch s).running.length < limit)
    (hcask : m.resolve f = .error e) :
    ∃ s', R s s' ∧ batch s' =
      ({ batch s with pending := ms }.noteChecking m.token).noteFailure m.token e
  launch {s : σ} {m : Manifest} {ms : List Manifest} {cask : ResolvedCask} (time : Nat)
    (hpending : (batch s).pending = m :: ms) (hroom : (batch s).running.length < limit)
    (hcask : m.resolve f = .ok cask) :
    ∃ s', R s s' ∧
      batch s' = ({ batch s with pending := ms }.noteChecking m.token).suspend cask time
      (verify o cask.appcast)
  fetch {s : σ} {w : World} {before after : List Task} {t : Task} {url : String} {timeoutMs : Nat}
    {next : FetchResult → Process Outcome} (time : Nat) (hw : Kind w)
    (hrunning : (batch s).running = before ++ t :: after)
    (hrest : t.rest = .fetch url timeoutMs next) :
    Kind (w.beginFetch url timeoutMs).2.2 ∧ ∃ s', R s s' ∧ batch s' =
      { batch s with running := before ++ after }.suspend t.cask time
        (next (w.beginFetch url timeoutMs).2.1)
  wait {s : σ} {w : World} {before after : List Task} {t : Task} {ms : Nat}
    {next : Bool → Process Outcome} (time : Nat) (hw : Kind w)
    (hrunning : (batch s).running = before ++ t :: after) (hrest : t.rest = .wait ms next) :
    ∃ s', R s s' ∧ batch s' =
      { batch s with running := before ++ after }.suspend t.cask time (next (w.beginWait ms).2)
  close {s : σ} {before after : List Task} {t : Task} {outcome : Outcome}
    (hrunning : (batch s).running = before ++ t :: after) (hrest : t.rest = .done outcome) :
    ∃ s', R s s' ∧ batch s' =
      { batch s with running := before ++ after }.noteOutcome t.cask outcome
  later {w : World} (hw : Kind w) (time : Nat) : Kind { w with now := time }

section Schedule

variable {σ : Type} {R : σ → σ → Prop} {batch : σ → Batch} {Kind : World → Prop} {s s' : σ}

/-- At least one step leads to a state with a batch, and the world that belongs to it is of the
kind. -/
def Leads (R : σ → σ → Prop) (batch : σ → Batch) (Kind : World → Prop) (s : σ)
    (p : World × Batch) : Prop :=
  (∃ s', TransGen R s s' ∧ batch s' = p.2) ∧ Kind p.1

/-- A step before the steps to a batch is one more. -/
lemma Leads.head {p : World × Batch} (hstep : R s s') (h : Leads R batch Kind s' p) :
    Leads R batch Kind s p := by
  obtain ⟨⟨s'', hrun, hbatch⟩, hkind⟩ := h
  exact ⟨⟨s'', .head hstep hrun, hbatch⟩, hkind⟩

/-- A task that is answered goes on by steps, if what comes after the answer does. -/
lemma leads_of_suspend {p : Process Outcome} {time : Nat} (hw : Kind w') (hstep : R s s')
    (hbatch : batch s' = b.suspend cask time p)
    (ih : ∀ before after : List Task, (batch s').running = before ++ ⟨cask, time, p⟩ :: after →
      Leads R batch Kind s'
        (advance w' { batch s' with running := before ++ after } cask p)) :
    Leads R batch Kind s
      (if time = w.now then advance w' b cask p else (w', b.suspend cask time p)) := by
  split
  · have hrunning : (batch s').running = b.running ++ ⟨cask, time, p⟩ :: [] := by
      rw [hbatch]
      rfl
    have hlast := ih b.running [] hrunning
    rw [hbatch, List.append_nil] at hlast
    exact hlast.head hstep
  · exact ⟨⟨s', .single hstep, hbatch⟩, hw⟩

namespace FollowsSchedule

variable (h : FollowsSchedule o f limit R batch Kind)
include h

/-- A task that goes on for as long as no time passes goes on by steps. -/
lemma leads_advance (p : Process Outcome) (hw : Kind w) (s : σ) (before after : List Task)
    (time : Nat) (hrunning : (batch s).running = before ++ ⟨cask, time, p⟩ :: after) :
    Leads R batch Kind s (advance w { batch s with running := before ++ after } cask p) := by
  induction p generalizing w s before after time with
  | done outcome =>
    obtain ⟨s', hstep, hbatch⟩ := h.close hrunning rfl
    exact ⟨⟨s', .single hstep, hbatch⟩, hw⟩
  | fetch url timeoutMs next ih =>
    obtain ⟨hw', s', hstep, hbatch⟩ :=
      h.fetch (w.beginFetch url timeoutMs).1 hw hrunning rfl
    rw [advance_fetch]
    exact leads_of_suspend hw' hstep hbatch fun before after => ih _ hw' s' before after _
  | wait ms next ih =>
    obtain ⟨s', hstep, hbatch⟩ := h.wait (w.beginWait ms).1 hw hrunning rfl
    rw [advance_wait]
    exact leads_of_suspend hw hstep hbatch fun before after => ih _ hw s' before after _

/-- A manifest is taken up by a step, and its verification goes on by steps. -/
lemma leads_launch (hw : Kind w) {m : Manifest} {ms : List Manifest}
    (hpending : (batch s).pending = m :: ms) (hroom : (batch s).running.length < limit) :
    Leads R batch Kind s (Batch.launch o f w { batch s with pending := ms } m) := by
  rw [Batch.launch]
  cases hcask : m.resolve f with
  | error e =>
    obtain ⟨s', hstep, hbatch⟩ := h.refuse hpending hroom hcask
    exact ⟨⟨s', .single hstep, hbatch⟩, hw⟩
  | ok cask =>
    obtain ⟨s', hstep, hbatch⟩ := h.launch 0 hpending hroom hcask
    have hrunning : (batch s').running =
        (batch s).running ++ ⟨cask, 0, verify o cask.appcast⟩ :: [] := by
      rw [hbatch]
      rfl
    have hlast := h.leads_advance (verify o cask.appcast) hw s' _ _ _ hrunning
    rw [hbatch, List.append_nil] at hlast
    exact hlast.head hstep

/-- One step of the schedule is a number of steps. -/
lemma leads_of_step? (hlimit : 0 < limit) (hw : Kind w) {p : World × Batch}
    (hnext : step? o f limit w (batch s) = some p) : Leads R batch Kind s p := by
  obtain ⟨m, ms, hpending, hroom, rfl⟩ | ⟨before, t, after, hrunning, rfl⟩ :=
    step?_cases hlimit hnext
  · exact h.leads_launch hw hpending hroom
  · exact h.leads_advance t.rest (h.later hw _) s before after t.resumeAt hrunning

/-- With as many steps as moves are needed the schedule comes to its end. -/
lemma exists_finished_steps (hlimit : 0 < limit) (hw : Kind w) (hleft : LeftWithin o k (batch s))
    (hn : k ≤ n) :
    ∃ s', ReflTransGen R s s' ∧ batch s' = (steps o f limit n w (batch s)).2 ∧
      (batch s').Finished := by
  induction n generalizing w s k with
  | zero =>
    refine ⟨s, .refl, rfl, ?_⟩
    by_contra hbusy
    obtain ⟨b', hmove⟩ : ∃ b', Move o f limit (batch s) b' := exists_move hlimit hbusy
    obtain ⟨l, hl, -⟩ := hleft.move hmove
    omega
  | succ n ih =>
    rw [steps]
    split
    · next hstop => exact ⟨s, .refl, rfl, finished_of_step? hstop⟩
    · next w' b' hnext =>
      obtain ⟨⟨s', hrun, rfl⟩, hw'⟩ := h.leads_of_step? hlimit hw hnext
      have hmoves : TransGen (Move o f limit) (batch s) (batch s') :=
        hrun.lift batch fun _ _ => h.move
      obtain ⟨l, hl, hleft'⟩ := hleft.moves hmoves
      obtain ⟨s'', hrest, hbatch, hfinished⟩ := ih hw' hleft' (by omega)
      exact ⟨s'', hrun.to_reflTransGen.trans hrest, hbatch, hfinished⟩

/-- A catalog that is run by the schedule comes to its end by steps. -/
lemma exists_finished (hlimit : 0 < limit) (hw : Kind w) {c : Catalog}
    (hs : batch s = ofCatalog c) :
    ∃ s', ReflTransGen R s s' ∧ batch s' = (steps o f limit (enough o c) w (ofCatalog c)).2 ∧
      (batch s').Finished := by
  have hleft : LeftWithin o (enough o c) (batch s) := by
    rw [hs]
    exact leftWithin_ofCatalog o c
  have hend := h.exists_finished_steps hlimit hw hleft (Nat.le_refl _)
  rwa [hs] at hend

end FollowsSchedule

end Schedule

/-! ## Moves -/

/-- Moves follow the schedule in every world. -/
lemma followsSchedule_move (o : FetchOptions) (f : Facts) (limit : Nat) :
    FollowsSchedule o f limit (Move o f limit) id fun _ => True where
  move h := h
  refuse hpending hroom hcask := by
    have hsplit : _ = [] ++ _ := hpending
    exact ⟨_, .refuse hsplit hroom hcask, rfl⟩
  launch time hpending hroom hcask := by
    have hsplit : _ = [] ++ _ := hpending
    exact ⟨_, .launch time hsplit hroom hcask, rfl⟩
  fetch time _ hrunning hrest := by
    refine ⟨trivial, _, .proceed time hrunning ?_, rfl⟩
    rw [hrest]
    exact .fetch _ _ _ _
  wait time _ hrunning hrest := by
    refine ⟨_, .proceed time hrunning ?_, rfl⟩
    rw [hrest]
    exact .wait _ _ _
  close hrunning hrest := ⟨_, .close hrunning hrest, rfl⟩
  later _ _ := trivial

/-- A batch that is run in a scripted world makes moves until it is finished. -/
lemma moves_run (o : FetchOptions) (f : Facts) (concurrency : Nat) (c : Catalog) (w : World) :
    ReflTransGen (Move o f (max 1 concurrency)) (ofCatalog c) (run o f concurrency c w).2 ∧
      (run o f concurrency c w).2.Finished := by
  obtain ⟨b, hrun, rfl, hfinished⟩ :=
    (followsSchedule_move o f (max 1 concurrency)).exists_finished (s := ofCatalog c)
      (Nat.le_max_left _ _) (w := w) trivial rfl
  exact ⟨hrun, hfinished⟩

end Batch

end CaskAudit
