import CaskAudit.Proofs.Fetch.Conditions

/-!
# Scripted worlds as conditions

A scripted world answers the attempts at a URL one after the other by the responses of its script,
and the last of them for ever. So it says how each attempt is answered (`World.respond`), and taking
a response from one script moves that URL on by one and leaves the others as they are.

It cancels at a time, and the times of a run follow from its answers. So every run in a scripted
world is one under some conditions (`World.exists_conditions`), and what holds under all conditions
holds there. In a `Steady` world, in which a URL is always answered alike and nothing is cancelled,
it does not matter what else is fetched meanwhile.
-/

namespace CaskAudit

/-- What a response is worth does not depend on when the fetch began. -/
lemma Response.outcome_snd (r : Response) (now timeoutMs : Nat) :
    (r.outcome now timeoutMs).2 = (r.outcome 0 timeoutMs).2 := by
  obtain ⟨delay, reply⟩ := r
  cases reply with
  | silence => rfl
  | body bytes =>
    simp only [Response.outcome]
    split
    · rfl
    · rfl
  | failure e =>
    simp only [Response.outcome]
    split
    · rfl
    · rfl

/-- The conditions in which every URL is always answered alike, and nothing is cancelled. -/
def Conditions.always (answer : String → Response) : Conditions := ⟨fun url _ => answer url, none⟩

namespace World

/-! ## Scripts -/

/-- The response number `n` of a script, of which the last is repeated for ever. -/
def scripted (otherwise : Response) : List Response → Nat → Response
  | [], _ => otherwise
  | [r], _ => r
  | r :: _ :: _, 0 => r
  | _ :: r :: rest, n + 1 => scripted otherwise (r :: rest) n

/-- The script of a URL. -/
def scriptOf (url : String) (scripts : List (String × List Response)) : List Response :=
  (scripts.lookup url).getD []

/-- The response to the attempt number `n` at a URL from now on. -/
def respond (w : World) (url : String) (n : Nat) : Response :=
  scripted (w.otherwise url) (scriptOf url w.scripts) n

variable {w : World} {url u : String} {scripts : List (String × List Response)}
  {otherwise : Response} {timeoutMs ms n : Nat} {begun : List Activity}

/-- The script of the first URL is the first script. -/
lemma scriptOf_cons_self (url : String) (responses : List Response)
    (scripts : List (String × List Response)) :
    scriptOf url ((url, responses) :: scripts) = responses := by
  rw [scriptOf, List.lookup_cons_self, Option.getD_some]

/-- The script of another URL is among the other scripts. -/
lemma scriptOf_cons_of_ne (hne : u ≠ url) (responses : List Response)
    (scripts : List (String × List Response)) :
    scriptOf url ((u, responses) :: scripts) = scriptOf url scripts := by
  rw [scriptOf, List.lookup_cons, beq_false_of_ne hne.symm, scriptOf]

/-- The response that is taken is the next one of the script. -/
lemma takeResponse_fst (otherwise : Response) (url : String)
    (scripts : List (String × List Response)) :
    (takeResponse otherwise url scripts).1 = scripted otherwise (scriptOf url scripts) 0 := by
  induction scripts with
  | nil => rfl
  | cons script scripts ih =>
    obtain ⟨u, responses⟩ := script
    rw [takeResponse.eq_def]
    dsimp only
    by_cases hu : u = url
    · subst hu
      rw [if_pos rfl, scriptOf_cons_self]
      match responses with
      | [] => rfl
      | [r] => rfl
      | r :: r' :: rest => rfl
    · rw [if_neg hu, scriptOf_cons_of_ne hu]
      exact ih

/-- Taking a response moves the script of its URL on by one. -/
lemma scripted_takeResponse_self (otherwise : Response) (url : String)
    (scripts : List (String × List Response)) (n : Nat) :
    scripted otherwise (scriptOf url (takeResponse otherwise url scripts).2) n =
      scripted otherwise (scriptOf url scripts) (n + 1) := by
  induction scripts with
  | nil => rfl
  | cons script scripts ih =>
    obtain ⟨u, responses⟩ := script
    rw [takeResponse.eq_def]
    dsimp only
    by_cases hu : u = url
    · subst hu
      rw [if_pos rfl, scriptOf_cons_self]
      match responses with
      | [] => rw [scriptOf_cons_self]; rfl
      | [r] => rw [scriptOf_cons_self]; rfl
      | r :: r' :: rest => rw [scriptOf_cons_self]; rfl
    · rw [if_neg hu, scriptOf_cons_of_ne hu, scriptOf_cons_of_ne hu]
      exact ih

/-- Taking a response leaves the scripts of the other URLs as they are. -/
lemma scriptOf_takeResponse_of_ne (hne : u ≠ url) (otherwise : Response)
    (scripts : List (String × List Response)) :
    scriptOf u (takeResponse otherwise url scripts).2 = scriptOf u scripts := by
  induction scripts with
  | nil => rfl
  | cons script scripts ih =>
    obtain ⟨v, responses⟩ := script
    rw [takeResponse.eq_def]
    dsimp only
    by_cases hv : v = url
    · subst hv
      rw [if_pos rfl, scriptOf_cons_of_ne hne.symm]
      match responses with
      | [] => rw [scriptOf_cons_of_ne hne.symm]
      | [r] => rw [scriptOf_cons_of_ne hne.symm]
      | r :: r' :: rest => rw [scriptOf_cons_of_ne hne.symm]
    · rw [if_neg hv]
      by_cases hvu : v = u
      · subst hvu
        rw [scriptOf_cons_self, scriptOf_cons_self]
      · rw [scriptOf_cons_of_ne hvu, scriptOf_cons_of_ne hvu]
        exact ih

/-! ## One request -/

/-- The world after a call. -/
def called (w : World) (url : String) : World :=
  { w with
    scripts := (takeResponse (w.otherwise url) url w.scripts).2
    calls := (w.now, url) :: w.calls }

/-- After a call, its URL has been answered once more. -/
lemma respond_called_self (w : World) (url : String) (n : Nat) :
    (w.called url).respond url n = w.respond url (n + 1) :=
  scripted_takeResponse_self _ url w.scripts n

/-- After a call, the other URLs are answered as before. -/
lemma respond_called_of_ne (w : World) (hne : u ≠ url) (n : Nat) :
    (w.called url).respond u n = w.respond u n := by
  rw [respond, called]
  dsimp only
  rw [scriptOf_takeResponse_of_ne hne, respond]

/-- A fetch that is not cancelled before it begins is a call, and comes to what its response is
worth, unless that is not there before cancellation. -/
lemma beginFetch_of_not_cancelled (url : String) (timeoutMs : Nat)
    (h : w.cancelledBy w.now = false) :
    w.beginFetch url timeoutMs =
      if w.cancelledBy ((w.respond url 0).outcome w.now timeoutMs).1 then
        (w.cancelTimeOr ((w.respond url 0).outcome w.now timeoutMs).1, .error .cancelled,
          w.called url)
      else
        (((w.respond url 0).outcome w.now timeoutMs).1,
          ((w.respond url 0).outcome w.now timeoutMs).2, w.called url) := by
  rw [beginFetch, h, if_neg Bool.false_ne_true, respond, ← takeResponse_fst]
  rfl

/-- Cancellation comes at its time. -/
lemma cancelledBy_cancelTimeOr {time : Nat} (h : w.cancelledBy time = true) :
    w.cancelledBy (w.cancelTimeOr time) = true := by
  rw [cancelledBy] at h
  split at h
  · next t ht =>
    rw [cancelledBy, cancelTimeOr, ht, Option.getD_some]
    exact decide_eq_true (Nat.le_refl t)
  · cases h

/-! ## Steady worlds -/

/-- A world in which every URL is always answered alike, and nothing is cancelled. -/
structure Steady (answer : String → Response) (w : World) : Prop where
  cancelAt : w.cancelAt = none
  respond : ∀ url n, w.respond url n = answer url

variable {answer : String → Response}

/-- Nothing is cancelled in a steady world. -/
lemma Steady.cancelledBy (h : w.Steady answer) (time : Nat) : w.cancelledBy time = false := by
  rw [World.cancelledBy, h.cancelAt]

/-- A steady world stays so when time passes. -/
lemma Steady.later (h : w.Steady answer) (time : Nat) : { w with now := time }.Steady answer :=
  ⟨h.cancelAt, h.respond⟩

/-- A steady world stays so after a call. -/
lemma Steady.called (h : w.Steady answer) (url : String) : (w.called url).Steady answer := by
  refine ⟨h.cancelAt, ?_⟩
  intro u n
  by_cases hu : u = url
  · rw [hu, respond_called_self, h.respond]
  · rw [respond_called_of_ne w hu, h.respond]

/-- In a steady world a fetch comes to what the URL is always answered. -/
lemma Steady.beginFetch (h : w.Steady answer) (url : String) (timeoutMs : Nat)
    (begun : List Activity) :
    (w.beginFetch url timeoutMs).2.1 =
        ((Conditions.always answer).attempt begun url timeoutMs).1 ∧
      (w.beginFetch url timeoutMs).2.2.Steady answer := by
  have hattempt : ((Conditions.always answer).attempt begun url timeoutMs).1 =
      ((answer url).outcome 0 timeoutMs).2 := by
    rw [Conditions.attempt_of_left (Conditions.cancelledBy_eq_false rfl _)]
    rfl
  rw [beginFetch_of_not_cancelled url timeoutMs (h.cancelledBy _), h.cancelledBy,
    if_neg Bool.false_ne_true, hattempt, h.respond]
  exact ⟨Response.outcome_snd _ _ _, h.called url⟩

/-- In a steady world no wait is cut short. -/
lemma Steady.beginWait (h : w.Steady answer) (ms : Nat) (begun : List Activity) :
    (w.beginWait ms).2 = ((Conditions.always answer).pause begun ms).1 := by
  have hworld : (w.beginWait ms).2 = false := by
    rw [World.beginWait, h.cancelledBy, if_neg Bool.false_ne_true, h.cancelledBy,
      if_neg Bool.false_ne_true]
  rw [hworld, Conditions.pause_of_not_cancelled (Conditions.cancelledBy_eq_false rfl _),
    Conditions.cancelledBy_eq_false rfl]

/-! ## Whole runs -/

/-- A process comes to the same in a world as under conditions after some activities, and what is
called is what is begun. -/
def Follows {α : Type} (c : Conditions) (p : Process α) (begun : List Activity) (w : World) :
    Prop :=
  ∃ more, p.runIn c begun = ((run p w).1, begun ++ more) ∧
    (run p w).2.calls.map Prod.snd =
      (more.filterMap Activity.url?).reverse ++ w.calls.map Prod.snd

variable {α : Type} {c : Conditions}

/-- After cancellation nothing is called or begun. -/
lemma follows_of_cancelled (p : Process α) (hw : w.cancelledBy w.now = true)
    (hc : c.cancelledBy (2 * begun.length) = true) : Follows c p begun w := by
  induction p with
  | done a => exact ⟨[], by rw [List.append_nil]; rfl, rfl⟩
  | fetch url timeoutMs next ih =>
    have hworld : w.beginFetch url timeoutMs = (w.now, .error .cancelled, w) := by
      rw [beginFetch, if_pos hw]
    rw [Follows, run, hworld, Process.runIn, Conditions.attempt_of_cancelled hc]
    exact ih _
  | wait ms next ih =>
    have hworld : w.beginWait ms = (w.now, true) := by
      rw [beginWait, if_pos hw]
    rw [Follows, run, hworld, Process.runIn, Conditions.pause_of_cancelled hc]
    exact ih _

/-- A call is begun under the conditions too if the attempt comes to the same. -/
lemma Follows.fetch {next : FetchResult → Process α} {time : Nat} {result : FetchResult}
    (hworld : w.beginFetch url timeoutMs = (time, result, w.called url))
    (hattempt : c.attempt begun url timeoutMs = (result, begun ++ [.attempt url]))
    (h : Follows c (next result) (begun ++ [.attempt url]) { w.called url with now := time }) :
    Follows c (.fetch url timeoutMs next) begun w := by
  obtain ⟨more, hrun, hcalls⟩ := h
  rw [List.append_assoc] at hrun
  refine ⟨.attempt url :: more, ?_, ?_⟩
  · rw [Process.runIn, hattempt, run, hworld]
    exact hrun
  · have hurls : (Activity.attempt url :: more).filterMap Activity.url? =
        url :: more.filterMap Activity.url? := rfl
    rw [run, hworld, hurls, List.reverse_cons, List.append_assoc]
    exact hcalls

/-- A wait is begun under the conditions too if it is cut short in both or in neither. -/
lemma Follows.wait {next : Bool → Process α} {time : Nat} {cut : Bool}
    (hworld : w.beginWait ms = (time, cut))
    (hpause : c.pause begun ms = (cut, begun ++ [.pause ms]))
    (h : Follows c (next cut) (begun ++ [.pause ms]) { w with now := time }) :
    Follows c (.wait ms next) begun w := by
  obtain ⟨more, hrun, hcalls⟩ := h
  rw [List.append_assoc] at hrun
  refine ⟨.pause ms :: more, ?_, ?_⟩
  · rw [Process.runIn, hpause, run, hworld]
    exact hrun
  · rw [run, hworld]
    exact hcalls

/-- A process that has nothing to ask comes to the same everywhere. -/
lemma follows_done (c : Conditions) (a : α) (begun : List Activity) (w : World) :
    Follows c (.done a) begun w :=
  ⟨[], by rw [List.append_nil]; rfl, rfl⟩

/-- The attempts after some activities are answered as in a world. -/
def Serves (respond : String → Nat → Response) (w : World) (begun : List Activity) : Prop :=
  ∀ url n, respond url (begun.count (.attempt url) + n) = w.respond url n

/-- A process comes to the same in a world as under conditions in which cancellation is still to
come. -/
def FollowsFrom (respond : String → Nat → Response) (p : Process α) (begun : List Activity)
    (w : World) : Prop :=
  ∃ cancelAt, (∀ t, cancelAt = some t → 2 * begun.length ≤ t) ∧
    Follows ⟨respond, cancelAt⟩ p begun w

variable {answers : String → Nat → Response}

/-- After a call, the attempts after it are answered as in the world. -/
lemma Serves.called (h : Serves answers w begun) (url : String) :
    Serves answers (w.called url) (begun ++ [.attempt url]) := by
  intro u n
  by_cases hu : u = url
  · have hcount : (begun ++ [Activity.attempt url]).count (.attempt url) =
        begun.count (.attempt url) + 1 := by
      rw [List.count_append, List.count_singleton_self]
    rw [hu, respond_called_self, ← h, hcount, Nat.add_assoc, Nat.add_comm 1]
  · have hother : Activity.attempt url ≠ .attempt u := fun heq => hu (Activity.attempt.inj heq).symm
    have hnone : [Activity.attempt url].count (.attempt u) = 0 :=
      List.count_eq_zero.2 fun hmem => hother (List.mem_singleton.1 hmem).symm
    rw [respond_called_of_ne w hu, ← h, List.count_append, hnone, Nat.add_zero]

/-- A wait changes nothing about the attempts. -/
lemma Serves.pause (h : Serves answers w begun) (ms time : Nat) :
    Serves answers { w with now := time } (begun ++ [.pause ms]) := by
  intro u n
  have hnone : [Activity.pause ms].count (.attempt u) = 0 :=
    List.count_eq_zero.2 fun hmem => nomatch List.mem_singleton.1 hmem
  rw [List.count_append, hnone, Nat.add_zero]
  exact h u n

/-- Cancellation at the moment of an activity comes before what follows the activity. -/
lemma cancelledBy_cut (answers : String → Nat → Response) (n : Nat) :
    Conditions.cancelledBy ⟨answers, some (2 * n + 1)⟩ (2 * n) = false ∧
      Conditions.cancelledBy ⟨answers, some (2 * n + 1)⟩ (2 * n + 1) = true ∧
      Conditions.cancelledBy ⟨answers, some (2 * n + 1)⟩ (2 * (n + 1)) = true := by
  have hcut : Conditions.cancelledBy ⟨answers, some (2 * n + 1)⟩ (2 * n + 1) = true :=
    Conditions.cancelledBy_eq_true_iff.2 ⟨_, rfl, Nat.le_refl _⟩
  exact ⟨Conditions.cancelledBy_eq_false_of_lt rfl (Nat.lt_succ_self _), hcut,
    Conditions.cancelledBy_of_le hcut (by omega)⟩

/-- Cancellation that comes after an activity does not come before or during it. -/
lemma cancelledBy_late (answers : String → Nat → Response) {cancelAt : Option Nat}
    (hlate : ∀ t, cancelAt = some t → 2 * (n + 1) ≤ t) :
    (∀ t, cancelAt = some t → 2 * n ≤ t) ∧
      Conditions.cancelledBy ⟨answers, cancelAt⟩ (2 * n + 1) = false := by
  refine ⟨?_, Conditions.cancelledBy_eq_false_iff.2 ?_⟩
  · intro t ht
    have := hlate t ht
    omega
  · intro t ht
    have := hlate t ht
    omega

/-- A fetch has the same result, and the process goes on in the same way. -/
lemma followsFrom_fetch {next : FetchResult → Process α} (hw : w.cancelledBy w.now = false)
    (h : Serves answers w begun)
    (ih : ∀ result (w' : World), w'.cancelledBy w'.now = false →
      Serves answers w' (begun ++ [.attempt url]) →
      FollowsFrom answers (next result) (begun ++ [.attempt url]) w') :
    FollowsFrom answers (.fetch url timeoutMs next) begun w := by
  have hlength : (begun ++ [Activity.attempt url]).length = begun.length + 1 :=
    List.length_append
  have hfetch := beginFetch_of_not_cancelled url timeoutMs hw
  cases hcut : w.cancelledBy ((w.respond url 0).outcome w.now timeoutMs).1 with
  | true =>
    rw [hcut, if_pos rfl] at hfetch
    obtain ⟨hbefore, hduring, hafter⟩ := cancelledBy_cut answers begun.length
    refine ⟨some (2 * begun.length + 1), ?_,
      .fetch hfetch (Conditions.attempt_of_cut hbefore hduring) ?_⟩
    · rintro _ ⟨⟩
      exact Nat.le_succ _
    · rw [← hlength] at hafter
      exact follows_of_cancelled _ (cancelledBy_cancelTimeOr hcut) hafter
  | false =>
    rw [hcut, if_neg Bool.false_ne_true] at hfetch
    obtain ⟨cancelAt, hlate, hfollows⟩ := ih ((w.respond url 0).outcome w.now timeoutMs).2
      { w.called url with now := ((w.respond url 0).outcome w.now timeoutMs).1 } hcut
      (h.called url)
    rw [hlength] at hlate
    obtain ⟨hbound, hnot⟩ := cancelledBy_late answers hlate
    have hanswer : Conditions.answer ⟨answers, cancelAt⟩ timeoutMs url
        (begun.count (.attempt url)) = ((w.respond url 0).outcome w.now timeoutMs).2 := by
      rw [Conditions.answer, Response.outcome_snd _ w.now, ← h url 0, Nat.add_zero]
    refine ⟨cancelAt, hbound, .fetch hfetch ?_ hfollows⟩
    rw [Conditions.attempt_of_left hnot, hanswer]

/-- A wait is cut short in both or in neither, and the process goes on in the same way. -/
lemma followsFrom_wait {next : Bool → Process α} (hw : w.cancelledBy w.now = false)
    (h : Serves answers w begun)
    (ih : ∀ cut (w' : World), w'.cancelledBy w'.now = false →
      Serves answers w' (begun ++ [.pause ms]) →
      FollowsFrom answers (next cut) (begun ++ [.pause ms]) w') :
    FollowsFrom answers (.wait ms next) begun w := by
  have hlength : (begun ++ [Activity.pause ms]).length = begun.length + 1 := List.length_append
  cases hcut : w.cancelledBy (w.now + ms) with
  | true =>
    have hwait : w.beginWait ms = (w.cancelTimeOr (w.now + ms), true) := by
      rw [beginWait, hw, if_neg Bool.false_ne_true, hcut, if_pos rfl]
    obtain ⟨hbefore, hduring, hafter⟩ := cancelledBy_cut answers begun.length
    refine ⟨some (2 * begun.length + 1), ?_, .wait hwait ?_ ?_⟩
    · rintro _ ⟨⟩
      exact Nat.le_succ _
    · rw [Conditions.pause_of_not_cancelled hbefore, hduring]
    · rw [← hlength] at hafter
      exact follows_of_cancelled _ (cancelledBy_cancelTimeOr hcut) hafter
  | false =>
    have hwait : w.beginWait ms = (w.now + ms, false) := by
      rw [beginWait, hw, if_neg Bool.false_ne_true, hcut, if_neg Bool.false_ne_true]
    obtain ⟨cancelAt, hlate, hfollows⟩ := ih false { w with now := w.now + ms } hcut
      (h.pause ms _)
    rw [hlength] at hlate
    obtain ⟨hbound, hnot⟩ := cancelledBy_late answers hlate
    refine ⟨cancelAt, hbound, .wait hwait ?_ hfollows⟩
    rw [Conditions.pause_of_not_cancelled (Conditions.cancelledBy_of_ge hnot (Nat.le_succ _)), hnot]

/-- As long as nothing is cancelled, a process comes to the same in a world as under conditions in
which cancellation is still to come. -/
lemma followsFrom (p : Process α) (hw : w.cancelledBy w.now = false)
    (h : Serves answers w begun) : FollowsFrom answers p begun w := by
  induction p generalizing w begun with
  | done a => exact ⟨none, (fun _ ht => nomatch ht), follows_done _ a begun w⟩
  | fetch url timeoutMs next ih => exact followsFrom_fetch hw h fun result _ => ih result
  | wait ms next ih => exact followsFrom_wait hw h fun cut _ => ih cut

/-- A process comes in a world to what it comes to under some conditions, and the URLs that are
called are those that are attempted. -/
theorem exists_conditions (p : Process α) (w : World) :
    ∃ c : Conditions, c.respond = w.respond ∧ (p.runIn c []).1 = (run p w).1 ∧
      (run p w).2.calls.map Prod.snd =
        ((p.runIn c []).2.filterMap Activity.url?).reverse ++ w.calls.map Prod.snd := by
  have hfollows : ∃ cancelAt, Follows ⟨w.respond, cancelAt⟩ p [] w := by
    cases hw : w.cancelledBy w.now with
    | true => exact ⟨some 0, follows_of_cancelled p hw rfl⟩
    | false =>
      have hserve : Serves w.respond w [] := fun url n => by rw [List.count_nil, Nat.zero_add]
      obtain ⟨cancelAt, -, h⟩ := followsFrom p hw hserve
      exact ⟨cancelAt, h⟩
  obtain ⟨cancelAt, more, hrun, hcalls⟩ := hfollows
  refine ⟨⟨w.respond, cancelAt⟩, rfl, ?_, ?_⟩
  · rw [hrun]
  · rw [hrun]
    exact hcalls

end World

end CaskAudit
