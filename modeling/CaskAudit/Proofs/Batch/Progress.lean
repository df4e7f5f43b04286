import CaskAudit.Proofs.Batch.Independence

/-!
# The progress of a batch

What a batch tells while it is under way follows a protocol: first the phase, then for each token of
the catalog that its check has begun and later what it has come to, and last a summary. Between the
two events of its token a check is under way, and no more checks are than there is room for.

`accounts` says what has been told about each token, whatever it has come to so far, and
`Telling.move` that no move breaks the accounts: it adds to the account of one token what it tells
about this token. So the accounts hold at every moment of a run, in whatever order the checks go on,
and when a batch is finished they are those of `Protocol`.
-/

namespace CaskAudit

/-! ## Events -/

namespace ProgressEvent

/-- The token whose check an event begins. -/
def begun? : ProgressEvent → Option Token
  | checking token => some token
  | _ => none

/-- The token whose check an event ends. -/
def ended? : ProgressEvent → Option Token
  | outcome token _ => some token
  | failed token _ => some token
  | _ => none

/-- The token that an event is about. -/
def token? (e : ProgressEvent) : Option Token := e.begun?.or e.ended?

/-- The event that tells what the check of a token has come to. -/
def closing (token : Token) : CheckResult → ProgressEvent
  | .ok checked => outcome token checked.outcome
  | .error e => failed token e.message

variable {token : Token} {e : ProgressEvent} {es : List ProgressEvent}

@[simp] lemma begun?_closing (token : Token) (r : CheckResult) :
    (closing token r).begun? = none := by
  cases r <;> rfl

@[simp] lemma ended?_closing (token : Token) (r : CheckResult) :
    (closing token r).ended? = some token := by
  cases r <;> rfl

/-- The events about a token. -/
def about (token : Token) (es : List ProgressEvent) : List ProgressEvent :=
  es.filter (·.token? = some token)

/-- The events about a token among events one after the other. -/
lemma about_append (token : Token) (es es' : List ProgressEvent) :
    about token (es ++ es') = about token es ++ about token es' := List.filter_append ..

/-- The events about a token are turned around with the others. -/
lemma about_reverse (token : Token) (es : List ProgressEvent) :
    about token es.reverse = (about token es).reverse := List.filter_reverse ..

/-- The tokens whose checks have begun and not ended. -/
def underWay (es : List ProgressEvent) : List Token :=
  (es.filterMap begun?).filter (· ∉ es.filterMap ended?)

/-- The check that begins is one more under way. -/
lemma length_underWay_checking_le (token : Token) (es : List ProgressEvent) :
    (underWay (checking token :: es)).length ≤ (underWay es).length + 1 := by
  have hended : (checking token :: es).filterMap ended? = es.filterMap ended? := rfl
  have hbegun : (checking token :: es).filterMap begun? = token :: es.filterMap begun? := rfl
  rw [underWay, hended, hbegun, List.filter_cons]
  split
  · exact Nat.le_refl _
  · exact Nat.le_succ _

/-- No more checks are under way when one has ended. -/
lemma length_underWay_closing_le (token : Token) (r : CheckResult) (es : List ProgressEvent) :
    (underWay (closing token r :: es)).length ≤ (underWay es).length := by
  have hbegun : (closing token r :: es).filterMap begun? = es.filterMap begun? :=
    List.filterMap_cons_none (begun?_closing token r)
  have hended : (closing token r :: es).filterMap ended? = token :: es.filterMap ended? :=
    List.filterMap_cons_some (ended?_closing token r)
  rw [underWay, hbegun, hended]
  refine (List.monotone_filter_right _ ?_).length_le
  intro u hu
  simp only [List.mem_cons, not_or, decide_eq_true_eq] at hu ⊢
  exact hu.2

/-- It does not matter in which direction events are listed. -/
lemma length_underWay_reverse (es : List ProgressEvent) :
    (underWay es.reverse).length = (underWay es).length := by
  simp only [underWay, List.filterMap_reverse, List.filter_reverse, List.length_reverse,
    List.mem_reverse]

/-- The events that begin the check of a token are among those about the token. -/
lemma filter_begun (token : Token) (es : List ProgressEvent) :
    (es.filterMap begun?).filter (· == token) = (about token es).filterMap begun? := by
  rw [about, List.filter_filterMap, List.filterMap_filter]
  refine List.filterMap_congr ?_
  intro e _
  cases e with
  | checking u => by_cases hu : u = token <;> simp [begun?, token?, hu]
  | phase _ | outcome _ _ | failed _ _ | summary _ => simp [begun?]

/-- An event that begins the check of a token is about the token. -/
lemma mem_about_of_begun (he : e ∈ es) (h : e.begun? = some token) : e ∈ about token es := by
  refine List.mem_filter.2 ⟨he, ?_⟩
  simp [token?, h]

end ProgressEvent

open ProgressEvent

/-- The events of a finished batch, with the tokens of the catalog and the results that it gives,
where a number of checks may be under way at a time. -/
structure Protocol (tokens : List Token) (limit : Nat) (results : List (Token × CheckResult))
    (events : List ProgressEvent) : Prop where
  /-- There is one result for each token, in the order of the catalog. -/
  keys : results.map Prod.fst = tokens
  /-- The phase comes first and the summary last, which counts the tokens; what stands between them
  is about the tokens. -/
  framed : ∃ es, events = .phase "Checking" :: (es ++ [.summary tokens.length]) ∧
    ∀ e ∈ es, ∃ token ∈ tokens, e.token? = some token
  /-- What is told about a token is that its check has begun and then, once, its result. -/
  told : ∀ p ∈ results, about p.1 events = [.checking p.1, closing p.1 p.2]
  /-- At no moment are more checks under way than there is room for. -/
  room : ∀ es, es <+: events → (underWay es).length ≤ limit

section

variable {tokens : List Token} {limit : Nat} {results : List (Token × CheckResult)}
  {events : List ProgressEvent} {token : Token} {e : ProgressEvent}

/-- An event that ends the check of a token is told exactly if it tells the result of the token. -/
lemma Protocol.mem_iff_of_ended (h : Protocol tokens limit results events)
    (he : e.ended? = some token) (hbegun : e.begun? = none) :
    e ∈ events ↔ ∃ r, (token, r) ∈ results ∧ closing token r = e := by
  have htoken : e.token? = some token := by simp [token?, he, hbegun]
  constructor
  · intro hmem
    obtain ⟨es, hes, hall⟩ := h.framed
    have hbetween : e ∈ es := by
      rw [hes] at hmem
      rcases List.mem_cons.1 hmem with rfl | hmem
      · cases he
      · rcases List.mem_append.1 hmem with hmem | hmem
        · exact hmem
        · obtain rfl := List.mem_singleton.1 hmem
          cases he
    obtain ⟨u, hu, heu⟩ := hall e hbetween
    obtain rfl : u = token := by simpa [htoken] using heu.symm
    rw [← h.keys] at hu
    obtain ⟨⟨u, r⟩, hr, rfl⟩ := List.mem_map.1 hu
    have habout : e ∈ about u events := List.mem_filter.2 ⟨hmem, by simp [htoken]⟩
    rw [h.told (u, r) hr] at habout
    refine ⟨r, hr, ?_⟩
    rcases List.mem_cons.1 habout with rfl | habout
    · cases hbegun
    · exact (List.mem_singleton.1 habout).symm
  · rintro ⟨r, hr, rfl⟩
    have habout : closing token r ∈ about token events := by
      rw [h.told (token, r) hr]
      exact List.mem_cons_of_mem _ List.mem_cons_self
    exact (List.mem_filter.1 habout).1

/-- An outcome is told exactly if it is the result of its token. -/
lemma Protocol.outcome_mem_iff (h : Protocol tokens limit results events) (token : Token)
    (o : Outcome) :
    .outcome token o ∈ events ↔
      ∃ checked, (token, .ok checked) ∈ results ∧ checked.outcome = o := by
  rw [h.mem_iff_of_ended (e := .outcome token o) rfl rfl]
  constructor
  · rintro ⟨e | checked, hr, hclosing⟩
    · cases hclosing
    · exact ⟨checked, hr, (ProgressEvent.outcome.inj hclosing).2⟩
  · rintro ⟨checked, hr, rfl⟩
    exact ⟨_, hr, rfl⟩

/-- A failure is told exactly if the result of its token is an error with this report. -/
lemma Protocol.failed_mem_iff (h : Protocol tokens limit results events) (token : Token)
    (reason : String) :
    .failed token reason ∈ events ↔ ∃ e, (token, .error e) ∈ results ∧ e.message = reason := by
  rw [h.mem_iff_of_ended (e := .failed token reason) rfl rfl]
  constructor
  · rintro ⟨e | checked, hr, hclosing⟩
    · exact ⟨e, hr, (ProgressEvent.failed.inj hclosing).2⟩
    · cases hclosing
  · rintro ⟨e, hr, rfl⟩
    exact ⟨_, hr, rfl⟩

end

namespace Batch

variable {o : FetchOptions} {f : Facts} {limit : Nat} {c : Catalog} {b b' : Batch}
  {before after : List Task} {t : Task} {token : Token}

/-! ## What has been told about each token -/

/-- The tokens of a batch, each with what has been told about it, newest first. -/
def accounts (b : Batch) : List (Token × List ProgressEvent) :=
  b.results.map (fun p => (p.1, [closing p.1 p.2, .checking p.1])) ++
    (b.running.map (fun t => (t.cask.token, [.checking t.cask.token])) ++
      b.pending.map (fun m => (m.token, [])))

/-- The account of a running task is one of the accounts. -/
lemma accounts_of_running (h : b.running = before ++ t :: after) :
    b.accounts.Perm ((t.cask.token, [.checking t.cask.token]) ::
      accounts { b with running := before ++ after }) :=
  perm_map_of_split h (fun t => (t.cask.token, [ProgressEvent.checking t.cask.token])) _ _

/-- The account of a manifest that has not been begun is one of the accounts. -/
lemma accounts_of_pending {before after : List Manifest} {m : Manifest}
    (h : b.pending = before ++ m :: after) :
    b.accounts.Perm ((m.token, []) :: accounts { b with pending := before ++ after }) := by
  have hperm := perm_map_of_split h (fun m => (m.token, ([] : List ProgressEvent)))
    (b.results.map (fun p => (p.1, [closing p.1 p.2, .checking p.1])) ++
      b.running.map (fun t => (t.cask.token, [ProgressEvent.checking t.cask.token]))) []
  simpa only [accounts, List.append_assoc, List.append_nil] using hperm

/-- A task that is put behind the others has one of the accounts. -/
lemma accounts_suspend (b : Batch) (cask : ResolvedCask) (time : Nat) (p : Process Outcome) :
    (b.suspend cask time p).accounts.Perm ((cask.token, [.checking cask.token]) :: b.accounts) := by
  have h : (b.suspend cask time p).running = b.running ++ ⟨cask, time, p⟩ :: [] := rfl
  have hperm := accounts_of_running h
  rw [List.append_nil] at hperm
  exact hperm

/-- What holds of the events of a batch at every moment. -/
structure Telling (c : Catalog) (b : Batch) : Prop where
  /-- Every token of the catalog has one account. -/
  tokens : (b.accounts.map Prod.fst).Perm (c.manifests.map Manifest.token)
  /-- The accounts say what has been told. -/
  told : ∀ p ∈ b.accounts, about p.1 b.events = p.2
  /-- The phase has been told first, and after it only what is about tokens of the catalog. -/
  framed : ∃ es, b.events = es ++ [.phase "Checking"] ∧
    ∀ e ∈ es, ∃ token ∈ c.manifests.map Manifest.token, e.token? = some token

/-- Nothing has been told about any token at the beginning. -/
lemma telling_ofCatalog (c : Catalog) : Telling c (ofCatalog c) where
  tokens := by
    simp [accounts, ofCatalog, Function.comp_def]
  told := by
    intro p hp
    obtain ⟨m, -, rfl⟩ : ∃ m ∈ c.manifests, (m.token, []) = p := by
      simpa [accounts, ofCatalog] using hp
    rfl
  framed := ⟨[], rfl, fun _ he => nomatch he⟩

/-- The accounts hold if what is told anew is about one token and is put on its account. -/
lemma Telling.of_news (hc : c.Ordered) (h : Telling c b) (new : List ProgressEvent)
    {old : List ProgressEvent} {others : List (Token × List ProgressEvent)}
    (hold : b.accounts.Perm ((token, old) :: others))
    (hnew : b'.accounts.Perm ((token, new ++ old) :: others))
    (hevents : b'.events = new ++ b.events) (habout : ∀ e ∈ new, e.token? = some token) :
    Telling c b' := by
  have htokens : (((token, old) :: others).map Prod.fst).Perm (c.manifests.map Manifest.token) :=
    (hold.map Prod.fst).symm.trans h.tokens
  obtain ⟨hother, -⟩ := List.nodup_cons.1 (htokens.nodup_iff.2 hc.nodup_tokens)
  refine ⟨(hnew.map Prod.fst).trans htokens, ?_, ?_⟩
  · intro p hp
    rw [hevents, about_append]
    rcases List.mem_cons.1 (hnew.mem_iff.1 hp) with rfl | hp
    · have hself : about token new = new := List.filter_eq_self.2 fun e he => by
        simpa using habout e he
      rw [hself, h.told (token, old) (hold.mem_iff.2 List.mem_cons_self)]
    · have hne : token ≠ p.1 := by
        intro heq
        exact hother (List.mem_map.2 ⟨p, hp, heq.symm⟩)
      have hnone : about p.1 new = [] := List.filter_eq_nil_iff.2 fun e he => by
        simpa [habout e he] using hne
      rw [hnone, h.told p (hold.mem_iff.2 (List.mem_cons_of_mem _ hp)), List.nil_append]
  · obtain ⟨es, hes, hall⟩ := h.framed
    refine ⟨new ++ es, by rw [hevents, hes, List.append_assoc], ?_⟩
    intro e he
    rcases List.mem_append.1 he with he | he
    · exact ⟨token, htokens.mem_iff.1 List.mem_cons_self, habout e he⟩
    · exact hall e he

/-- No move breaks the accounts. -/
lemma Telling.move (hc : c.Ordered) (h : Telling c b) (hmove : Move o f limit b b') :
    Telling c b' := by
  cases hmove with
  | @refuse before after m e hpending hroom hcask =>
    refine h.of_news hc [.failed m.token e.message, .checking m.token]
      (accounts_of_pending hpending) (.refl _) rfl ?_
    simp [token?, begun?, ended?]
  | @launch before after m cask time hpending hroom hcask =>
    have hnew := accounts_suspend (noteChecking { b with pending := before ++ after } m.token) cask
      time (verify o cask.appcast)
    rw [token_of_resolve hcask] at hnew
    refine h.of_news hc [.checking m.token] (accounts_of_pending hpending) hnew rfl ?_
    simp [token?, begun?]
  | @proceed before after t rest time hrunning hanswer =>
    exact h.of_news hc [] (accounts_of_running hrunning)
      (accounts_suspend { b with running := before ++ after } t.cask time rest) rfl
      fun _ he => nomatch he
  | @close before after t outcome hrunning hrest =>
    refine h.of_news hc [.outcome t.cask.token outcome] (accounts_of_running hrunning)
      (.refl _) rfl ?_
    simp [token?, begun?, ended?]

/-- What has been told about a token tells where its check is. -/
lemma Telling.cases (h : Telling c b) (token : Token) :
    about token b.events = [] ∨
      (∃ t ∈ b.running, t.cask.token = token ∧ about token b.events = [.checking token]) ∨
      ∃ r, (token, r) ∈ b.results ∧ about token b.events = [closing token r, .checking token] := by
  by_cases htoken : token ∈ b.accounts.map Prod.fst
  · obtain ⟨p, hp, rfl⟩ := List.mem_map.1 htoken
    have htold := h.told p hp
    rw [htold]
    rcases List.mem_append.1 hp with hp | hp
    · obtain ⟨q, hq, rfl⟩ := List.mem_map.1 hp
      exact .inr (.inr ⟨q.2, hq, rfl⟩)
    · rcases List.mem_append.1 hp with hp | hp
      · obtain ⟨t, ht, rfl⟩ := List.mem_map.1 hp
        exact .inr (.inl ⟨t, ht, rfl, rfl⟩)
      · obtain ⟨m, -, rfl⟩ := List.mem_map.1 hp
        exact .inl rfl
  · refine .inl (List.filter_eq_nil_iff.2 ?_)
    intro e he hetoken
    obtain ⟨es, hes, hall⟩ := h.framed
    rw [hes] at he
    rcases List.mem_append.1 he with he | he
    · obtain ⟨u, hu, heu⟩ := hall e he
      obtain rfl : u = token := by simpa [heu] using hetoken
      exact htoken (h.tokens.mem_iff.2 hu)
    · obtain rfl := List.mem_singleton.1 he
      simp [token?, begun?, ended?] at hetoken

/-! ## Room -/

/-- The checks under way are those of the running tasks. -/
lemma Telling.length_underWay_le (h : Telling c b) :
    (underWay b.events).length ≤ b.running.length := by
  have hnodup : (b.events.filterMap begun?).Nodup := by
    refine List.nodup_iff_count_le_one.2 fun token => ?_
    rw [List.count_eq_length_filter, filter_begun]
    rcases h.cases token with habout | ⟨t, -, -, habout⟩ | ⟨r, -, habout⟩
    · rw [habout]
      exact Nat.zero_le 1
    · rw [habout]
      exact Nat.le_refl 1
    · rw [habout, List.filterMap_cons_none (begun?_closing token r)]
      exact Nat.le_refl 1
  have hsubset : underWay b.events ⊆ b.running.map fun t => t.cask.token := by
    intro token htoken
    obtain ⟨hbegun, hended⟩ := List.mem_filter.1 htoken
    obtain ⟨e, he, hetoken⟩ := List.mem_filterMap.1 hbegun
    have hmem := mem_about_of_begun he hetoken
    rcases h.cases token with habout | ⟨t, ht, htask, -⟩ | ⟨r, -, habout⟩
    · rw [habout] at hmem
      cases hmem
    · exact List.mem_map.2 ⟨t, ht, htask⟩
    · have hclosing : closing token r ∈ about token b.events := habout ▸ List.mem_cons_self
      have hclosed : token ∈ b.events.filterMap ended? :=
        List.mem_filterMap.2 ⟨_, (List.mem_filter.1 hclosing).1, ended?_closing token r⟩
      simp [hclosed] at hended
  have hlength := (List.subperm_of_subset (hnodup.filter _) hsubset).length_le
  rwa [List.length_map] at hlength

/-- At no moment so far have more checks been under way than there is room for. -/
structure Roomy (limit : Nat) (b : Batch) : Prop where
  running : b.running.length ≤ limit
  events : ∀ es, es <:+ b.events → (underWay es).length ≤ limit

/-- Nothing is under way at the beginning. -/
lemma roomy_ofCatalog (limit : Nat) (c : Catalog) : Roomy limit (ofCatalog c) := by
  refine ⟨Nat.zero_le limit, ?_⟩
  intro es hes
  rcases List.suffix_cons_iff.1 hes with rfl | hes
  · exact Nat.zero_le limit
  · obtain rfl := List.suffix_nil.1 hes
    exact Nat.zero_le limit

/-- The events so far leave room, and the news do as well. -/
lemma forall_suffix_cons {p : List ProgressEvent → Prop} {e : ProgressEvent}
    {es : List ProgressEvent} (h : ∀ fs, fs <:+ es → p fs) (he : p (e :: es)) :
    ∀ fs, fs <:+ e :: es → p fs := by
  intro fs hfs
  rcases List.suffix_cons_iff.1 hfs with rfl | hfs
  · exact he
  · exact h fs hfs

/-- No move begins a check for which there is no room. -/
lemma Roomy.move (hroomy : Roomy limit b) (h : Telling c b) (hmove : Move o f limit b b') :
    Roomy limit b' := by
  have hunderWay := h.length_underWay_le
  cases hmove with
  | @refuse before after m e hpending hroom hcask =>
    have hbegun : (underWay (.checking m.token :: b.events)).length ≤ limit :=
      (length_underWay_checking_le m.token b.events).trans (by omega)
    have hended := length_underWay_closing_le m.token (.error e) (.checking m.token :: b.events)
    exact ⟨hroomy.running,
      forall_suffix_cons (forall_suffix_cons hroomy.events hbegun) (hended.trans hbegun)⟩
  | @launch before after m cask time hpending hroom hcask =>
    have hbegun : (underWay (.checking m.token :: b.events)).length ≤ limit :=
      (length_underWay_checking_le m.token b.events).trans (by omega)
    refine ⟨?_, forall_suffix_cons hroomy.events hbegun⟩
    simp only [suspend, noteChecking, List.length_append, List.length_singleton]
    omega
  | @proceed before after t rest time hrunning hanswer =>
    refine ⟨?_, hroomy.events⟩
    have hrunning' := hroomy.running
    rw [hrunning] at hrunning'
    simp only [suspend, List.length_append, List.length_cons, List.length_nil] at hrunning' ⊢
    omega
  | @close before after t outcome hrunning hrest =>
    have hended := length_underWay_closing_le t.cask.token (.ok ⟨t.cask, outcome⟩) b.events
    have hrunning' := hroomy.running
    refine ⟨?_, forall_suffix_cons hroomy.events (hended.trans (by omega))⟩
    rw [hrunning] at hrunning'
    simp only [noteOutcome, List.length_append, List.length_cons] at hrunning' ⊢
    omega

/-- What holds at the beginning holds at every moment of a run. -/
lemma telling_of_moves (hc : c.Ordered)
    (h : Relation.ReflTransGen (Move o f limit) (ofCatalog c) b) :
    Telling c b ∧ Roomy limit b := by
  induction h with
  | refl => exact ⟨telling_ofCatalog c, roomy_ofCatalog limit c⟩
  | tail _ hmove ih => exact ⟨ih.1.move hc hmove, ih.2.move ih.1 hmove⟩

/-! ## The events of a finished batch -/

/-- In a finished batch each token of the catalog has its result. -/
lemma Telling.results (h : Telling c b) (hb : b.Finished) :
    (b.results.map Prod.fst).Perm (c.manifests.map Manifest.token) := by
  have htokens := h.tokens
  rw [accounts, hb.1, hb.2] at htokens
  simpa [Function.comp_def] using htokens

/-- In a finished batch the results in the order of the catalog are those that it has noted, one for
each token. -/
lemma Telling.inOrder (h : Telling c b) (hb : b.Finished) :
    (b.inOrder c).map Prod.fst = c.manifests.map Manifest.token ∧
      ∀ p ∈ b.inOrder c, p ∈ b.results := by
  have hresult : ∀ m ∈ c.manifests, ∃ r, b.resultOf? m.token = some r := by
    intro m hm
    have hmem : m.token ∈ b.results.map Prod.fst :=
      (h.results hb).mem_iff.2 (List.mem_map_of_mem hm)
    obtain ⟨p, hp, hpm⟩ := List.mem_map.1 hmem
    refine Option.ne_none_iff_exists'.1 fun hnone => ?_
    have hne := List.lookup_eq_none_iff.1 hnone p hp
    simp [hpm] at hne
  refine ⟨?_, ?_⟩
  · rw [Batch.inOrder, List.map_filterMap, ← List.filterMap_eq_map]
    refine List.filterMap_congr ?_
    intro m hm
    obtain ⟨r, hr⟩ := hresult m hm
    rw [hr]
    rfl
  · intro p hp
    obtain ⟨m, -, hr⟩ := List.mem_filterMap.1 hp
    obtain ⟨r, hlookup, rfl⟩ := Option.map_eq_some_iff.1 hr
    obtain ⟨newer, older, hsplit, -⟩ := List.lookup_eq_some_iff.1 hlookup
    rw [hsplit]
    exact List.mem_append_right _ List.mem_cons_self

/-- The events of a finished batch follow the protocol. -/
lemma Telling.protocol (h : Telling c b) (hroomy : Roomy limit b) (hb : b.Finished) :
    Protocol (c.manifests.map Manifest.token) limit (b.inOrder c) b.allEvents := by
  obtain ⟨hkeys, hresults⟩ := h.inOrder hb
  refine ⟨hkeys, ?_, ?_, ?_⟩
  · obtain ⟨es, hes, hall⟩ := h.framed
    have hlength : b.results.length = (c.manifests.map Manifest.token).length := by
      rw [← (h.results hb).length_eq, List.length_map]
    refine ⟨es.reverse, ?_, fun e he => hall e (List.mem_reverse.1 he)⟩
    rw [allEvents, hes, hlength]
    simp
  · intro p hp
    have haccount : (p.1, [closing p.1 p.2, .checking p.1]) ∈ b.accounts :=
      List.mem_append_left _ (List.mem_map_of_mem (hresults p hp))
    have htold : about p.1 (.summary b.results.length :: b.events) = _ := h.told _ haccount
    rw [allEvents, about_reverse, htold]
    rfl
  · intro es hes
    have hsuffix : es.reverse <:+ .summary b.results.length :: b.events := by
      rw [← List.reverse_prefix, List.reverse_reverse]
      exact hes
    have hsummary : (underWay (.summary b.results.length :: b.events)).length ≤ limit :=
      hroomy.events b.events (List.suffix_refl _)
    rw [← length_underWay_reverse]
    exact forall_suffix_cons hroomy.events hsummary _ hsuffix

/-- Whatever the number of checks at once, in whatever order they are begun, go on and come to their
ends, and whatever they are answered, the checks of a catalog, which is ordered as every one that is
built, do not stop before all are finished, and they are finished after some moves. At no moment are
more checks under way than may be at once. When all are finished, the events follow the protocol:
the phase, for each token that its check has begun and later its result, which is the one that the
batch gives, and the summary; so outcomes and failures are those among the results. The schedule by
the clock is one such run in every scripted world. -/
theorem events_follow_protocol (o : FetchOptions) (f : Facts) (c : Catalog) (hc : c.Ordered)
    (concurrency : Nat) :
    Acc (fun b' b => Move o f (max 1 concurrency) b b') (ofCatalog c) ∧
    (∀ b, Relation.ReflTransGen (Move o f (max 1 concurrency)) (ofCatalog c) b →
      (b.Finished ∨ ∃ b', Move o f (max 1 concurrency) b b') ∧
      (∀ es, es <+: b.events.reverse → (underWay es).length ≤ max 1 concurrency) ∧
      (b.Finished →
        Protocol (c.manifests.map Manifest.token) (max 1 concurrency) (b.inOrder c) b.allEvents ∧
        (∀ token o, .outcome token o ∈ b.allEvents ↔
          ∃ checked, (token, .ok checked) ∈ b.inOrder c ∧ checked.outcome = o) ∧
        ∀ token reason, .failed token reason ∈ b.allEvents ↔
          ∃ e, (token, .error e) ∈ b.inOrder c ∧ e.message = reason)) ∧
    ∀ w, Relation.ReflTransGen (Move o f (max 1 concurrency)) (ofCatalog c)
        (run o f concurrency c w).2 ∧ (run o f concurrency c w).2.Finished := by
  refine ⟨(leftWithin_ofCatalog o c).acc, ?_, moves_run o f concurrency c⟩
  intro b hmoves
  obtain ⟨htelling, hroomy⟩ := telling_of_moves hc hmoves
  refine ⟨?_, ?_, ?_⟩
  · by_cases hfinished : b.Finished
    · exact .inl hfinished
    · exact .inr (exists_move (Nat.le_max_left _ _) hfinished)
  · intro es hes
    rw [← length_underWay_reverse]
    exact hroomy.events _ (List.reverse_prefix.1 (by rwa [List.reverse_reverse]))
  · intro hfinished
    have hprotocol := htelling.protocol hroomy hfinished
    exact ⟨hprotocol, hprotocol.outcome_mem_iff, hprotocol.failed_mem_iff⟩

open Interleaving (unversioned withFeed) in
/-- While the feed of one token is under way, another token is begun and fails. -/
theorem events_follow_protocol_overtaken :
    let o : FetchOptions := ⟨.standard, 10⟩
    let f : Facts := .ofRelease .sierra
    let c := Catalog.collect [unversioned, withFeed]
    let w := World.start [("https://e/feed", [⟨5, .body []⟩])] none
    let b := (run o f 2 c w).2
    Protocol [withFeed.token, unversioned.token] 2 (b.inOrder c) b.allEvents ∧
      b.allEvents = [.phase "Checking", .checking withFeed.token, .checking unversioned.token,
        .failed unversioned.token
          (ResolveError.message ⟨unversioned.token, .missingField 0 .version⟩),
        .outcome withFeed.token (.unchanged (Checkpoint.fingerprint [])), .summary 2] := by
  intro o f c w b
  have hmanifests : c.manifests = [withFeed, unversioned] := by rfl
  obtain ⟨-, hruns, hclock⟩ := events_follow_protocol o f c (Catalog.ordered_collect _) 2
  obtain ⟨hmoves, hfinished⟩ := hclock w
  obtain ⟨hprotocol, -, -⟩ := ((hruns b hmoves).2.2) hfinished
  rw [hmanifests] at hprotocol
  exact ⟨hprotocol, by decide +kernel⟩

end Batch

end CaskAudit
