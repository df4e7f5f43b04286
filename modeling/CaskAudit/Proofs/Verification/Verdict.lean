import CaskAudit.Proofs.Feed.Listing
import CaskAudit.Proofs.Fetch.Retrying
import CaskAudit.Verification

/-!
# What a verification depends on

The verdict on a feed follows from what its URL gives: from the failure to fetch it, or else from
the fingerprint of what was fetched. The inspection after a change adds a release to the outcome, or
none, and asks at most one other URL once. So `verify_by_fetched` compares any two conditions that
answer alike at the URL of the feed, whatever comes of the inspection in each.
-/

namespace CaskAudit

/-- An outcome without the release that inspection may have added. -/
def Outcome.verdict : Outcome → Outcome
  | changed recorded latest _ => changed recorded latest none
  | o => o

variable {c c' : Conditions} {o : FetchOptions} {url u : String} {begun : List Activity}
  {left failures : Nat} {r : Feed.Reference} {fetched : FetchResult}

/-! ## Fetching the feed -/

/-- Only the given URL is attempted when it is tried again. -/
lemma eq_of_attempt_mem (h : .attempt u ∈ ((retrying o url).runIn c []).2) : u = url := by
  obtain ⟨k, hk⟩ := exists_endsWith c o url (o.retry.attempts - 1) 0 []
  obtain ⟨n, -, hurls⟩ := urls_of_prefix hk.exists_prefix
  have hmem : u ∈ ((retrying o url).runIn c []).2.filterMap Activity.url? :=
    List.mem_filterMap.2 ⟨.attempt u, h, rfl⟩
  rw [retrying, hurls] at hmem
  exact List.eq_of_mem_replicate hmem

/-- What is cancelled depends only on the moment of cancellation. -/
lemma cancelledBy_congr (hcancel : c'.cancelAt = c.cancelAt) : c'.cancelledBy = c.cancelledBy := by
  funext moment
  rw [Conditions.cancelledBy, hcancel, Conditions.cancelledBy]

/-- An attempt comes to the same where the URL is answered alike and cancellation is the same. -/
lemma attempt_congr (hcancel : c'.cancelAt = c.cancelAt)
    (hsame : ∀ n, c'.respond url n = c.respond url n) (begun : List Activity) (timeoutMs : Nat) :
    c'.attempt begun url timeoutMs = c.attempt begun url timeoutMs := by
  have hanswer : ∀ n, c'.answer timeoutMs url n = c.answer timeoutMs url n := by
    intro n
    rw [Conditions.answer, hsame, Conditions.answer]
  rw [Conditions.attempt, cancelledBy_congr hcancel, hanswer, Conditions.attempt]

/-- A wait is the same where cancellation is the same. -/
lemma pause_congr (hcancel : c'.cancelAt = c.cancelAt) (begun : List Activity) (ms : Nat) :
    c'.pause begun ms = c.pause begun ms := by
  rw [Conditions.pause, cancelledBy_congr hcancel, Conditions.pause]

/-- Trying again comes to the same where the URL is answered alike and cancellation is the same. -/
lemma runIn_retryingAfter_congr (hcancel : c'.cancelAt = c.cancelAt)
    (hsame : ∀ n, c'.respond url n = c.respond url n) :
    (retryingAfter o url left failures).runIn c' begun =
      (retryingAfter o url left failures).runIn c begun := by
  induction left generalizing failures begun with
  | zero => exact attempt_congr hcancel hsame begun o.timeoutMs
  | succ left ih =>
    rw [retryingAfter, Process.runIn, Process.runIn, attempt_congr hcancel hsame]
    rcases (c.attempt begun url o.timeoutMs).1 with e | body
    · dsimp only
      split
      · rw [Process.runIn, Process.runIn, pause_congr hcancel]
        split
        · rfl
        · exact ih
      · rfl
    · rfl

/-! ## The inspection -/

/-- A single try at a URL begins it at most once. -/
lemma runIn_once (c : Conditions) (o : FetchOptions) (url : String) (begun : List Activity) :
    ((retrying { o with retry := .once } url).runIn c begun).2 = begun ∨
      ((retrying { o with retry := .once } url).runIn c begun).2 = begun ++ [.attempt url] := by
  have hone : (retrying { o with retry := .once } url).runIn c begun =
      c.attempt begun url o.timeoutMs := rfl
  rw [hone, Conditions.attempt]
  split
  · exact .inl rfl
  · split
    · exact .inr rfl
    · exact .inr rfl

/-- The inspection of a feed asks at most for the listing of its releases, once. -/
lemma runIn_inspect (c : Conditions) (o : FetchOptions) (url : String) (body : List UInt8)
    (begun : List Activity) :
    ((inspect o url body).runIn c begun).2 = begun ∨
      ∃ listing, Provider.guessByUrl url = (.github, listing) ∧
        ((inspect o url body).runIn c begun).2 = begun ++ [.attempt listing] := by
  rw [inspect, Process.runIn_map]
  dsimp only
  rw [readFeed]
  split
  · next listing hlisting =>
    rw [Process.runIn_map]
    rcases runIn_once c o listing begun with hnone | hone
    · exact .inl hnone
    · exact .inr ⟨listing, hlisting, hone⟩
  · exact .inl rfl

/-! ## The verdict -/

/-- The verdict on a feed by what the attempts at its URL come to. -/
def verdictOn (r : Feed.Reference) : FetchResult → Outcome
  | .error e => .unavailable (.ofFetchError e)
  | .ok body =>
    if Checkpoint.fingerprint body = r.checkpoint then .unchanged r.checkpoint
    else .changed r.checkpoint (Checkpoint.fingerprint body) none

/-- There is a verdict on every feed. -/
lemma verdictOn_ne_notApplicable : verdictOn r fetched ≠ .notApplicable := by
  rcases fetched with e | body
  · simp [verdictOn]
  · by_cases h : Checkpoint.fingerprint body = r.checkpoint <;> simp [verdictOn, h]

/-- A feed is unavailable if it could not be fetched. -/
lemma verdictOn_eq_unavailable_iff {reason : Unavailability} :
    verdictOn r fetched = .unavailable reason ↔
      ∃ e, fetched = .error e ∧ reason = .ofFetchError e := by
  rcases fetched with e | body
  · simp [verdictOn, eq_comm]
  · by_cases h : Checkpoint.fingerprint body = r.checkpoint <;> simp [verdictOn, h]

/-- A feed is unchanged if it has the fingerprint that is recorded. -/
lemma verdictOn_eq_unchanged_iff {d : Digest} :
    verdictOn r fetched = .unchanged d ↔
      ∃ body, fetched = .ok body ∧ Checkpoint.fingerprint body = r.checkpoint ∧
        d = r.checkpoint := by
  rcases fetched with e | body
  · simp [verdictOn]
  · by_cases h : Checkpoint.fingerprint body = r.checkpoint
    · simp only [verdictOn, h, if_true, Outcome.unchanged.injEq, Except.ok.injEq]
      constructor
      · rintro rfl
        exact ⟨body, rfl, h, rfl⟩
      · rintro ⟨-, -, -, rfl⟩
        rfl
    · simp [verdictOn, h]

/-- A feed is changed if it has another fingerprint. -/
lemma verdictOn_eq_changed_iff {recorded latest : Digest} :
    verdictOn r fetched = .changed recorded latest none ↔
      ∃ body, fetched = .ok body ∧ recorded = r.checkpoint ∧
        latest = Checkpoint.fingerprint body ∧ recorded ≠ latest := by
  rcases fetched with e | body
  · simp [verdictOn]
  · by_cases h : Checkpoint.fingerprint body = r.checkpoint
    · simp only [verdictOn, h, if_true, reduceCtorEq, false_iff]
      rintro ⟨_, ⟨⟩, rfl, rfl, hne⟩
      exact hne h.symm
    · simp only [verdictOn, h, if_false, Outcome.changed.injEq, and_true]
      constructor
      · rintro ⟨rfl, rfl⟩
        exact ⟨body, rfl, rfl, rfl, Ne.symm h⟩
      · rintro ⟨_, ⟨⟩, rfl, rfl, -⟩
        exact ⟨rfl, rfl⟩

namespace Outcome

/-- An outcome is one with its verdict where a feed is unavailable. -/
lemma verdict_eq_unavailable_iff {outcome : Outcome} {reason : Unavailability} :
    outcome.verdict = .unavailable reason ↔ outcome = .unavailable reason := by
  cases outcome <;> simp [verdict]

/-- An outcome is one with its verdict where a feed is unchanged. -/
lemma verdict_eq_unchanged_iff {outcome : Outcome} {d : Digest} :
    outcome.verdict = .unchanged d ↔ outcome = .unchanged d := by
  cases outcome <;> simp [verdict]

/-- The verdict that a feed is changed leaves out the release, so it says of an outcome only that
there may be one. -/
lemma verdict_eq_changed_iff {outcome : Outcome} {recorded latest : Digest} :
    outcome.verdict = .changed recorded latest none ↔
      ∃ release, outcome = .changed recorded latest release := by
  cases outcome <;> simp [verdict]

end Outcome

/-- A verification goes on after the attempts at the URL of the feed. -/
lemma runIn_verify (c : Conditions) (o : FetchOptions) (r : Feed.Reference) :
    (verify o (some r)).runIn c [] =
      match (retrying o r.url).runIn c [] with
      | (.error e, begun) => (.unavailable (.ofFetchError e), begun)
      | (.ok body, begun) =>
        if Checkpoint.fingerprint body = r.checkpoint then (.unchanged r.checkpoint, begun)
        else
          (.changed r.checkpoint (Checkpoint.fingerprint body)
              ((inspect o r.url body).runIn c begun).1,
            ((inspect o r.url body).runIn c begun).2) := by
  rw [verify, Process.runIn_bind]
  rcases (retrying o r.url).runIn c [] with ⟨e | body, begun⟩
  · rfl
  · dsimp only
    split
    · next hsame => rw [Process.runIn_done, hsame]
    · rw [Process.runIn_map]

/-- What was fetched decides the verdict. -/
lemma verdict_verify (c : Conditions) (o : FetchOptions) (r : Feed.Reference) :
    ((verify o (some r)).runIn c []).1.verdict =
      verdictOn r ((retrying o r.url).runIn c []).1 := by
  rw [runIn_verify]
  rcases (retrying o r.url).runIn c [] with ⟨e | body, begun⟩
  · rfl
  · dsimp only [verdictOn]
    split <;> rfl

/-- After the attempts at the URL of the feed, only the listing of the releases is asked for, once
and after a change. -/
lemma begun_verify {all : List Activity} {outcome : Outcome}
    (hfetched : (retrying o r.url).runIn c [] = (fetched, begun))
    (hrun : (verify o (some r)).runIn c [] = (outcome, all)) :
    all = begun ∨ ∃ body listing, fetched = .ok body ∧
      Checkpoint.fingerprint body ≠ r.checkpoint ∧
      Provider.guessByUrl r.url = (.github, listing) ∧ all = begun ++ [.attempt listing] := by
  rw [runIn_verify, hfetched] at hrun
  rcases fetched with e | body
  · exact .inl (congrArg Prod.snd hrun).symm
  · dsimp only at hrun
    split at hrun
    · exact .inl (congrArg Prod.snd hrun).symm
    · next hchanged =>
      have hall : ((inspect o r.url body).runIn c begun).2 = all := congrArg Prod.snd hrun
      rcases runIn_inspect c o r.url body begun with hnone | ⟨listing, hlisting, hone⟩
      · exact .inl (hall.symm.trans hnone)
      · exact .inr ⟨body, listing, rfl, hchanged, hlisting, hall.symm.trans hone⟩

/-- There is no verdict exactly if there is no feed. -/
lemma verify_eq_notApplicable_iff (c : Conditions) (o : FetchOptions)
    (feed : Option Feed.Reference) :
    ((verify o feed).runIn c []).1 = .notApplicable ↔ feed = none := by
  cases feed with
  | none => exact ⟨fun _ => rfl, fun _ => rfl⟩
  | some r =>
    have hverdict := verdict_verify c o r
    refine ⟨fun h => ?_, fun h => nomatch h⟩
    rw [h] at hverdict
    exact absurd hverdict.symm verdictOn_ne_notApplicable

/-- Only the URL of the feed is asked for until the feed is fetched. -/
lemma eq_of_mem_begun (hfetched : (retrying o r.url).runIn c [] = (fetched, begun)) {u : String}
    (hu : .attempt u ∈ begun) : u = r.url := by
  refine eq_of_attempt_mem (c := c) (o := o) ?_
  rwa [hfetched]

/-- The listing of the releases is asked for once at most. -/
lemma count_listing_le_one {all : List Activity} {outcome : Outcome} {listing : String}
    (hfetched : (retrying o r.url).runIn c [] = (fetched, begun))
    (hrun : (verify o (some r)).runIn c [] = (outcome, all))
    (hlisting : Provider.guessByUrl r.url = (.github, listing)) :
    all.count (.attempt listing) ≤ 1 := by
  have hnone : begun.count (.attempt listing) = 0 := by
    rw [List.count_eq_zero]
    exact fun hmem => Provider.listing_ne_url hlisting (eq_of_mem_begun hfetched hmem)
  rcases begun_verify hfetched hrun with rfl | ⟨-, listing', -, -, hlisting', rfl⟩
  · omega
  · rw [List.count_append, hnone, Nat.zero_add]
    exact List.count_le_length

/-- Without a feed there is no verdict and nothing is fetched. With one, the outcome is told by what
the attempts at its URL come to: unavailable for the reason of their failure, which is one of those
that the reason stands for, or else unchanged or changed as the fingerprint of the body is the
recorded checkpoint or another. Only after a change is anything else fetched, which is the listing
of the releases, once. So the verdict is the same under any conditions in which the feed is fetched
with the same result, and the feed is, where its URL is answered alike and cancellation comes at the
same moment. -/
theorem verify_by_fetched (o : FetchOptions) (c : Conditions) :
    (∀ feed, ((verify o feed).runIn c []).1 = .notApplicable ↔ feed = none) ∧
    ((verify o none).runIn c []).2 = [] ∧
    ∀ (r : Feed.Reference) (fetched : FetchResult) (outcome : Outcome)
      (begun all : List Activity), (retrying o r.url).runIn c [] = (fetched, begun) →
      (verify o (some r)).runIn c [] = (outcome, all) →
      (∀ reason, outcome = .unavailable reason ↔
        ∃ e, fetched = .error e ∧ reason = .ofFetchError e) ∧
      (∀ reason, outcome = .unavailable reason ↔ ∃ e ∈ reason.causes, fetched = .error e) ∧
      (∀ d, outcome = .unchanged d ↔
        ∃ body, fetched = .ok body ∧ Checkpoint.fingerprint body = r.checkpoint ∧
          d = r.checkpoint) ∧
      (∀ recorded latest, (∃ release, outcome = .changed recorded latest release) ↔
        ∃ body, fetched = .ok body ∧ recorded = r.checkpoint ∧
          latest = Checkpoint.fingerprint body ∧ recorded ≠ latest) ∧
      (∀ u, .attempt u ∈ begun → u = r.url) ∧
      (all = begun ∨ ∃ body listing, fetched = .ok body ∧
        Checkpoint.fingerprint body ≠ r.checkpoint ∧
        Provider.guessByUrl r.url = (.github, listing) ∧ all = begun ++ [.attempt listing]) ∧
      (∀ listing, Provider.guessByUrl r.url = (.github, listing) →
        all.count (.attempt listing) ≤ 1) ∧
      (∀ c', ((retrying o r.url).runIn c' []).1 = fetched →
        ((verify o (some r)).runIn c' []).1.verdict = outcome.verdict) ∧
      ∀ c' : Conditions, c'.cancelAt = c.cancelAt →
        (∀ n, c'.respond r.url n = c.respond r.url n) →
        ((verify o (some r)).runIn c' []).1.verdict = outcome.verdict := by
  refine ⟨verify_eq_notApplicable_iff c o, rfl, ?_⟩
  intro r fetched outcome begun all hfetched hrun
  have hverdict := verdict_verify c o r
  rw [hfetched, hrun] at hverdict
  have hunavailable : ∀ reason, outcome = .unavailable reason ↔
      ∃ e, fetched = .error e ∧ reason = .ofFetchError e := by
    intro reason
    rw [← Outcome.verdict_eq_unavailable_iff, hverdict]
    exact verdictOn_eq_unavailable_iff
  refine ⟨hunavailable, ?_, ?_, ?_, fun u hu => eq_of_mem_begun hfetched hu,
    begun_verify hfetched hrun, fun listing => count_listing_le_one hfetched hrun, ?_, ?_⟩
  · intro reason
    have hcauses : ∀ e, reason = .ofFetchError e ↔ e ∈ reason.causes := fun e =>
      eq_comm.trans Unavailability.ofFetchError_eq_iff
    simp only [hunavailable, hcauses, and_comm]
  · intro d
    rw [← Outcome.verdict_eq_unchanged_iff, hverdict]
    exact verdictOn_eq_unchanged_iff
  · intro recorded latest
    rw [← Outcome.verdict_eq_changed_iff, hverdict]
    exact verdictOn_eq_changed_iff
  · intro c' hsame
    rw [verdict_verify, hsame, hverdict]
  · intro c' hcancel hanswers
    have hsame : (retrying o r.url).runIn c' [] = (retrying o r.url).runIn c [] :=
      runIn_retryingAfter_congr hcancel hanswers
    rw [verdict_verify, hsame, hfetched, hverdict]

/-- A feed on GitHub that has changed, and whatever the listing of the releases is answered. -/
def changedFeed (listing : Response) (url : String) (_ : Nat) : Response :=
  if url = "https://github.com/o/r/releases.atom" then ⟨0, .body [0x3C]⟩ else listing

/-- A change is found, and the listing asked for once, whether the listing hangs, cancellation comes
before it is asked for, or it is answered by a failure. A feed that is not found is unavailable, for
that reason. -/
theorem verify_by_fetched_changedFeed :
    let r : Feed.Reference :=
      ⟨"https://github.com/o/r/releases.atom", Checkpoint.fingerprint []⟩
    let o : FetchOptions := ⟨.standard, 10⟩
    (∃ release, ((verify o (some r)).runIn ⟨changedFeed ⟨0, .silence⟩, none⟩ []).1 =
      .changed (Checkpoint.fingerprint []) (Checkpoint.fingerprint [0x3C]) release) ∧
    ((verify o (some r)).runIn ⟨changedFeed ⟨0, .silence⟩, none⟩ []).2.count
      (.attempt "https://api.github.com/repos/o/r/releases") ≤ 1 ∧
    ((verify o (some r)).runIn ⟨changedFeed ⟨0, .silence⟩, some 2⟩ []).1.verdict =
      ((verify o (some r)).runIn ⟨changedFeed ⟨0, .silence⟩, none⟩ []).1.verdict ∧
    ((verify o (some r)).runIn ⟨changedFeed ⟨5, .failure (.status 403)⟩, none⟩ []).1.verdict =
      ((verify o (some r)).runIn ⟨changedFeed ⟨0, .silence⟩, none⟩ []).1.verdict ∧
    ((verify o (some r)).runIn ⟨fun _ _ => ⟨5, .failure (.status 404)⟩, none⟩ []).1 =
      .unavailable (.status 404) := by
  intro r o
  obtain ⟨-, -, hfeed⟩ := verify_by_fetched o ⟨changedFeed ⟨0, .silence⟩, none⟩
  obtain ⟨-, -, hmissing⟩ := verify_by_fetched o ⟨fun _ _ => ⟨5, .failure (.status 404)⟩, none⟩
  have hchanged : Checkpoint.fingerprint [] ≠ Checkpoint.fingerprint [0x3C] := by decide +kernel
  have hlisting : Provider.guessByUrl r.url =
      (.github, "https://api.github.com/repos/o/r/releases") := by decide +kernel
  obtain ⟨-, -, -, hiff, -, -, hcount, hfetched, hanswers⟩ := hfeed r _ _ _ _ rfl rfl
  obtain ⟨-, hreason, -⟩ := hmissing r _ _ _ _ rfl rfl
  refine ⟨(hiff _ _).2 ⟨[0x3C], rfl, rfl, rfl, hchanged⟩, hcount _ hlisting, hfetched _ rfl, ?_, ?_⟩
  · exact hanswers _ rfl fun n => rfl
  · exact (hreason (.status 404)).2 ⟨.status 404, List.mem_singleton.2 rfl, rfl⟩

end CaskAudit
