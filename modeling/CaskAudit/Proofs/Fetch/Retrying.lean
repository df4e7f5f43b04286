import CaskAudit.Proofs.Fetch.Conditions
import Mathlib.Data.List.Infix
import Mathlib.Data.List.Range

/-!
# Trying again

A URL is tried until an attempt settles the matter, by a body or by a failure that is final, or
until no attempt is left. The attempts and the waits between them make up a `course`, which
cancellation can only cut short. `EndsWith` says which attempt is the last of the course and what
becomes of it under every condition; `exists_endsWith` finds it by induction on the attempts that
are left.
-/

namespace CaskAudit

/-- A wait is no shorter after more failures. -/
lemma RetryPolicy.backoff_mono (p : RetryPolicy) {m n : Nat} (h : m ≤ n) :
    p.backoff m ≤ p.backoff n := by
  have hshift : min (m - 1) 32 ≤ min (n - 1) 32 := by omega
  have hdoubled :
      p.initialBackoffMs <<< min (m - 1) 32 ≤ p.initialBackoffMs <<< min (n - 1) 32 := by
    rw [Nat.shiftLeft_eq, Nat.shiftLeft_eq]
    exact Nat.mul_le_mul_left _ (Nat.pow_le_pow_right (by decide) hshift)
  unfold backoff
  omega

/-! ## Courses -/

/-- Whether an attempt came to a failure after which another one may succeed. -/
def failsForNow : FetchResult → Bool
  | .ok _ => false
  | .error e => e.isTransient

/-- An attempt after some failures and the wait that follows if it fails too. -/
def tryAndWait (p : RetryPolicy) (url : String) (failures : Nat) : List Activity :=
  [.attempt url, .pause (p.backoff (failures + 1))]

/-- The activities after some failures when a URL is tried once more, and then some times again. -/
def course (p : RetryPolicy) (url : String) : (failures : Nat) → (again : Nat) → List Activity
  | _, 0 => [.attempt url]
  | failures, again + 1 => tryAndWait p url failures ++ course p url (failures + 1) again

variable {c : Conditions} {o : FetchOptions} {p : RetryPolicy} {url : String}
  {begun : List Activity} {left failures again k t : Nat}

/-- There is one attempt more than there are waits. -/
lemma length_course (p : RetryPolicy) (url : String) (failures again : Nat) :
    (course p url failures again).length = 2 * again + 1 := by
  induction again generalizing failures with
  | zero => rfl
  | succ again ih =>
    rw [course, List.length_append, ih, tryAndWait]
    simp only [List.length_cons, List.length_nil]
    omega

/-- Only one URL is attempted in a course. -/
lemma urls_course (p : RetryPolicy) (url : String) (failures again : Nat) :
    (course p url failures again).filterMap Activity.url? = List.replicate (again + 1) url := by
  induction again generalizing failures with
  | zero => rfl
  | succ again ih =>
    rw [course, List.filterMap_append, ih]
    rfl

/-- Each wait of a course is the one that the policy has for the failures before it. -/
lemma waits_course (p : RetryPolicy) (url : String) (failures again : Nat) :
    (course p url failures again).filterMap Activity.ms? =
      (List.range' (failures + 1) again).map p.backoff := by
  induction again generalizing failures with
  | zero => rfl
  | succ again ih =>
    rw [course, List.filterMap_append, ih, List.range'_succ]
    rfl

/-- A course begins with an attempt. -/
lemma course_eq_cons (p : RetryPolicy) (url : String) (failures again : Nat) :
    ∃ rest, course p url failures again = [.attempt url] ++ rest := by
  cases again with
  | zero => exact ⟨[], rfl⟩
  | succ again => exact ⟨_, rfl⟩

/-! ## One attempt and the wait after it -/

/-- An attempt that is cancelled does not fail for now. -/
lemma failsForNow_attempt
    (h : failsForNow (c.answer o.timeoutMs url (begun.count (.attempt url))) = false) :
    failsForNow (c.attempt begun url o.timeoutMs).1 = false := by
  unfold Conditions.attempt
  split
  · rfl
  · split
    · rfl
    · exact h

/-- An attempt that does not fail for now is the last. -/
lemma runIn_of_settled (h : failsForNow (c.attempt begun url o.timeoutMs).1 = false) :
    (retryingAfter o url left failures).runIn c begun = c.attempt begun url o.timeoutMs := by
  cases left with
  | zero => rfl
  | succ left =>
    rw [retryingAfter, Process.runIn]
    generalize c.attempt begun url o.timeoutMs = reached at h
    obtain ⟨_ | e, begun'⟩ := reached
    · have he : FetchError.isTransient _ = false := h
      simp [he]
    · rfl

/-- After an attempt that fails for now there is a wait. -/
lemma runIn_of_failsForNow (hlate : c.cancelledBy (2 * begun.length + 1) = false)
    (h : failsForNow (c.answer o.timeoutMs url (begun.count (.attempt url))) = true) :
    (retryingAfter o url (left + 1) failures).runIn c begun =
      Process.runIn c (.wait (o.retry.backoff (failures + 1)) fun cut =>
        if cut then .done (.error .cancelled) else retryingAfter o url left (failures + 1))
        (begun ++ [.attempt url]) := by
  rw [retryingAfter, Process.runIn, Conditions.attempt_of_left hlate]
  rcases hanswer : c.answer o.timeoutMs url (begun.count (.attempt url)) with e | body
  · have he : e.isTransient = true := by simpa [hanswer, failsForNow] using h
    simp [hanswer, he]
  · simp [hanswer, failsForNow] at h

/-- An attempt that is cancelled is begun only if cancellation comes after the moment before it. -/
lemma attempt_of_cancelAt (ht : c.cancelAt = some t) (hle : t ≤ 2 * begun.length + 1) :
    c.attempt begun url o.timeoutMs =
      (.error .cancelled, begun ++ [Activity.attempt url].take ((t + 1) / 2 - begun.length)) := by
  by_cases hbefore : t ≤ 2 * begun.length
  · have hnone : (t + 1) / 2 - begun.length = 0 := by omega
    rw [Conditions.attempt_of_cancelled (Conditions.cancelledBy_eq_true_iff.2 ⟨t, ht, hbefore⟩),
      hnone, List.take_zero, List.append_nil]
  · have hone : (t + 1) / 2 - begun.length = 1 := by omega
    rw [Conditions.attempt_of_cut (Conditions.cancelledBy_eq_false_of_lt ht (by omega))
      (Conditions.cancelledBy_eq_true_iff.2 ⟨t, ht, hle⟩), hone]
    rfl

/-- Once an attempt that fails for now and the wait after it are over, the URL is tried again. -/
lemma runIn_tryAndWait (hlate : c.cancelledBy (2 * begun.length + 3) = false)
    (h : failsForNow (c.answer o.timeoutMs url (begun.count (.attempt url))) = true) :
    (retryingAfter o url (left + 1) failures).runIn c begun =
      (retryingAfter o url left (failures + 1)).runIn c
        (begun ++ tryAndWait o.retry url failures) := by
  have hlength : 2 * (begun ++ [Activity.attempt url]).length + 1 = 2 * begun.length + 3 := by
    rw [List.length_append, List.length_singleton]
    omega
  rw [runIn_of_failsForNow (Conditions.cancelledBy_of_ge hlate (by omega)) h, Process.runIn,
    Conditions.pause_of_not_cancelled (Conditions.cancelledBy_of_ge hlate (by omega)), hlength,
    hlate, List.append_assoc]
  rfl

/-- A wait that is cancelled is begun only if cancellation comes after the moment before it. -/
lemma runIn_of_cancelAt (ht : c.cancelAt = some t) (hgt : 2 * begun.length + 1 < t)
    (hle : t ≤ 2 * begun.length + 3)
    (h : failsForNow (c.answer o.timeoutMs url (begun.count (.attempt url))) = true) :
    (retryingAfter o url (left + 1) failures).runIn c begun =
      (.error .cancelled,
        begun ++ (tryAndWait o.retry url failures).take ((t + 1) / 2 - begun.length)) := by
  have hlength : (begun ++ [Activity.attempt url]).length = begun.length + 1 := by simp
  rw [runIn_of_failsForNow (Conditions.cancelledBy_eq_false_of_lt ht hgt) h, Process.runIn]
  by_cases hbefore : t ≤ 2 * begun.length + 2
  · have hone : (t + 1) / 2 - begun.length = 1 := by omega
    rw [Conditions.pause_of_cancelled
      (Conditions.cancelledBy_eq_true_iff.2 ⟨t, ht, by omega⟩), hone]
    rfl
  · have htwo : (t + 1) / 2 - begun.length = 2 := by omega
    rw [Conditions.pause_of_not_cancelled (Conditions.cancelledBy_eq_false_of_lt ht (by omega)),
      Conditions.cancelledBy_eq_true_iff.2 ⟨t, ht, by omega⟩, htwo, List.append_assoc]
    rfl

/-! ## A whole run -/

/-- How trying again ends after some activities: the attempt number `k` from there on is the
last. -/
structure EndsWith (c : Conditions) (o : FetchOptions) (url : String) (left failures : Nat)
    (begun : List Activity) (k : Nat) : Prop where
  /-- There is such an attempt. -/
  le : k ≤ left
  /-- Every attempt before it would fail for now. -/
  failed : ∀ j < k,
    failsForNow (c.answer o.timeoutMs url (begun.count (.attempt url) + j)) = true
  /-- If another attempt is left, then it settles the matter. -/
  settled : k < left →
    failsForNow (c.answer o.timeoutMs url (begun.count (.attempt url) + k)) = false
  /-- Without cancellation up to its end, the course is gone through, and its answer counts. -/
  answered : c.cancelledBy (2 * begun.length + (4 * k + 1)) = false →
    (retryingAfter o url left failures).runIn c begun =
      (c.answer o.timeoutMs url (begun.count (.attempt url) + k),
        begun ++ course o.retry url failures k)
  /-- Cancellation up to its end cuts the course short. -/
  cancelled : ∀ t, c.cancelAt = some t → t ≤ 2 * begun.length + (4 * k + 1) →
    (retryingAfter o url left failures).runIn c begun =
      (.error .cancelled,
        begun ++ (course o.retry url failures k).take ((t + 1) / 2 - begun.length))

/-- The first attempt is the last one if no other is left, or if it settles the matter. -/
lemma endsWith_zero
    (h : left = 0 ∨ failsForNow (c.answer o.timeoutMs url (begun.count (.attempt url))) = false) :
    EndsWith c o url left failures begun 0 := by
  have hlast : (retryingAfter o url left failures).runIn c begun =
      c.attempt begun url o.timeoutMs := by
    rcases h with rfl | hanswer
    · rfl
    · exact runIn_of_settled (failsForNow_attempt hanswer)
  refine ⟨Nat.zero_le _, by simp, ?_, ?_, ?_⟩
  · intro hpos
    rcases h with rfl | hanswer
    · omega
    · exact hanswer
  · intro hlate
    rw [hlast, Conditions.attempt_of_left hlate]
    rfl
  · intro t ht hle
    rw [hlast, attempt_of_cancelAt ht hle]
    rfl

/-- The last attempt after one that fails for now is the last of those that were left. -/
lemma EndsWith.succ
    (h : failsForNow (c.answer o.timeoutMs url (begun.count (.attempt url))) = true)
    (hrest : EndsWith c o url left (failures + 1) (begun ++ tryAndWait o.retry url failures) k) :
    EndsWith c o url (left + 1) failures begun (k + 1) := by
  have hcount : (begun ++ tryAndWait o.retry url failures).count (.attempt url) =
      begun.count (.attempt url) + 1 := by
    simp [tryAndWait]
  have hlength : (begun ++ tryAndWait o.retry url failures).length = begun.length + 2 := by
    simp [tryAndWait]
  obtain ⟨hle, hfailed, hsettled, hanswered, hcancelled⟩ := hrest
  rw [hcount] at hfailed hsettled hanswered
  rw [hlength] at hanswered hcancelled
  refine ⟨by omega, ?_, ?_, ?_, ?_⟩
  · intro j hj
    cases j with
    | zero => exact h
    | succ j =>
      rw [Nat.add_comm j, ← Nat.add_assoc]
      exact hfailed j (by omega)
  · intro hk
    rw [Nat.add_comm k, ← Nat.add_assoc]
    exact hsettled (by omega)
  · intro hlate
    have hrest := hanswered (Conditions.cancelledBy_of_ge hlate (by omega))
    rw [runIn_tryAndWait (Conditions.cancelledBy_of_ge hlate (by omega)) h, hrest, course,
      List.append_assoc, Nat.add_comm k, ← Nat.add_assoc]
  · intro t ht hle'
    by_cases hattempt : t ≤ 2 * begun.length + 1
    · have hcut : c.attempt begun url o.timeoutMs = _ := attempt_of_cancelAt ht hattempt
      obtain ⟨rest, hcourse⟩ := course_eq_cons o.retry url failures (k + 1)
      rw [runIn_of_settled (by rw [hcut]; rfl), hcut, hcourse,
        List.take_append_of_le_length (by rw [List.length_singleton]; omega)]
    · by_cases hwait : t ≤ 2 * begun.length + 3
      · rw [runIn_of_cancelAt ht (by omega) hwait h, course,
          List.take_append_of_le_length (by rw [tryAndWait, List.length_cons]; simp; omega)]
      · have hindex : (t + 1) / 2 - (begun.length + 2) = (t + 1) / 2 - begun.length - 2 := by omega
        have hwhole : (tryAndWait o.retry url failures).take ((t + 1) / 2 - begun.length) =
            tryAndWait o.retry url failures :=
          List.take_of_length_le (by
            simp only [tryAndWait, List.length_cons, List.length_nil]
            omega)
        have hrest := hcancelled t ht (by omega)
        rw [runIn_tryAndWait (Conditions.cancelledBy_eq_false_of_lt ht (by omega)) h, hrest]
        rw [hindex, course, List.take_append, hwhole, List.append_assoc]
        rfl

/-- Some attempt is the last. -/
lemma exists_endsWith (c : Conditions) (o : FetchOptions) (url : String) (left failures : Nat)
    (begun : List Activity) : ∃ k, EndsWith c o url left failures begun k := by
  induction left generalizing failures begun with
  | zero => exact ⟨0, endsWith_zero (.inl rfl)⟩
  | succ left ih =>
    cases h : failsForNow (c.answer o.timeoutMs url (begun.count (.attempt url))) with
    | false => exact ⟨0, endsWith_zero (.inr h)⟩
    | true =>
      obtain ⟨k, hk⟩ := ih (failures + 1) (begun ++ tryAndWait o.retry url failures)
      exact ⟨k + 1, hk.succ h⟩

/-! ## What is begun -/

/-- What is begun is the beginning of the course. -/
lemma EndsWith.exists_prefix (h : EndsWith c o url left failures [] k) :
    ((retryingAfter o url left failures).runIn c []).2 <+: course o.retry url failures k := by
  cases hlate : c.cancelledBy (4 * k + 1) with
  | false =>
    rw [h.answered (by simpa using hlate)]
    exact List.prefix_rfl
  | true =>
    obtain ⟨t, ht, hle⟩ := Conditions.cancelledBy_eq_true_iff.1 hlate
    rw [h.cancelled t ht (by simpa using hle)]
    exact List.take_prefix _ _

/-- Nothing is begun after cancellation. -/
lemma EndsWith.lt_of_cancelAt (h : EndsWith c o url left failures [] k) (ht : c.cancelAt = some t)
    {i : Nat} (hi : i < ((retryingAfter o url left failures).runIn c []).2.length) : 2 * i < t := by
  by_cases hle : t ≤ 4 * k + 1
  · rw [h.cancelled t ht (by simpa using hle)] at hi
    simp only [List.nil_append, List.length_nil, Nat.sub_zero, List.length_take] at hi
    omega
  · have hlate : c.cancelledBy (4 * k + 1) = false :=
      Conditions.cancelledBy_eq_false_of_lt ht (by omega)
    rw [h.answered (by simpa using hlate)] at hi
    simp only [List.nil_append, length_course] at hi
    omega

/-- Attempts of a part of a course are as many as it has room for. -/
lemma urls_of_prefix (h : begun <+: course p url failures again) :
    ∃ n ≤ again + 1, begun.filterMap Activity.url? = List.replicate n url := by
  have hurls : begun.filterMap Activity.url? <+: List.replicate (again + 1) url := by
    rw [← urls_course p url failures again]
    exact h.filterMap _
  obtain ⟨hlength, hall⟩ := List.prefix_replicate_iff.1 hurls
  exact ⟨_, hlength, hall⟩

/-- Waits in a part of a course are bounded, and none is shorter than one before it. -/
lemma waits_of_prefix (h : begun <+: course p url failures again) :
    (begun.filterMap Activity.ms?).Pairwise (· ≤ ·) ∧
      ∀ ms ∈ begun.filterMap Activity.ms?, ms ≤ p.maxBackoffMs := by
  have hwaits : (begun.filterMap Activity.ms?).Sublist
      ((List.range' (failures + 1) again).map p.backoff) := by
    rw [← waits_course p url failures again]
    exact (h.filterMap _).sublist
  refine ⟨List.Pairwise.sublist hwaits ?_, ?_⟩
  · rw [List.pairwise_map]
    exact (List.pairwise_le_range' _).imp fun hle => p.backoff_mono hle
  · intro ms hms
    obtain ⟨n, -, rfl⟩ := List.mem_map.1 (hwaits.subset hms)
    exact p.backoff_le_max n

/-- Under every condition, the last attempt of a run is the first that settles the matter, or the
last there is. Without cancellation up to its end the run comes to what it is answered, after a wait
for each failure before it; cancellation up to then ends the run at once. In no case does anything
begin after cancellation, and no wait is longer than the policy has it or shorter than the one
before. -/
theorem retrying_under_cancellation (c : Conditions) (o : FetchOptions) (url : String) :
    ∃ k result begun, (retrying o url).runIn c [] = (result, begun) ∧
      k < max 1 o.retry.maxAttempts ∧
      (∀ j < k, failsForNow (c.answer o.timeoutMs url j) = true) ∧
      (k + 1 < max 1 o.retry.maxAttempts → failsForNow (c.answer o.timeoutMs url k) = false) ∧
      (c.cancelledBy (4 * k + 1) = false →
        result = c.answer o.timeoutMs url k ∧ begun = course o.retry url 0 k) ∧
      (∀ t, c.cancelAt = some t → t ≤ 4 * k + 1 →
        result = .error .cancelled ∧ begun = (course o.retry url 0 k).take ((t + 1) / 2)) ∧
      (∀ t, c.cancelAt = some t → ∀ i < begun.length, 2 * i < t) ∧
      (∃ n ≤ max 1 o.retry.maxAttempts,
        begun.filterMap Activity.url? = List.replicate n url) ∧
      (begun.filterMap Activity.ms?).Pairwise (· ≤ ·) ∧
      ∀ ms ∈ begun.filterMap Activity.ms?, ms ≤ o.retry.maxBackoffMs := by
  obtain ⟨k, hk⟩ := exists_endsWith c o url (o.retry.attempts - 1) 0 []
  have hattempts : o.retry.attempts = max 1 o.retry.maxAttempts := Nat.max_comm _ _
  have hle : k + 1 ≤ max 1 o.retry.maxAttempts := by
    have := hk.le
    omega
  obtain ⟨n, hn, hurls⟩ := urls_of_prefix hk.exists_prefix
  obtain ⟨hsorted, hbounded⟩ := waits_of_prefix hk.exists_prefix
  refine ⟨k, _, _, rfl, hle, ?_, ?_, ?_, ?_, ?_, ⟨n, hn.trans hle, hurls⟩, hsorted, hbounded⟩
  · intro j hj
    simpa using hk.failed j hj
  · intro hlt
    simpa using hk.settled (by omega)
  · intro hlate
    have hrun := hk.answered (by simpa using hlate)
    rw [retrying, hrun]
    simp
  · intro t ht hle'
    have hrun := hk.cancelled t ht (by simpa using hle')
    rw [retrying, hrun]
    simp
  · intro t ht i hi
    exact hk.lt_of_cancelAt ht hi

/-- The URL of a feed. -/
def feedUrl : String := "https://e/appcast.xml"

/-- A server that is overloaded, then hangs, and then answers. -/
def recovering (url : String) (n : Nat) : Response :=
  match url, n with
  | "https://e/appcast.xml", 0 => ⟨5, .failure (.status 503)⟩
  | "https://e/appcast.xml", 1 => ⟨0, .silence⟩
  | "https://e/appcast.xml", _ => ⟨5, .body [0x3C]⟩
  | _, _ => ⟨0, .failure (.status 404)⟩

/-- The third attempt is answered after the waits that the policy has for two failures; cancellation
during the second wait leaves it at two attempts. -/
theorem retrying_under_cancellation_recovering :
    (retrying ⟨⟨4, 100, 150⟩, 10⟩ feedUrl).runIn ⟨recovering, none⟩ [] =
      (.ok [0x3C],
        [.attempt feedUrl, .pause 100, .attempt feedUrl, .pause 150, .attempt feedUrl]) ∧
    (retrying ⟨⟨4, 100, 150⟩, 10⟩ feedUrl).runIn ⟨recovering, some 7⟩ [] =
      (.error .cancelled,
        [.attempt feedUrl, .pause 100, .attempt feedUrl, .pause 150]) := by
  have hlast : ∀ k < 4,
      (∀ j < k, failsForNow (Conditions.answer ⟨recovering, none⟩ 10 feedUrl j) = true) →
      (k + 1 < 4 →
        failsForNow (Conditions.answer ⟨recovering, none⟩ 10 feedUrl k) = false) → k = 2 := by
    decide
  constructor
  · obtain ⟨k, result, begun, hrun, hlt, hfailed, hsettled, hanswered, -⟩ :=
      retrying_under_cancellation ⟨recovering, none⟩ ⟨⟨4, 100, 150⟩, 10⟩ feedUrl
    obtain rfl := hlast k hlt hfailed hsettled
    obtain ⟨rfl, rfl⟩ := hanswered rfl
    exact hrun
  · obtain ⟨k, result, begun, hrun, hlt, hfailed, hsettled, -, hcancelled, -⟩ :=
      retrying_under_cancellation ⟨recovering, some 7⟩ ⟨⟨4, 100, 150⟩, 10⟩ feedUrl
    obtain rfl := hlast k hlt hfailed hsettled
    obtain ⟨rfl, rfl⟩ := hcancelled 7 rfl (by decide)
    exact hrun

end CaskAudit
