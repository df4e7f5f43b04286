import CaskAudit.Proofs.Fetch.Conditions
import CaskAudit.Verification

/-!
# How much a verification asks

A process that has asked for something goes on in one of several ways, by what it is answered
(`Process.Answered`). For a verification the number of things that it asks for until its end is
bounded, whatever the answers are: by the attempts that the policy allows, the waits between them
and the inspection (`asksWithin_verify`).
-/

namespace CaskAudit

namespace Process

variable {α β : Type} {p q : Process α} {n k : Nat}

/-- A process goes on as another one when its request is answered in some way. -/
inductive Answered : Process α → Process α → Prop
  | fetch (url : String) (timeoutMs : Nat) (next : FetchResult → Process α) (r : FetchResult) :
      Answered (.fetch url timeoutMs next) (next r)
  | wait (ms : Nat) (next : Bool → Process α) (cut : Bool) : Answered (.wait ms next) (next cut)

/-- Only a process that is not done is answered. -/
lemma Answered.ne_done (h : Answered p q) (a : α) : p ≠ done a := by
  rintro rfl
  cases h

/-- Under any conditions a request of a process is answered in some way. -/
lemma answered_goOn (h : ∀ a, p ≠ done a) (c : Conditions) (begun : List Activity) :
    Answered p (goOn c begun p).1 := by
  cases p with
  | done a => exact absurd rfl (h a)
  | fetch url timeoutMs next => exact .fetch url timeoutMs next _
  | wait ms next => exact .wait ms next _

/-- A process that is not done can be answered. -/
lemma exists_answered (h : ∀ a, p ≠ done a) : ∃ q, Answered p q := by
  cases p with
  | done a => exact absurd rfl (h a)
  | fetch url timeoutMs next => exact ⟨_, .fetch url timeoutMs next (.error .timeout)⟩
  | wait ms next => exact ⟨_, .wait ms next true⟩

/-- A process asks for no more than a number of things, whatever the answers are. -/
inductive AsksWithin : Nat → Process α → Prop
  | done (n : Nat) (a : α) : AsksWithin n (.done a)
  | fetch {n : Nat} {url : String} {timeoutMs : Nat} {next : FetchResult → Process α}
      (h : ∀ r, AsksWithin n (next r)) : AsksWithin (n + 1) (.fetch url timeoutMs next)
  | wait {n : Nat} {ms : Nat} {next : Bool → Process α} (h : ∀ cut, AsksWithin n (next cut)) :
      AsksWithin (n + 1) (.wait ms next)

/-- A bound on what is asked may be raised. -/
lemma AsksWithin.mono (h : AsksWithin n p) (hle : n ≤ k) : AsksWithin k p := by
  induction h generalizing k with
  | done n a => exact .done k a
  | fetch _ ih =>
    obtain ⟨k, rfl⟩ := Nat.exists_eq_add_of_lt hle
    exact .fetch fun r => ih r (Nat.le_add_right _ _)
  | wait _ ih =>
    obtain ⟨k, rfl⟩ := Nat.exists_eq_add_of_lt hle
    exact .wait fun cut => ih cut (Nat.le_add_right _ _)

/-- An answer leaves less to ask. -/
lemma AsksWithin.answered (h : AsksWithin n p) (hq : Answered p q) :
    ∃ k, k + 1 = n ∧ AsksWithin k q := by
  cases hq with
  | fetch url timeoutMs next r =>
    cases h with
    | fetch h => exact ⟨_, rfl, h r⟩
  | wait ms next cut =>
    cases h with
    | wait h => exact ⟨_, rfl, h cut⟩

/-- Two processes one after the other ask for what each of them does. -/
lemma AsksWithin.bind {f : α → Process β} (h : AsksWithin n p) (hf : ∀ a, AsksWithin k (f a)) :
    AsksWithin (n + k) (p.bind f) := by
  induction h with
  | done n a => exact (hf a).mono (Nat.le_add_left _ _)
  | fetch _ ih =>
    rw [Nat.add_right_comm]
    exact .fetch ih
  | wait _ ih =>
    rw [Nat.add_right_comm]
    exact .wait ih

/-- A process whose result is changed asks for the same. -/
lemma AsksWithin.map (g : α → β) (h : AsksWithin n p) : AsksWithin n (p.map g) :=
  h.bind fun a => .done 0 (g a)

end Process

open Process (AsksWithin)

/-- With some tries left, a fetch asks for two things at each and one at the last, whatever the
answers are. -/
lemma asksWithin_retryingAfter (o : FetchOptions) (url : String) (left failures : Nat) :
    (retryingAfter o url left failures).AsksWithin (2 * left + 1) := by
  induction left generalizing failures with
  | zero => exact .fetch fun r => .done 0 r
  | succ left ih =>
    refine .fetch ?_
    rintro (e | body)
    · dsimp only
      split
      · refine .wait ?_
        rintro (- | -)
        · exact ih (failures + 1)
        · exact .done _ _
      · exact .done _ _
    · exact .done _ _

/-- An inspection asks for one thing at most. -/
lemma asksWithin_inspect (o : FetchOptions) (url : String) (body : List UInt8) :
    (inspect o url body).AsksWithin 1 := by
  refine .map _ ?_
  rw [readFeed]
  split
  · next listing _ => exact (asksWithin_retryingAfter _ listing 0 0).map _
  · exact .done _ _

/-- A verification asks for no more than each attempt, each wait between two of them and the
inspection. -/
lemma asksWithin_verify (o : FetchOptions) (feed : Option Feed.Reference) :
    (verify o feed).AsksWithin (2 * o.retry.attempts) := by
  have hpos : 1 ≤ o.retry.attempts := Nat.le_max_right _ _
  cases feed with
  | none => exact .done _ _
  | some r =>
    have hfetch : (retrying o r.url).AsksWithin (2 * (o.retry.attempts - 1) + 1) :=
      asksWithin_retryingAfter o r.url _ 0
    refine (hfetch.bind (k := 1) ?_).mono (by omega)
    rintro (e | body)
    · exact .done _ _
    · dsimp only
      split
      · exact .done _ _
      · exact (asksWithin_inspect o r.url body).map _

end CaskAudit
