import CaskAudit.Fetch.Basic
import CaskAudit.Settings.Retry

/-!
# Fetching processes

A process is a computation that now and then asks its surroundings for something: to fetch a URL
once, or to let some time pass. What the surroundings answer is up to them, so a statement about
all answers is one about every server, every clock and every moment of cancellation.
`retrying` is the process that tries a fetch as often as a policy allows.
-/

namespace CaskAudit

/-- What a fetch gives: the bytes of the body, or why there are none. -/
abbrev FetchResult := Except FetchError (List UInt8)

/-- A computation with requests to its surroundings. -/
inductive Process (α : Type) where
  /-- Nothing is left to ask. -/
  | done (a : α)
  /-- Asks for a URL, with a time in milliseconds after which the answer no longer counts. -/
  | fetch (url : String) (timeoutMs : Nat) (next : FetchResult → Process α)
  /-- Asks for a wait in milliseconds; the answer is whether it was cut short by cancellation. -/
  | wait (ms : Nat) (next : Bool → Process α)

namespace Process

/-- A process that goes on with the result of another. -/
def bind {α β : Type} : Process α → (α → Process β) → Process β
  | done a, f => f a
  | fetch url timeoutMs next, f => fetch url timeoutMs fun r => (next r).bind f
  | wait ms next, f => wait ms fun cut => (next cut).bind f

/-- A process whose result is changed. -/
def map {α β : Type} (f : α → β) (p : Process α) : Process β := p.bind fun a => done (f a)

/-- Nothing is asked before the result of a finished process is used. -/
@[simp] theorem bind_done {α β : Type} (a : α) (f : α → Process β) : (done a).bind f = f a := rfl

/-- Going on with a finished process changes nothing. -/
theorem bind_done_right {α : Type} (p : Process α) : p.bind done = p := by
  induction p with
  | done a => rfl
  | fetch url timeoutMs next ih => simp only [bind]; congr 1; funext r; exact ih r
  | wait ms next ih => simp only [bind]; congr 1; funext r; exact ih r

/-- Going on twice is going on with both steps. -/
theorem bind_assoc {α β γ : Type} (p : Process α) (f : α → Process β) (g : β → Process γ) :
    (p.bind f).bind g = p.bind fun a => (f a).bind g := by
  induction p with
  | done a => rfl
  | fetch url timeoutMs next ih => simp only [bind]; congr 1; funext r; exact ih r
  | wait ms next ih => simp only [bind]; congr 1; funext r; exact ih r

end Process

/-- What a request is made with: the policy for trying again and the time for one answer. -/
structure FetchOptions where
  retry : RetryPolicy
  timeoutMs : Nat
  deriving DecidableEq, Repr, Inhabited

/-- Fetches a URL after a number of failures, with some tries left beside the next one. -/
def retryingAfter (o : FetchOptions) (url : String) :
    (left : Nat) → (failures : Nat) → Process FetchResult
  | 0, _ => .fetch url o.timeoutMs .done
  | left + 1, failures =>
    .fetch url o.timeoutMs fun
      | .ok body => .done (.ok body)
      | .error e =>
        if e.isTransient then
          .wait (o.retry.backoff (failures + 1)) fun cut =>
            if cut then .done (.error .cancelled) else retryingAfter o url left (failures + 1)
        else .done (.error e)

/-- Fetches a URL, and again after each transient failure, as often as the policy allows. -/
def retrying (o : FetchOptions) (url : String) : Process FetchResult :=
  retryingAfter o url (o.retry.attempts - 1) 0

end CaskAudit
