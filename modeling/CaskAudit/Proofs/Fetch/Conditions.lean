import CaskAudit.Fetch.Scripted
import Mathlib.Data.List.Count

/-!
# Conditions of a run

What becomes of a process depends on how the attempts at each URL are answered and on the moment of
cancellation; `Conditions` are any choice of these. A moment is counted by what the process has
begun: between two activities there is one moment, and each activity takes one. So cancellation may
fire before a process starts, while an attempt is under way, during a wait, between the two, or
never.

Cancellation is looked at before anything else. When it has fired, nothing is begun any more, and
what is under way then is cut short, whatever it would have come to.
-/

namespace CaskAudit

/-- Something that a process begins. -/
inductive Activity where
  | attempt (url : String)
  | pause (ms : Nat)
  deriving DecidableEq, Repr

namespace Activity

/-- The URL that is attempted. -/
def url? : Activity → Option String
  | attempt url => some url
  | pause _ => none

/-- The length of a wait. -/
def ms? : Activity → Option Nat
  | attempt _ => none
  | pause ms => some ms

end Activity

/-- How every attempt is answered, and when everything is cancelled. -/
structure Conditions where
  /-- The response to an attempt at a URL; the attempts at each URL are numbered from zero. -/
  respond : String → Nat → Response
  /-- The moment of cancellation, if there is one. Moment `2 * n` is the one before the activity
  number `n` begins, and moment `2 * n + 1` is while it is under way. -/
  cancelAt : Option Nat

namespace Conditions

variable {c : Conditions} {begun : List Activity} {url : String} {timeoutMs ms moment n : Nat}

/-- Whether everything has been cancelled by a moment. -/
def cancelledBy (c : Conditions) (moment : Nat) : Bool := c.cancelAt.any (· ≤ moment)

/-- What an attempt comes to that is not cancelled. -/
def answer (c : Conditions) (timeoutMs : Nat) (url : String) (n : Nat) : FetchResult :=
  ((c.respond url n).outcome 0 timeoutMs).2

/-- Makes an attempt at a URL after some activities: what it comes to, and what has been begun
then. -/
def attempt (c : Conditions) (begun : List Activity) (url : String) (timeoutMs : Nat) :
    FetchResult × List Activity :=
  if c.cancelledBy (2 * begun.length) then (.error .cancelled, begun)
  else if c.cancelledBy (2 * begun.length + 1) then
    (.error .cancelled, begun ++ [.attempt url])
  else (c.answer timeoutMs url (begun.count (.attempt url)), begun ++ [.attempt url])

/-- Waits after some activities: whether the wait is cut short, and what has been begun then. -/
def pause (c : Conditions) (begun : List Activity) (ms : Nat) : Bool × List Activity :=
  if c.cancelledBy (2 * begun.length) then (true, begun)
  else (c.cancelledBy (2 * begun.length + 1), begun ++ [.pause ms])

/-- Cancellation has come if its moment has. -/
lemma cancelledBy_eq_true_iff :
    c.cancelledBy moment = true ↔ ∃ t, c.cancelAt = some t ∧ t ≤ moment := by
  rw [cancelledBy, Option.any_eq_true]
  simp

/-- What is cancelled stays cancelled. -/
lemma cancelledBy_of_le {later : Nat} (h : c.cancelledBy moment = true) (hle : moment ≤ later) :
    c.cancelledBy later = true := by
  obtain ⟨t, ht, hmoment⟩ := cancelledBy_eq_true_iff.1 h
  exact cancelledBy_eq_true_iff.2 ⟨t, ht, Nat.le_trans hmoment hle⟩

/-- Nothing has been cancelled before it is. -/
lemma cancelledBy_of_ge {later : Nat} (h : c.cancelledBy later = false) (hle : moment ≤ later) :
    c.cancelledBy moment = false := by
  by_contra hne
  have hlater : c.cancelledBy later = true := cancelledBy_of_le (eq_true_of_ne_false hne) hle
  rw [h] at hlater
  cases hlater

/-- Cancellation has not come if its moment is later. -/
lemma cancelledBy_eq_false_iff :
    c.cancelledBy moment = false ↔ ∀ t, c.cancelAt = some t → moment < t := by
  rw [← Bool.not_eq_true, cancelledBy_eq_true_iff]
  simp

/-- Nothing is cancelled before the moment of cancellation. -/
lemma cancelledBy_eq_false_of_lt {t : Nat} (ht : c.cancelAt = some t) (hlt : moment < t) :
    c.cancelledBy moment = false := by
  rw [cancelledBy_eq_false_iff, ht]
  rintro _ ⟨⟩
  exact hlt

/-- Nothing is cancelled without a moment of cancellation. -/
lemma cancelledBy_eq_false (h : c.cancelAt = none) (moment : Nat) :
    c.cancelledBy moment = false := by
  rw [cancelledBy_eq_false_iff, h]
  exact fun _ ht => nomatch ht

/-- No attempt is begun after cancellation. -/
lemma attempt_of_cancelled (h : c.cancelledBy (2 * begun.length) = true) :
    c.attempt begun url timeoutMs = (.error .cancelled, begun) := by
  rw [attempt, if_pos h]

/-- An attempt that is under way ends with cancellation. -/
lemma attempt_of_cut (h : c.cancelledBy (2 * begun.length) = false)
    (hcut : c.cancelledBy (2 * begun.length + 1) = true) :
    c.attempt begun url timeoutMs = (.error .cancelled, begun ++ [.attempt url]) := by
  rw [attempt, if_neg (by simp [h]), if_pos hcut]

/-- An attempt that is not cancelled is answered. -/
lemma attempt_of_left (h : c.cancelledBy (2 * begun.length + 1) = false) :
    c.attempt begun url timeoutMs =
      (c.answer timeoutMs url (begun.count (.attempt url)), begun ++ [.attempt url]) := by
  have hbefore : c.cancelledBy (2 * begun.length) = false := cancelledBy_of_ge h (Nat.le_succ _)
  rw [attempt, if_neg (by simp [hbefore]), if_neg (by simp [h])]

/-- No wait is begun after cancellation. -/
lemma pause_of_cancelled (h : c.cancelledBy (2 * begun.length) = true) :
    c.pause begun ms = (true, begun) := by
  rw [pause, if_pos h]

/-- A wait that is under way ends with cancellation. -/
lemma pause_of_not_cancelled (h : c.cancelledBy (2 * begun.length) = false) :
    c.pause begun ms = (c.cancelledBy (2 * begun.length + 1), begun ++ [.pause ms]) := by
  rw [pause, if_neg (by simp [h])]

end Conditions

namespace Process

variable {α β : Type} {c : Conditions} {begun : List Activity}

/-- Lets a process go on after some activities by what it asks for next: the process that is left,
and what has been begun then. -/
def goOn (c : Conditions) (begun : List Activity) : Process α → Process α × List Activity
  | done a => (done a, begun)
  | fetch url timeoutMs next =>
    (next (c.attempt begun url timeoutMs).1, (c.attempt begun url timeoutMs).2)
  | wait ms next => (next (c.pause begun ms).1, (c.pause begun ms).2)

/-- Runs a process to its end after some activities: its result, and what has been begun then. -/
def runIn (c : Conditions) : Process α → List Activity → α × List Activity
  | done a, begun => (a, begun)
  | fetch url timeoutMs next, begun =>
    runIn c (next (c.attempt begun url timeoutMs).1) (c.attempt begun url timeoutMs).2
  | wait ms next, begun => runIn c (next (c.pause begun ms).1) (c.pause begun ms).2

/-- A finished process begins nothing. -/
@[simp]
lemma runIn_done (a : α) : runIn c (done a) begun = (a, begun) := rfl

/-- A process that has gone on comes to the same. -/
lemma runIn_goOn (p : Process α) :
    runIn c (goOn c begun p).1 (goOn c begun p).2 = runIn c p begun := by
  cases p <;> rfl

/-- Two processes one after the other run one after the other. -/
lemma runIn_bind (p : Process α) (f : α → Process β) (begun : List Activity) :
    runIn c (p.bind f) begun = runIn c (f (runIn c p begun).1) (runIn c p begun).2 := by
  induction p generalizing begun with
  | done a => rfl
  | fetch url timeoutMs next ih => exact ih _ _
  | wait ms next ih => exact ih _ _

/-- A process whose result is changed begins the same. -/
lemma runIn_map (g : α → β) (p : Process α) (begun : List Activity) :
    runIn c (p.map g) begun = (g (runIn c p begun).1, (runIn c p begun).2) :=
  runIn_bind p _ begun

end Process

end CaskAudit
