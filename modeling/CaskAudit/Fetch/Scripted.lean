import CaskAudit.Fetch.Process

/-!
# Scripted surroundings

Surroundings in which every answer is known beforehand: each URL has a list of responses, of which
the last is repeated for ever, and time passes only while a process waits. A fetch that is still
unanswered when its time is over has timed out; from the moment of cancellation on nothing is
fetched and every wait is cut short.
-/

namespace CaskAudit

/-- What a scripted server answers. -/
inductive Reply where
  | body (bytes : List UInt8)
  | failure (e : FetchError)
  /-- No answer at all. -/
  | silence
  deriving DecidableEq, Repr, Inhabited

/-- A reply that is given after some milliseconds. -/
structure Response where
  delayMs : Nat
  reply : Reply
  deriving DecidableEq, Repr, Inhabited

/-- When a response is through, and what it is worth then, for a fetch that begins at a time. -/
def Response.outcome (r : Response) (now timeoutMs : Nat) : Nat × FetchResult :=
  match r.reply with
  | .silence => (now + timeoutMs, .error .timeout)
  | .body bytes =>
    if r.delayMs ≤ timeoutMs then (now + r.delayMs, .ok bytes)
    else (now + timeoutMs, .error .timeout)
  | .failure e =>
    if r.delayMs ≤ timeoutMs then (now + r.delayMs, .error e)
    else (now + timeoutMs, .error .timeout)

/-- A world in which the answers are scripted. -/
structure World where
  /-- The time in milliseconds. -/
  now : Nat
  /-- When everything is cancelled, if ever. -/
  cancelAt : Option Nat
  /-- The responses to come for each URL. -/
  scripts : List (String × List Response)
  /-- The response of a URL without a script. -/
  otherwise : String → Response
  /-- The times of the fetches so far with their URLs, newest first. -/
  calls : List (Nat × String)

namespace World

/-- A world at its beginning, in which a URL without a script is not found. -/
def start (scripts : List (String × List Response)) (cancelAt : Option Nat) : World :=
  ⟨0, cancelAt, scripts, fun _ => ⟨0, .failure (.status 404)⟩, []⟩

/-- The next response for a URL, and the scripts that are left. -/
def takeResponse (otherwise : Response) (url : String) :
    List (String × List Response) → Response × List (String × List Response)
  | [] => (otherwise, [])
  | (u, responses) :: scripts =>
    if u = url then
      match responses with
      | [] => (otherwise, (u, []) :: scripts)
      | [r] => (r, (u, [r]) :: scripts)
      | r :: rest => (r, (u, rest) :: scripts)
    else
      let (r, left) := takeResponse otherwise url scripts
      (r, (u, responses) :: left)

/-- Whether everything has been cancelled at a time. -/
def cancelledBy (w : World) (time : Nat) : Bool :=
  match w.cancelAt with
  | some t => t ≤ time
  | none => false

/-- The time of cancellation, or a given one if there is none. -/
def cancelTimeOr (w : World) (time : Nat) : Nat := w.cancelAt.getD time

/-- Begins a fetch: when its result is there, the result, and the world after the call. -/
def beginFetch (w : World) (url : String) (timeoutMs : Nat) : Nat × FetchResult × World :=
  if w.cancelledBy w.now then (w.now, .error .cancelled, w)
  else
    let (r, scripts) := takeResponse (w.otherwise url) url w.scripts
    let (time, result) := r.outcome w.now timeoutMs
    let w' := { w with scripts := scripts, calls := (w.now, url) :: w.calls }
    if w.cancelledBy time then (w.cancelTimeOr time, .error .cancelled, w') else (time, result, w')

/-- Begins a wait: when it is over, and whether it was cut short. -/
def beginWait (w : World) (ms : Nat) : Nat × Bool :=
  if w.cancelledBy w.now then (w.now, true)
  else if w.cancelledBy (w.now + ms) then (w.cancelTimeOr (w.now + ms), true)
  else (w.now + ms, false)

/-- Runs a process by itself to its end. -/
def run {α : Type} : Process α → World → α × World
  | .done a, w => (a, w)
  | .fetch url timeoutMs next, w =>
    let (time, result, w') := w.beginFetch url timeoutMs
    run (next result) { w' with now := time }
  | .wait ms next, w =>
    let (time, cut) := w.beginWait ms
    run (next cut) { w with now := time }

/-- A process that is over, or that goes on at a time. -/
inductive Pausing (α : Type) where
  | over (a : α)
  | later (time : Nat) (rest : Process α)

/-- Runs a process for as long as no time passes. -/
def runNow {α : Type} : Process α → World → Pausing α × World
  | .done a, w => (.over a, w)
  | .fetch url timeoutMs next, w =>
    let (time, result, w') := w.beginFetch url timeoutMs
    if time = w.now then runNow (next result) w' else (.later time (next result), w')
  | .wait ms next, w =>
    let (time, cut) := w.beginWait ms
    if time = w.now then runNow (next cut) w else (.later time (next cut), w)

end World

end CaskAudit
