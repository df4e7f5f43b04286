import CaskAudit.Batch.Basic
import CaskAudit.Fetch.Scripted

/-!
# Batches in scripted surroundings

Runs a batch where every answer is scripted. A task that can go on does so before a new one is
begun, and a new one is begun before any time passes, as long as there is room.
-/

namespace CaskAudit.Batch

/-- Lets a verification go on for as long as no time passes. -/
def advance (w : World) (b : Batch) (cask : ResolvedCask) (p : Process Outcome) : World × Batch :=
  match w.runNow p with
  | (.over o, w') => (w', b.noteOutcome cask o)
  | (.later time rest, w') => (w', b.suspend cask time rest)

/-- Begins the check of a manifest. -/
def launch (o : FetchOptions) (f : Facts) (w : World) (b : Batch) (m : Manifest) : World × Batch :=
  let b := b.noteChecking m.token
  match m.resolve f with
  | .error e => (w, b.noteFailure m.token e)
  | .ok cask => advance w b cask (verify o cask.appcast)

/-- Lets a running task go on, at its time or at once if that has passed. -/
def resume (w : World) (b : Batch) (t : Task) (others : List Task) : World × Batch :=
  advance { w with now := max w.now t.resumeAt } { b with running := others } t.cask t.rest

/-- One step of a batch with room for `limit` tasks, unless it is finished. -/
def step? (o : FetchOptions) (f : Facts) (limit : Nat) (w : World) (b : Batch) :
    Option (World × Batch) :=
  match earliest? b.running, b.pending with
  | none, [] => none
  | none, m :: ms => some (launch o f w { b with pending := ms } m)
  | some (t, others), [] => some (resume w b t others)
  | some (t, others), m :: ms =>
    if w.now < t.resumeAt ∧ b.running.length < limit then
      some (launch o f w { b with pending := ms } m)
    else some (resume w b t others)

/-- At most a number of steps of a batch. -/
def steps (o : FetchOptions) (f : Facts) (limit : Nat) : Nat → World → Batch → World × Batch
  | 0, w, b => (w, b)
  | n + 1, w, b =>
    match step? o f limit w b with
    | none => (w, b)
    | some (w', b') => steps o f limit n w' b'

/-- A number of steps that is enough for a catalog: a task goes on at most once after each try, each
wait between two tries and the inspection. -/
def enough (o : FetchOptions) (c : Catalog) : Nat := c.size * (2 * o.retry.attempts + 4)

/-- Checks a catalog with room for `concurrency` tasks, and for one at least. -/
def run (o : FetchOptions) (f : Facts) (concurrency : Nat) (c : Catalog) (w : World) :
    World × Batch :=
  steps o f (max 1 concurrency) (enough o c) w (ofCatalog c)

/-- The results of a batch in the order of a catalog. -/
def inOrder (b : Batch) (c : Catalog) : List (Token × CheckResult) :=
  c.manifests.filterMap fun m => (b.resultOf? m.token).map (m.token, ·)

/-- The results of a batch in the order of a catalog, each without the cask it is about. -/
def outcomesInOrder (b : Batch) (c : Catalog) : List (Token × Except ResolveError Outcome) :=
  (b.inOrder c).map fun (token, result) => (token, result.map CheckedCask.outcome)

end CaskAudit.Batch
