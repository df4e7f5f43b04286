import CaskAudit.Catalog
import CaskAudit.Verification

/-!
# Checking a catalog

Every manifest of a catalog is resolved for one host and verified, several at a time. A batch holds
the manifests that have not been begun, those that are under way and the results so far, and tells
its progress by events. A manifest that cannot be resolved does not keep the others from being
checked.
-/

namespace CaskAudit

/-- A resolved cask with the outcome of its verification. -/
structure CheckedCask where
  cask : ResolvedCask
  outcome : Outcome
  deriving DecidableEq, Repr

/-- What the check of a manifest gives. -/
abbrev CheckResult := Except ResolveError CheckedCask

/-- What is told while a batch is under way. -/
inductive ProgressEvent where
  | phase (title : String)
  | checking (token : Token)
  | outcome (token : Token) (o : Outcome)
  | failed (token : Token) (reason : String)
  | summary (count : Nat)
  deriving DecidableEq, Repr

/-- A verification under way, which goes on at a time. -/
structure Batch.Task where
  cask : ResolvedCask
  resumeAt : Nat
  rest : Process Outcome

/-- A batch under way. Running tasks come in the order in which they last went on; results and
events come newest first. -/
structure Batch where
  pending : List Manifest
  running : List Batch.Task
  results : List (Token × CheckResult)
  events : List ProgressEvent

namespace Batch

/-- The batch of a catalog before anything has been begun. -/
def ofCatalog (c : Catalog) : Batch := ⟨c.manifests, [], [], [.phase "Checking"]⟩

/-- Notes that a manifest has been begun. -/
def noteChecking (b : Batch) (token : Token) : Batch :=
  { b with events := .checking token :: b.events }

/-- Notes that a manifest could not be resolved. -/
def noteFailure (b : Batch) (token : Token) (e : ResolveError) : Batch :=
  { b with
    results := (token, .error e) :: b.results
    events := .failed token e.message :: b.events }

/-- Notes the outcome of a verification. -/
def noteOutcome (b : Batch) (cask : ResolvedCask) (o : Outcome) : Batch :=
  { b with
    results := (cask.token, .ok ⟨cask, o⟩) :: b.results
    events := .outcome cask.token o :: b.events }

/-- Puts a task that has to wait behind the others. -/
def suspend (b : Batch) (cask : ResolvedCask) (time : Nat) (rest : Process Outcome) : Batch :=
  { b with running := b.running ++ [⟨cask, time, rest⟩] }

/-- The task that goes on first, the earlier in the list where two go on together, and the tasks
beside it. -/
def earliest? : List Task → Option (Task × List Task)
  | [] => none
  | t :: ts =>
    match earliest? ts with
    | none => some (t, [])
    | some (u, us) => if t.resumeAt ≤ u.resumeAt then some (t, ts) else some (u, t :: us)

/-- The result of a token. -/
def resultOf? (b : Batch) (token : Token) : Option CheckResult := b.results.lookup token

/-- The events of a finished batch, in order of occurrence. -/
def allEvents (b : Batch) : List ProgressEvent :=
  (ProgressEvent.summary b.results.length :: b.events).reverse

end Batch

end CaskAudit
