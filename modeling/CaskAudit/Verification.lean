import CaskAudit.Checkpoint
import CaskAudit.Feed.Provider
import CaskAudit.Fetch.Process
import CaskAudit.Resolution

/-!
# Verification

A feed is verified by fetching it and comparing its checkpoint with the recorded one. Where they
differ, the feed is inspected for the release it now advertises; whether that succeeds has no
influence on the verdict. Nothing is ever written back to a manifest.
-/

namespace CaskAudit

/-- Why a feed could not be verified. -/
inductive Unavailability where
  | timeout
  | cancelled
  | network (message : String)
  | status (code : Nat)
  deriving DecidableEq, Repr

namespace Unavailability

/-- The reason that a failed fetch gives. -/
def ofFetchError : FetchError → Unavailability
  | .timeout => timeout
  | .cancelled => cancelled
  | .connect message => network message
  | .status code => status code
  | .request message => network message

/-- The failures of a fetch that a reason stands for. -/
def causes : Unavailability → List FetchError
  | timeout => [.timeout]
  | cancelled => [.cancelled]
  | network message => [.connect message, .request message]
  | status code => [.status code]

/-- A reason is given by the failures that it stands for and no others: a status keeps its code, and
only failures of the network are not told apart. -/
theorem ofFetchError_eq_iff {e : FetchError} {reason : Unavailability} :
    ofFetchError e = reason ↔ e ∈ reason.causes := by
  cases e <;> cases reason <;> simp [ofFetchError, causes]

/-- A reason in words. -/
def describe : Unavailability → String
  | timeout => "timed out"
  | cancelled => "cancelled"
  | network message => s!"network error: {message}"
  | status code => s!"HTTP {code}"

end Unavailability

/-- What the verification of a feed has found. -/
inductive Outcome where
  /-- There is no feed. -/
  | notApplicable
  | unchanged (checkpoint : Digest)
  | changed (recorded latest : Digest) (release : Option FeedEntry)
  | unavailable (reason : Unavailability)
  deriving DecidableEq, Repr

namespace Outcome

/-- Whether a feed has other contents than recorded. -/
def isChanged : Outcome → Bool
  | changed .. => true
  | _ => false

/-- An outcome in a word or two. -/
def label : Outcome → String
  | notApplicable => "no appcast"
  | unchanged _ => "unchanged"
  | changed .. => "changed"
  | unavailable _ => "unavailable"

end Outcome

/-- The characters of a body, with a replacement for what is not well formed. -/
def bodyText (body : List UInt8) : String := String.ofList (Text.decodeLossy body)

/-- Why a feed could not be read. -/
inductive FeedError where
  | fetch (e : FetchError)
  | malformed
  deriving DecidableEq, Repr

/-- The report of a feed that could not be read. -/
def FeedError.message : FeedError → String
  | .fetch e => e.message
  | .malformed => "Invalid GitHub releases JSON: malformed document"

/-- A feed that was parsed, or the report that it could not be. -/
def parseFeed (provider : Provider) (body : List UInt8) : Except FeedError Feed :=
  match Feed.parse? provider (bodyText body) with
  | some feed => .ok feed
  | none => .error .malformed

/-- Reads the feed that has been fetched from a URL. GitHub's releases are fetched where the
service lists them. -/
def readFeed (o : FetchOptions) (url : String) (body : List UInt8) :
    Process (Except FeedError Feed) :=
  match Provider.guessByUrl url with
  | (.github, listing) =>
    (retrying o listing).map fun
      | .ok listed => parseFeed .github listed
      | .error e => .error (.fetch e)
  | _ => .done (parseFeed (Provider.guessByContent (bodyText body)) body)

/-- A policy with a single try. -/
def RetryPolicy.once : RetryPolicy := { RetryPolicy.standard with maxAttempts := 1 }

/-- The release that a feed puts forward: the newest stable one, or the newest of all. -/
def Feed.headline? (f : Feed) : Option FeedEntry := f.latestStable?.or f.entries.head?

/-- The release that a feed with other contents than recorded puts forward, if it can be read. -/
def inspect (o : FetchOptions) (url : String) (body : List UInt8) :
    Process (Option FeedEntry) :=
  (readFeed { o with retry := .once } url body).map fun
    | .ok feed => feed.headline?
    | .error _ => none

/-- Verifies a feed against its recorded checkpoint. -/
def verify (o : FetchOptions) : Option Feed.Reference → Process Outcome
  | none => .done .notApplicable
  | some r =>
    (retrying o r.url).bind fun
      | .error e => .done (.unavailable (.ofFetchError e))
      | .ok body =>
        let latest := Checkpoint.fingerprint body
        if latest = r.checkpoint then .done (.unchanged latest)
        else (inspect o r.url body).map (.changed r.checkpoint latest)

/-- A feed as it is served, with the checkpoint that a manifest would record. -/
structure FeedSnapshot where
  url : String
  checkpoint : Digest
  feed : Feed
  deriving DecidableEq, Repr

/-- Fetches a feed and reads it. -/
def snapshot (o : FetchOptions) (url : String) : Process (Except FeedError FeedSnapshot) :=
  (retrying o url).bind fun
    | .error e => .done (.error (.fetch e))
    | .ok body =>
      (readFeed o url body).map fun
        | .ok feed => .ok ⟨url, Checkpoint.fingerprint body, feed⟩
        | .error e => .error e

end CaskAudit
