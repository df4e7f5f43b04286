/-!
# Failed fetches

Why the contents of a feed could not be fetched. A transient failure may go away when the request is
tried again; the others are final.
-/

namespace CaskAudit

/-- Why a fetch failed. -/
inductive FetchError where
  | timeout
  | cancelled
  | connect (message : String)
  | status (code : Nat)
  | request (message : String)
  deriving DecidableEq, Repr, Inhabited

namespace FetchError

/-- The report of a failed fetch. -/
def message : FetchError → String
  | timeout => "request timed out"
  | cancelled => "request cancelled"
  | connect message => s!"connection failed: {message}"
  | status code => s!"HTTP {code}"
  | request message => s!"request failed: {message}"

/-- Whether another try could succeed. -/
def isTransient : FetchError → Bool
  | timeout => true
  | cancelled => false
  | connect _ => true
  | status code => code == 429 || (500 ≤ code && code < 600)
  | request _ => true

end FetchError

end CaskAudit
