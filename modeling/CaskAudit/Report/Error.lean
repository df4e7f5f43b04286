import CaskAudit.Resolution
import CaskAudit.Settings.Basic
import CaskAudit.Source.Error

/-!
# Reports of errors

An error on its way out is reported with what was being done when it arose, and with its causes,
each in its own words, even where the report of the error already tells them.
-/

namespace CaskAudit

/-- What a faulty template has as its cause. -/
def TemplateError.causes : TemplateError → List String
  | .method e => [e.message]
  | _ => []

/-- What a refused description has as its cause. -/
def ManifestError.causes : ManifestError → List String
  | .malformedGuard _ _ e => [e.message]
  | _ => []

/-- The causes of an unread manifest, the nearest first. -/
def SourceError.causes : SourceError → List String
  | .unreadable _ cause => [cause]
  | .template _ e => e.message :: e.causes
  | .digest _ e => [e.message]
  | .version _ e => [e.message]
  | .malformedDocument => ["malformed document"]
  | .manifest e => e.causes
  | _ => []

/-- The causes of a failed resolution, the nearest first. -/
def ResolveError.causes (e : ResolveError) : List String :=
  match e.fault with
  | .template _ e => e.message :: e.causes
  | _ => []

/-- The causes of unusable settings, the nearest first. -/
def SettingsError.causes : SettingsError → List String
  | .unreadable _ cause => [cause]
  | .malformed _ => ["malformed document"]
  | _ => []

/-- The line that reports an error. -/
def errorLine (text : String) : String := "error: " ++ text

/-- The line that reports an error with what was being done and with its causes. -/
def errorChain (doing message : String) (causes : List String) : String :=
  errorLine (": ".intercalate (doing :: message :: causes))

end CaskAudit
