import CaskAudit.Settings.Retry

/-!
# Settings

What a check of feeds can be told: how long to wait for an answer, how to retry, how many feeds to
check at once, and how to present itself.
-/

namespace CaskAudit

/-- The settings of a check. -/
structure Settings where
  timeoutSecs : Nat
  retry : RetryPolicy
  concurrency : Nat
  userAgent : String
  githubToken : Option String
  deriving DecidableEq, Repr, Inhabited

/-- Why there are no settings to work with. -/
inductive SettingsError where
  | unreadable (path cause : String)
  | malformed (path : String)
  | variable (name value : String)
  | zeroTimeout
  deriving DecidableEq, Repr

/-- The report of settings that cannot be used. -/
def SettingsError.message : SettingsError → String
  | .unreadable path cause => s!"Failed to read {path}: {cause}"
  | .malformed path => s!"Invalid config {path}: malformed document"
  | .variable name value => s!"Invalid value for {name}: '{value}'"
  | .zeroTimeout => "Invalid timeout_secs: must be at least one second"

namespace Settings

/-- The settings where nothing else is said. -/
def standard : Settings := ⟨10, .standard, 8, "cask-check/0.1.0", none⟩

/-- How long to wait for an answer, in milliseconds. -/
def timeoutMs (s : Settings) : Nat := 1000 * s.timeoutSecs

/-- Refuses settings with which no check can succeed. -/
def validate (s : Settings) : Except SettingsError Unit :=
  if s.timeoutSecs = 0 then .error .zeroTimeout else .ok ()

end Settings

end CaskAudit
