import CaskAudit.Limits
import CaskAudit.Settings.Basic
import CaskAudit.Text.Blank
import CaskAudit.Text.Decimal
import CaskAudit.Toml.Reader

/-!
# Layers of settings

Settings come from a file in TOML and from environment variables, which win over the file. A fault
of the file is reported before one of a variable.
-/

namespace CaskAudit

/-- What is found where the settings file should be. -/
inductive SettingsFile where
  | absent
  | unreadable (path cause : String)
  | contents (path text : String)
  deriving DecidableEq, Repr

/-- The values of environment variables. -/
abbrev Environment := String → Option String

/-- Reads an entry that stands for a default where it is missing. -/
def Toml.entryOr? {α : Type} (default : α) (read : Toml → Option α) (key : String)
    (entries : List (String × Toml)) : Option α :=
  (Toml.optional? read key entries).map (·.getD default)

/-- The policy that a table gives. -/
def RetryPolicy.ofToml? (t : Toml) : Option RetryPolicy := do
  let entries ← t.record? ["max_attempts", "initial_backoff_ms", "max_backoff_ms"]
  let p := RetryPolicy.standard
  return {
    maxAttempts := ← Toml.entryOr? p.maxAttempts (Toml.natBelow? limit32) "max_attempts" entries
    initialBackoffMs := ←
      Toml.entryOr? p.initialBackoffMs (Toml.natBelow? limit64) "initial_backoff_ms" entries
    maxBackoffMs := ←
      Toml.entryOr? p.maxBackoffMs (Toml.natBelow? limit64) "max_backoff_ms" entries }

namespace Settings

/-- The settings that a table gives. -/
def ofToml? (t : Toml) : Option Settings := do
  let entries ←
    t.record? ["timeout_secs", "retry", "concurrency", "user_agent", "github_token"]
  let s := Settings.standard
  return {
    timeoutSecs := ← Toml.entryOr? s.timeoutSecs (Toml.natBelow? limit64) "timeout_secs" entries
    retry := ← Toml.entryOr? s.retry RetryPolicy.ofToml? "retry" entries
    concurrency := ← Toml.entryOr? s.concurrency (Toml.natBelow? limit64) "concurrency" entries
    userAgent := ← Toml.entryOr? s.userAgent Toml.string? "user_agent" entries
    githubToken := ← Toml.optional? Toml.string? "github_token" entries }

/-- The settings that a file gives. -/
def ofFile : SettingsFile → Except SettingsError Settings
  | .absent => .ok standard
  | .unreadable path cause => .error (.unreadable path cause)
  | .contents path text =>
    match (Toml.parse? text).bind ofToml? with
    | some s => .ok s
    | none => .error (.malformed path)

/-- The number below a bound that a variable gives; blanks around it do not count. -/
def numberVariable (env : Environment) (name : String) (bound : Nat) :
    Except SettingsError (Option Nat) :=
  match env name with
  | none => .ok none
  | some value =>
    match Text.readBelow? bound (Text.trim value.toList) with
    | some n => .ok (some n)
    | none => .error (.variable name value)

/-- The settings that variables leave of those from a file. -/
def override (s : Settings) (env : Environment) : Except SettingsError Settings := do
  let timeout ← numberVariable env "CASK_CHECK_TIMEOUT" limit64
  let attempts ← numberVariable env "CASK_CHECK_RETRIES" limit32
  let concurrency ← numberVariable env "CASK_CHECK_CONCURRENCY" limit64
  return {
    timeoutSecs := timeout.getD s.timeoutSecs
    retry := { s.retry with maxAttempts := attempts.getD s.retry.maxAttempts }
    concurrency := concurrency.getD s.concurrency
    userAgent := (env "CASK_CHECK_USER_AGENT").getD s.userAgent
    githubToken := ((env "CASK_CHECK_GITHUB_TOKEN").or (env "GITHUB_TOKEN")).or s.githubToken }

/-- The settings that a file and variables give together. -/
def load (file : SettingsFile) (env : Environment) : Except SettingsError Settings := do
  let s ← (← ofFile file).override env
  s.validate
  return s

end Settings

end CaskAudit
