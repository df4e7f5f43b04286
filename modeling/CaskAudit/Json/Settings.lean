import CaskAudit.Json.Platform
import CaskAudit.Limits
import CaskAudit.Settings.Basic

/-!
# Settings as JSON

Settings as JSON objects, and back. A member that is missing stands for its default, and one that is
not known is refused. Reading does not validate: a timeout of zero is read as it stands.
-/

namespace CaskAudit

namespace RetryPolicy

/-- A policy as an object. -/
def toJson (p : RetryPolicy) : Json :=
  .object [("max_attempts", .int p.maxAttempts), ("initial_backoff_ms", .int p.initialBackoffMs),
    ("max_backoff_ms", .int p.maxBackoffMs)]

/-- The names of the members. -/
def jsonNames : List String := ["max_attempts", "initial_backoff_ms", "max_backoff_ms"]

/-- The policy that a JSON value gives. -/
def ofJson? (j : Json) : Option RetryPolicy := do
  let members ← j.record? jsonNames
  if !j.onlyNames jsonNames then failure
  let p := standard
  return {
    maxAttempts := ←
      Json.memberOr? p.maxAttempts (Json.natBelow? limit32) "max_attempts" members
    initialBackoffMs := ←
      Json.memberOr? p.initialBackoffMs (Json.natBelow? limit64) "initial_backoff_ms" members
    maxBackoffMs := ←
      Json.memberOr? p.maxBackoffMs (Json.natBelow? limit64) "max_backoff_ms" members }

end RetryPolicy

namespace Settings

/-- Settings as an object. -/
def toJson (s : Settings) : Json :=
  .object <|
    [("timeout_secs", .int s.timeoutSecs), ("retry", s.retry.toJson),
      ("concurrency", .int s.concurrency), ("user_agent", .string s.userAgent)] ++
    (match s.githubToken with
      | some token => [("github_token", .string token)]
      | none => [])

/-- The names of the members. -/
def jsonNames : List String :=
  ["timeout_secs", "retry", "concurrency", "user_agent", "github_token"]

/-- A string, or nothing where null stands for it. -/
def optionalText? : Json → Option (Option String)
  | .null => some none
  | .string s => some (some s)
  | _ => none

/-- The settings that a JSON value gives. -/
def ofJson? (j : Json) : Option Settings := do
  let members ← j.record? jsonNames
  if !j.onlyNames jsonNames then failure
  let s := standard
  return {
    timeoutSecs := ←
      Json.memberOr? s.timeoutSecs (Json.natBelow? limit64) "timeout_secs" members
    retry := ← Json.memberOr? s.retry RetryPolicy.ofJson? "retry" members
    concurrency := ←
      Json.memberOr? s.concurrency (Json.natBelow? limit64) "concurrency" members
    userAgent := ← Json.memberOr? s.userAgent Json.string? "user_agent" members
    githubToken := ← Json.memberOr? s.githubToken optionalText? "github_token" members }

end Settings

end CaskAudit
