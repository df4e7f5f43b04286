import CaskAudit.Json.Cask
import CaskAudit.Json.Feed
import CaskAudit.Verification

/-!
# Outcomes as JSON

What the verification of a feed has found, as JSON objects.
-/

namespace CaskAudit

/-- A reason as an object with its kind. -/
def Unavailability.toJson : Unavailability → Json
  | .timeout => .object [("kind", .string "timeout")]
  | .cancelled => .object [("kind", .string "cancelled")]
  | .network message => .object [("kind", .string "network"), ("message", .string message)]
  | .status code => .object [("kind", .string "status"), ("code", .int code)]

/-- An outcome as an object with its status. -/
def Outcome.toJson : Outcome → Json
  | .notApplicable => .object [("status", .string "not_applicable")]
  | .unchanged checkpoint =>
    .object [("status", .string "unchanged"), ("checkpoint", checkpoint.toJson)]
  | .changed recorded latest release =>
    .object <|
      [("status", .string "changed"), ("recorded", recorded.toJson), ("latest", latest.toJson)] ++
      (match release with
        | some e => [("release", e.toJson)]
        | none => [])
  | .unavailable reason => .object [("status", .string "unavailable"), ("reason", reason.toJson)]

/-- A snapshot as an object. -/
def FeedSnapshot.toJson (s : FeedSnapshot) : Json :=
  .object [("url", .string s.url), ("checkpoint", s.checkpoint.toJson), ("feed", s.feed.toJson)]

end CaskAudit
