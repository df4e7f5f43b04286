import CaskAudit.Feed.Basic
import CaskAudit.Json.Basic

/-!
# Feeds as JSON

Feeds and their entries as JSON objects. What an entry does not give has no member.
-/

namespace CaskAudit

/-- A member of an object, unless its value is missing. -/
def Json.given (name : String) : Option String → List (String × Json)
  | none => []
  | some s => [(name, .string s)]

/-- The name of a provider in JSON. -/
def Provider.jsonName : Provider → String
  | sparkle => "sparkle"
  | github => "github"
  | sourceForge => "source_forge"
  | unknown => "unknown"

/-- A provider by its name. -/
def Provider.toJson (p : Provider) : Json := .string p.jsonName

/-- An entry as an object. -/
def FeedEntry.toJson (e : FeedEntry) : Json :=
  .object <|
    [("version", .string e.version)] ++ Json.given "build" e.build ++
    (if e.urls.isEmpty then [] else [("urls", .array (e.urls.map .string))]) ++
    Json.given "minimum_system_version" e.minimumSystemVersion ++
    [("prerelease", .bool e.prerelease)]

/-- A feed as an object. -/
def Feed.toJson (f : Feed) : Json :=
  .object [("provider", f.provider.toJson), ("releases", .array (f.entries.map FeedEntry.toJson))]

end CaskAudit
