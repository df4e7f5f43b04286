import CaskAudit.Files.Load
import CaskAudit.Json.Outcome
import CaskAudit.Json.Printer

/-!
# Reports as documents

The results of a run as one JSON document: for each name the outcome of its verification or the
error that kept it from being verified, in the order of the names, and what could not be loaded.
-/

namespace CaskAudit

/-- An entry of a report. -/
inductive ReportEntry where
  | outcome (o : Outcome)
  | error (message : String)
  deriving DecidableEq, Repr

/-- A manifest that could not be loaded, with its path where it is known. -/
structure LoadFailure where
  path : Option String
  error : String
  deriving DecidableEq, Repr

/-- The results of a run. -/
structure Report where
  facts : Facts
  /-- The entries in the order of their names. -/
  results : List (String × ReportEntry)
  failures : List LoadFailure
  deriving DecidableEq, Repr

/-- What a report tells of a fault. -/
def CatalogError.failure (e : CatalogError) : LoadFailure := ⟨e.path?, e.message⟩

namespace Report

/-- A report without results. -/
def empty (f : Facts) : Report := ⟨f, [], []⟩

/-- Puts an entry at its place by name, instead of one of the same name if there is one. -/
def putEntry (name : String) (e : ReportEntry) :
    List (String × ReportEntry) → List (String × ReportEntry)
  | [] => [(name, e)]
  | (n, d) :: es =>
    if n = name then (name, e) :: es
    else if name < n then (name, e) :: (n, d) :: es
    else (n, d) :: putEntry name e es

/-- A report with an entry put under a name. -/
def put (r : Report) (name : String) (e : ReportEntry) : Report :=
  { r with results := putEntry name e r.results }

end Report

/-- An entry as an object. -/
def ReportEntry.toJson : ReportEntry → Json
  | .outcome o => o.toJson
  | .error message => .object [("error", .string message)]

/-- A failure as an object. -/
def LoadFailure.toJson (f : LoadFailure) : Json :=
  .object (Json.given "path" f.path ++ [("error", .string f.error)])

/-- A report as an object, with the time of the run. -/
def Report.toJson (checkedAt : String) (r : Report) : Json :=
  .object <|
    [("checked_at", .string checkedAt), ("facts", r.facts.toJson),
      ("results", .object (r.results.map fun (name, e) => (name, e.toJson)))] ++
    (if r.failures.isEmpty then []
      else [("load_errors", .array (r.failures.map LoadFailure.toJson))])

/-- The document of a feed as it is served, with its latest entry and a pre-release. -/
def FeedSnapshot.report (s : FeedSnapshot) (latest prerelease : Option FeedEntry) : Json :=
  .object <|
    [("url", .string s.url), ("checkpoint", s.checkpoint.toJson), ("feed", s.feed.toJson),
      ("latest", .orNull FeedEntry.toJson latest)] ++
    (match prerelease with
      | some e => [("prerelease", e.toJson)]
      | none => [])

end CaskAudit
