import CaskAudit.Batch.Basic
import CaskAudit.Report.Table

/-!
# Listings

Resolved casks, feeds and the outcomes of verifications as lines for a reader.
-/

namespace CaskAudit

/-- A text with blanks after it up to a number of characters. -/
def padTo (width : Nat) (s : String) : String :=
  s ++ String.ofList (List.replicate (width - s.length) ' ')

/-- A line with a label and a value. -/
def labelled (label value : String) : String := "  " ++ padTo 12 label ++ " " ++ value

/-- A line with a label and a value, if there is one. -/
def labelled? (label : String) : Option String → List String
  | some value => [labelled label value]
  | none => []

/-- A selection in words. -/
def Selection.describe : Selection → String
  | .guarded index guard => s!"clause {index} ({guard})"
  | .fallback index => s!"clause {index} (fallback)"

/-- The lines that tell the feed of a cask. -/
def feedLines : Option Feed.Reference → List String
  | some r => [labelled "appcast" r.url, labelled "checkpoint" r.checkpoint.hex]
  | none => [labelled "appcast" "-"]

/-- The lines that tell what a manifest says about a host. -/
def ResolvedCask.lines (c : ResolvedCask) (f : Facts) : List String :=
  [c.token.text ++ " " ++ c.version.raw, labelled "platform" f.describe,
    labelled "selected" c.selected.describe, labelled "sha256" c.checksum.describe] ++
  labelled? "url" c.url ++ feedLines c.appcast ++
  [labelled "auto_updates" (if c.autoUpdates then "yes" else "no")] ++
  labelled? "name" c.name ++ labelled? "homepage" c.homepage ++
  labelled? "license" (c.license.map License.tag) ++ labelled? "app" c.app

/-! ## Feeds -/

/-- The version of an entry with its build. -/
def FeedEntry.title (e : FeedEntry) : String :=
  match e.build with
  | some build => s!"{e.version} (build {build})"
  | none => e.version

/-- The lines that tell the latest entry. -/
def latestLines : Option FeedEntry → List String
  | some e =>
    labelled "latest" e.title :: labelled? "requires" e.minimumSystemVersion ++
      e.urls.map (labelled "download")
  | none => [labelled "latest" "-"]

/-- The lines that tell a feed as it is served, with its latest entry and a pre-release. -/
def FeedSnapshot.lines (s : FeedSnapshot) (latest prerelease : Option FeedEntry) :
    List String :=
  [s.url, labelled "checkpoint" s.checkpoint.hex, labelled "provider" s.feed.provider.name,
    labelled "releases" (toString s.feed.entries.length)] ++
  latestLines latest ++ labelled? "pre-release" (prerelease.map FeedEntry.title)

/-! ## Outcomes -/

/-- The beginning of a digest. -/
def Digest.brief (d : Digest) : String := String.ofList (d.hex.toList.take 12)

/-- What a table tells of an outcome beside its label. -/
def Outcome.detail : Outcome → String
  | .notApplicable => ""
  | .unchanged checkpoint => checkpoint.brief
  | .changed _ latest (some e) => s!"feed offers {e.version} ({latest.brief})"
  | .changed _ latest none => s!"now {latest.brief}"
  | .unavailable reason => reason.describe

/-- A row of the table of outcomes. -/
abbrev OutcomeRow := List String

/-- The row of a verification. -/
def CheckedCask.row (c : CheckedCask) : OutcomeRow :=
  [c.cask.token.text, c.cask.version.raw, c.outcome.label, c.outcome.detail]

/-- The row of a manifest that could not be checked. -/
def failedRow (name reason : String) : OutcomeRow := [name, "-", "error", reason]

/-- The table of outcomes. -/
def outcomeTable (rows : List OutcomeRow) : List String :=
  Table.render ["cask", "version", "status", "detail"] rows

/-- A line that tells how far the check of a token has come. -/
def progressLine (token : Token) (text : String) : String :=
  "  " ++ padTo 32 token.text ++ " " ++ text

/-- The line for an event, if it has one; `elapsed` is the time that the batch took. -/
def ProgressEvent.line? (elapsed : String) : ProgressEvent → Option String
  | .phase title => some ("==> " ++ title)
  | .checking _ => none
  | .outcome token o => some (progressLine token o.label)
  | .failed token reason => some (progressLine token reason)
  | .summary count => some s!"  {count} casks checked in {elapsed}s"

end CaskAudit
