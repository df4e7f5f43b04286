import CaskAudit.Limits
import CaskAudit.Text.Decimal
import CaskAudit.Text.Pieces

/-!
# Feeds

A feed advertises the releases of an application. Its entries are listed newest first: versions are
ordered by the numbers in them and, where those agree, as texts; of two entries of one version the
one with the newer build comes first.
-/

namespace CaskAudit

open Text

/-- The service whose format a feed has. -/
inductive Provider where
  | sparkle | github | sourceForge | unknown
  deriving DecidableEq, Repr, Inhabited

/-- A provider as tables show it. -/
def Provider.name : Provider → String
  | sparkle => "Sparkle"
  | github => "GitHub"
  | sourceForge => "SourceForge"
  | unknown => "-"

/-- A release that a feed advertises. -/
structure FeedEntry where
  version : String
  /-- The build, where it is told apart from the version. -/
  build : Option String
  urls : List String
  minimumSystemVersion : Option String
  prerelease : Bool
  deriving DecidableEq, Repr, Inhabited

/-- The entries that a feed of a provider lists. -/
structure Feed where
  provider : Provider
  entries : List FeedEntry
  deriving DecidableEq, Repr, Inhabited

/-! ## The order of versions -/

/-- The largest number that a component of a version counts for. -/
def largestComponent : Nat := limit64 - 1

/-- The maximal runs of ASCII digits in a text; `run` is the part already read of the one at
hand. -/
def digitRuns (run : List Char) : List Char → List (List Char)
  | [] => if run.isEmpty then [] else [run]
  | c :: rest =>
    if isAsciiDigit c then digitRuns (run ++ [c]) rest
    else if run.isEmpty then digitRuns [] rest
    else run :: digitRuns [] rest

/-- The numbers in a version; one that is too large counts as the largest component. -/
def versionNumbers (version : String) : List Nat :=
  (digitRuns [] version.toList).map fun run => min (ofDigits run) largestComponent

/-- Compares versions by their numbers and, where those agree, as texts. -/
def compareVersions (a b : String) : Ordering :=
  (compare (versionNumbers a) (versionNumbers b)).then (compare a b)

namespace FeedEntry

/-- Compares entries by version and then by build. -/
def compareTo (a b : FeedEntry) : Ordering :=
  (compareVersions a.version b.version).then
    (compareVersions (a.build.getD "") (b.build.getD ""))

/-- Entries from the newest to the oldest; entries that compare equal keep their order. -/
def sortNewestFirst (entries : List FeedEntry) : List FeedEntry :=
  entries.mergeSort fun a b => (b.compareTo a).isLE

end FeedEntry

/-! ## Pre-releases -/

/-- The words that mark a version as a pre-release. -/
def prereleaseTags : List String := ["alpha", "beta", "rc", "pre", "dev", "preview", "nightly"]

/-- Whether a version looks like that of a pre-release, in any case of its ASCII letters. -/
def looksPrerelease (version : String) : Bool :=
  let lower := version.toList.map Char.toLower
  prereleaseTags.any fun tag => occursIn tag.toList lower

namespace Feed

/-- The first entry that is no pre-release. -/
def latestStable? (f : Feed) : Option FeedEntry := f.entries.find? (!·.prerelease)

/-- The first entry that is a pre-release. -/
def latestPrerelease? (f : Feed) : Option FeedEntry := f.entries.find? (·.prerelease)

/-- A feed with only the entries whose version passes a test. -/
def retain (keep : String → Bool) (f : Feed) : Feed :=
  { f with entries := f.entries.filter (keep ·.version) }

end Feed

end CaskAudit
