import CaskAudit.Catalog
import CaskAudit.Files.Basic
import CaskAudit.Resolution
import CaskAudit.Source.Format

/-!
# Loading manifests

Reads manifests from files. A directory is loaded as far as it can be: what fails is reported next
to the catalog of what was loaded.
-/

namespace CaskAudit

/-- What can go wrong with the manifests of a catalog. -/
inductive CatalogError where
  | unknownCask (token : Token)
  | duplicateToken (token : Token)
  | source (path : String) (e : SourceError)
  | resolve (e : ResolveError)
  | walk (root cause : String)
  deriving DecidableEq, Repr

namespace CatalogError

/-- The report of an error. -/
def message : CatalogError → String
  | unknownCask token => s!"Unknown cask: {token.text}"
  | duplicateToken token => s!"Duplicate cask token '{token.text}'"
  | source path e => s!"{path}: {e.message}"
  | resolve e => e.message
  | walk root cause => s!"Failed to scan {root}: {cause}"

/-- The path that an error is about. -/
def path? : CatalogError → Option String
  | source path _ => some path
  | walk root _ => some root
  | _ => none

end CatalogError

namespace Files

/-- The manifest in a file, whose format its path tells. -/
def loadManifest (fs : Files) (path : String) : Except SourceError Manifest :=
  match SourceFormat.ofPath? path with
  | none => .error (.unsupportedFormat path)
  | some format =>
    match fs.read path with
    | .error e => .error (.unreadable path e.describe)
    | .ok text => format.parse text

/-- Takes a step of a walk: a file with a manifest is added to the catalog, or its fault to the
faults. -/
def loadStep (fs : Files) (c : Catalog) : WalkStep → Catalog × List CatalogError
  | .fault root cause => (c, [.walk root cause])
  | .file path =>
    if (SourceFormat.ofPath? path).isNone then (c, [])
    else
      match fs.loadManifest path with
      | .error e => (c, [.source path e])
      | .ok m =>
        match c.insert? m with
        | some c' => (c', [])
        | none => (c, [.duplicateToken m.token])

/-- Takes the steps of a walk one after another. -/
def loadSteps (fs : Files) (c : Catalog) : List WalkStep → Catalog × List CatalogError
  | [] => (c, [])
  | step :: steps =>
    let (c', faults) := fs.loadStep c step
    let (c'', more) := fs.loadSteps c' steps
    (c'', faults ++ more)

/-- The manifests below a directory, and the faults met on the way in order. -/
def loadDirectory (fs : Files) (root : String) : Catalog × List CatalogError :=
  fs.loadSteps .empty (fs.walk root)

end Files

namespace Catalog

/-- What the manifest with a token says about a host. -/
def resolve (c : Catalog) (token : String) (f : Facts) : Except CatalogError ResolvedCask :=
  match c.get? token with
  | none => .error (.unknownCask (Token.ofText token))
  | some m => (m.resolve f).mapError .resolve

end Catalog

end CaskAudit
