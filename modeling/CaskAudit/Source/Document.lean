import CaskAudit.Source.Error
import CaskAudit.Toml.Reader

/-!
# Manifests in tables

A manifest as a TOML document: a table `cask` with the token and fields for every host, perhaps a
table `defaults` with more of those fields, and a table `clause` for each clause, whose guard is
under `when`. It does not matter which of the first two tables a field stands in, but it may not
stand in both.
-/

namespace CaskAudit

/-- The entries of a table as written, with the line on which the table begins. -/
structure Document.Table where
  line : Nat
  token : Option String
  condition : Option String
  version : Option String
  sha256 : Option String
  url : Option String
  /-- The URL of the feed and its checkpoint. -/
  appcast : Option (String × String)
  autoUpdates : Option Bool
  name : Option String
  homepage : Option String
  license : Option String
  app : Option String
  deriving DecidableEq, Repr

/-- The tables of a manifest. -/
structure Document where
  cask : Document.Table
  defaults : Option Document.Table
  clauses : List Document.Table
  deriving DecidableEq, Repr

namespace Document

/-! ## Tables from values -/

/-- The keys that a table may have. -/
def Table.keys : List String :=
  ["token", "when", "version", "sha256", "url", "appcast", "auto_updates", "name", "homepage",
    "license", "app"]

/-- The URL and the checkpoint of an appcast. -/
def appcastOf? (t : Toml) : Option (String × String) := do
  let entries ← t.completeRecord? ["url", "checkpoint"]
  let url ← (← entries.lookup "url").string?
  let checkpoint ← (← entries.lookup "checkpoint").string?
  return (url, checkpoint)

/-- The table that a value is. -/
def Table.ofToml? (t : Toml) : Option Table := do
  let line ← t.line?
  let entries ← t.completeRecord? Table.keys
  let text := fun key => Toml.optional? Toml.string? key entries
  return {
    line
    token := ← text "token"
    condition := ← text "when"
    version := ← text "version"
    sha256 := ← text "sha256"
    url := ← text "url"
    appcast := ← Toml.optional? appcastOf? "appcast" entries
    autoUpdates := ← Toml.optional? Toml.bool? "auto_updates" entries
    name := ← text "name"
    homepage := ← text "homepage"
    license := ← text "license"
    app := ← text "app" }

/-- The document that a value is. -/
def ofToml? (t : Toml) : Option Document := do
  let entries ← t.record? ["cask", "defaults", "clause"]
  let cask ← Table.ofToml? (← entries.lookup "cask")
  let defaults ← Toml.optional? Table.ofToml? "defaults" entries
  let clauses ←
    Toml.optional? (fun c => c.items?.bind (·.mapM Table.ofToml?)) "clause" entries
  return ⟨cask, defaults, clauses.getD []⟩

/-! ## Manifests from tables -/

/-- Refuses a key in a table that may not have it. -/
def refuse (key table : String) (line : Nat) (value : Option String) :
    Except SourceError Unit :=
  if value.isSome then .error (.document line (.misplaced key table)) else .ok ()

/-- Converts a value that may be missing. -/
def convert {α β : Type} (f : α → Except SourceError β) : Option α → Except SourceError (Option β)
  | none => .ok none
  | some a => (f a).map some

/-- A template on a line. -/
def templateOf (line : Nat) (source : String) : Except SourceError Template :=
  (Template.parse source).mapError (.template line)

/-- An appcast on a line. -/
def appcastOf (line : Nat) (a : String × String) : Except SourceError Appcast := do
  let url ← templateOf line a.1
  let checkpoint ← (Digest.ofText a.2).mapError (.digest line)
  return ⟨url, checkpoint⟩

/-- What a table declares. -/
def Table.declarations (t : Table) : Except SourceError Declarations := do
  let version ← convert (fun s => (Version.ofText s).mapError (.version t.line)) t.version
  let checksum ← convert (fun s => (Checksum.ofText s).mapError (.digest t.line)) t.sha256
  let url ← convert (templateOf t.line) t.url
  let appcast ← convert (appcastOf t.line) t.appcast
  return {
    version, checksum, url, appcast
    autoUpdates := t.autoUpdates
    displayName := t.name
    homepage := t.homepage
    license := t.license.map License.ofText
    app := t.app }

/-- The value of a field from two tables, only one of which may have it. -/
def pick {α : Type} (line : Nat) (field : String) (a b : Option α) :
    Except SourceError (Option α) :=
  match a, b with
  | some _, some _ => .error (.document line (.declaredTwice field))
  | a, b => .ok (a.or b)

/-- The fields of two tables together. -/
def combine (line : Nat) (a b : Declarations) : Except SourceError Declarations := do
  let version ← pick line "version" a.version b.version
  let checksum ← pick line "sha256" a.checksum b.checksum
  let url ← pick line "url" a.url b.url
  let appcast ← pick line "appcast" a.appcast b.appcast
  let autoUpdates ← pick line "auto_updates" a.autoUpdates b.autoUpdates
  let displayName ← pick line "name" a.displayName b.displayName
  let homepage ← pick line "homepage" a.homepage b.homepage
  let license ← pick line "license" a.license b.license
  let app ← pick line "app" a.app b.app
  return { version, checksum, url, appcast, autoUpdates, displayName, homepage, license, app }

/-- The outer fields once the defaults have been added. -/
def addDefaults (outer : Declarations) : Option Table → Except SourceError Declarations
  | none => .ok outer
  | some t => do
    refuse "token" "[defaults]" t.line t.token
    refuse "when" "[defaults]" t.line t.condition
    combine t.line outer (← t.declarations)

/-- The clause that a table gives. -/
def Table.clause (t : Table) : Except SourceError Clause := do
  refuse "token" "[[clause]]" t.line t.token
  let body ← t.declarations
  match t.condition with
  | none => return .fallback body
  | some text => return .guarded (← (Guard.ofText t.line text).mapError .ofGuard) body

/-- The manifest that a document gives. -/
def manifest (d : Document) : Except SourceError Manifest := do
  refuse "when" "[cask]" d.cask.line d.cask.condition
  match d.cask.token with
  | none => .error (.document d.cask.line .missingToken)
  | some token =>
    let outer ← addDefaults (← d.cask.declarations) d.defaults
    let clauses ← d.clauses.mapM Table.clause
    (Manifest.build token outer clauses).mapError .manifest

/-- The manifest that a TOML text gives. -/
def parse (src : String) : Except SourceError Manifest :=
  match (Toml.parse? src).bind ofToml? with
  | none => .error .malformedDocument
  | some d => d.manifest

end Document

end CaskAudit
