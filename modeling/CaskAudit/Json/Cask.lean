import CaskAudit.Json.Platform
import CaskAudit.Resolution

/-!
# Casks as JSON

Versions, digests, manifests and resolved casks as JSON values. What a manifest may leave open is
null where it is not declared. A version is read as it is written in a manifest, as a string or as
an object with its raw text; a digest is checked when it is read; tokens and license tags are taken
as they are.
-/

namespace CaskAudit

/-- A value that may be missing; null where it is. -/
def Json.orNull {α : Type} (toJson : α → Json) : Option α → Json
  | some a => toJson a
  | none => .null

namespace Version

/-- A version with what is derived from it. -/
def toJson (v : Version) : Json :=
  .object [("raw", .string v.raw), ("major", .ofOption v.major?),
    ("no_separator", .string v.noSeparator)]

/-- The version that a string or an object with a raw text states. -/
def ofJson? (j : Json) : Option Version := do
  let raw ← match j with
    | .string s => some s
    | .object _ => do (← (← j.record? ["raw"]).lookup "raw").string?
    | _ => none
  (ofText raw).toOption

end Version

/-- A digest as its hexadecimal text. -/
def Digest.toJson (d : Digest) : Json := .string d.hex

/-- The digest that a string states. -/
def Digest.ofJson? (j : Json) : Option Digest :=
  j.string?.bind fun s => (Digest.ofText s).toOption

namespace Checksum

/-- A checksum as its hexadecimal text or the word for none. -/
def toJson : Checksum → Json
  | .sha256 d => d.toJson
  | .noCheck => .string noCheckWord

/-- The checksum that a string states. -/
def ofJson? (j : Json) : Option Checksum := j.string?.bind fun s => (ofText s).toOption

end Checksum

/-- A token as its text. -/
def Token.toJson (t : Token) : Json := .string t.text

/-- The token with a text, as it is. -/
def Token.ofJson? (j : Json) : Option Token := j.string?.map fun s => ⟨s⟩

/-- A license tag as its text. -/
def License.toJson (l : License) : Json := .string l.tag

/-- The license with a tag, as it is. -/
def License.ofJson? (j : Json) : Option License := j.string?.map fun s => ⟨s⟩

/-- A method by its name. -/
def Method.toJson (m : Method) : Json := .string m.name

/-- The method that a JSON value names. -/
def Method.ofJson? (j : Json) : Option Method := j.named? Method.all Method.name

/-- A template as its source. -/
def Template.toJson (t : Template) : Json := .string t.source

/-- An appcast as an object. -/
def Appcast.toJson (a : Appcast) : Json :=
  .object [("url", a.url.toJson), ("checkpoint", a.checkpoint.toJson)]

/-- Declarations as an object with every field. -/
def Declarations.toJson (d : Declarations) : Json :=
  .object [("version", .orNull Version.toJson d.version),
    ("checksum", .orNull Checksum.toJson d.checksum),
    ("url", .orNull Template.toJson d.url),
    ("appcast", .orNull Appcast.toJson d.appcast),
    ("auto_updates", .orNull Json.bool d.autoUpdates),
    ("display_name", .ofOption d.displayName),
    ("homepage", .ofOption d.homepage),
    ("license", .orNull License.toJson d.license),
    ("app", .ofOption d.app)]

/-- A clause as an object whose single member tells whether it has a guard. -/
def Clause.toJson : Clause → Json
  | .guarded guard body =>
    .object [("when", .object [("guard", guard.toJson), ("body", body.toJson)])]
  | .fallback body => .object [("otherwise", body.toJson)]

/-- A manifest as an object. -/
def Manifest.toJson (m : Manifest) : Json :=
  .object [("token", m.token.toJson), ("outer", m.outer.toJson),
    ("clauses", .array (m.clauses.map Clause.toJson))]

/-- A selection as an object. -/
def Selection.toJson : Selection → Json
  | .guarded index guard =>
    .object [("kind", .string "guarded"), ("index", .int index), ("guard", .string guard)]
  | .fallback index => .object [("kind", .string "fallback"), ("index", .int index)]

/-- A feed with its expected digest as an object. -/
def Feed.Reference.toJson (r : Feed.Reference) : Json :=
  .object [("url", .string r.url), ("checkpoint", r.checkpoint.toJson)]

/-- A resolved cask as an object with every field. -/
def ResolvedCask.toJson (c : ResolvedCask) : Json :=
  .object [("token", c.token.toJson), ("version", c.version.toJson),
    ("checksum", c.checksum.toJson), ("url", .ofOption c.url),
    ("appcast", .orNull Feed.Reference.toJson c.appcast), ("auto_updates", .bool c.autoUpdates),
    ("name", .ofOption c.name), ("homepage", .ofOption c.homepage),
    ("license", .orNull License.toJson c.license), ("app", .ofOption c.app),
    ("selected", c.selected.toJson)]

end CaskAudit
