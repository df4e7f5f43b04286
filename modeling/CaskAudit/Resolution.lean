import CaskAudit.Guard.Printer
import CaskAudit.Manifest

/-!
# Resolution

What a manifest says about one host. The first clause whose guard holds is selected, or the clause
without a guard where none holds. A field comes from the selected clause or, where that is silent,
from the outer scope, and never from another clause. Templates are expanded for the version that
was selected.
-/

namespace CaskAudit

/-- A field with a template. -/
inductive TemplateField where
  | url | appcast
  deriving DecidableEq, Repr

/-- A field as manifests name it. -/
def TemplateField.name : TemplateField → String
  | url => "url"
  | appcast => "appcast"

/-- Why a manifest says nothing about a host. -/
inductive ResolveFault where
  | unknownRelease (clause : Nat) (release : String)
  | malformedGuard (clause : Nat) (m : Malformation)
  | noMatchingVersion (facts : Facts)
  | missingField (clause : Nat) (field : RequiredField)
  | template (field : TemplateField) (e : TemplateError)
  deriving DecidableEq, Repr

/-- A fault in words. -/
def ResolveFault.describe : ResolveFault → String
  | .unknownRelease clause release =>
    s!"clause {clause} compares against unknown release '{release}'"
  | .malformedGuard clause m => s!"clause {clause}: {m.describe}"
  | .noMatchingVersion facts =>
    s!"no clause matches {facts.describe} and no fallback is declared"
  | .missingField clause field => s!"selected clause {clause} declares no {field.name}"
  | .template field e => s!"cannot expand {field.name}: {e.message}"

/-- A fault with the token of the manifest. -/
structure ResolveError where
  token : Token
  fault : ResolveFault
  deriving DecidableEq, Repr

/-- The report of a manifest that says nothing about a host. -/
def ResolveError.message (e : ResolveError) : String := s!"{e.token.text}: {e.fault.describe}"

/-- The clause that was selected: a guarded one with the text of its guard, or the fallback. -/
inductive Selection where
  | guarded (index : Nat) (guard : String)
  | fallback (index : Nat)
  deriving DecidableEq, Repr

/-- The index of the selected clause. -/
def Selection.index : Selection → Nat
  | guarded index _ => index
  | fallback index => index

/-- A feed and the digest that it is expected to have. -/
structure Feed.Reference where
  url : String
  checkpoint : Digest
  deriving DecidableEq, Repr

/-- What a manifest says about one host. -/
structure ResolvedCask where
  token : Token
  version : Version
  checksum : Checksum
  url : Option String
  appcast : Option Feed.Reference
  autoUpdates : Bool
  name : Option String
  homepage : Option String
  license : Option License
  app : Option String
  selected : Selection
  deriving DecidableEq, Repr

namespace Manifest

/-- The first clause whose guard holds, the clauses being numbered from an index. -/
def firstAdmitted (f : Facts) (index : Nat) :
    List Clause → Except ResolveFault (Option (Selection × Declarations))
  | [] => .ok none
  | .fallback _ :: cs => firstAdmitted f (index + 1) cs
  | .guarded guard body :: cs =>
    match guard.evaluate f with
    | .ok true => .ok (some (.guarded index guard.render, body))
    | .ok false => firstAdmitted f (index + 1) cs
    | .error (.unknownRelease release) => .error (.unknownRelease index release)
    | .error (.malformed m) => .error (.malformedGuard index m)

/-- The clause that serves a host. -/
def select (m : Manifest) (f : Facts) : Except ResolveFault (Selection × Declarations) :=
  match firstAdmitted f 0 m.clauses with
  | .error e => .error e
  | .ok (some found) => .ok found
  | .ok none =>
    match m.fallback? with
    | some (index, body) => .ok (.fallback index, body)
    | none => .error (.noMatchingVersion f)

/-- The text of a template, where there is one. -/
def expandField (v : Version) (field : TemplateField) :
    Option Template → Except ResolveFault (Option String)
  | none => .ok none
  | some t =>
    match t.expand v with
    | .ok text => .ok (some text)
    | .error e => .error (.template field e)

/-- The feed of an appcast, where there is one. -/
def expandAppcast (v : Version) :
    Option Appcast → Except ResolveFault (Option Feed.Reference)
  | none => .ok none
  | some a =>
    match a.url.expand v with
    | .ok url => .ok (some ⟨url, a.checkpoint⟩)
    | .error e => .error (.template .appcast e)

end Manifest

/-- The fields of a clause, with those of the outer scope where the clause is silent. -/
def Declarations.orElse (own outer : Declarations) : Declarations where
  version := own.version.or outer.version
  checksum := own.checksum.or outer.checksum
  url := own.url.or outer.url
  appcast := own.appcast.or outer.appcast
  autoUpdates := own.autoUpdates.or outer.autoUpdates
  displayName := own.displayName.or outer.displayName
  homepage := own.homepage.or outer.homepage
  license := own.license.or outer.license
  app := own.app.or outer.app

namespace Manifest

/-- The descriptor that a selected clause gives with the outer scope. -/
def describe (token : Token) (selected : Selection) (d : Declarations) :
    Except ResolveFault ResolvedCask :=
  match d.version, d.checksum with
  | none, _ => .error (.missingField selected.index .version)
  | some _, none => .error (.missingField selected.index .sha256)
  | some version, some checksum =>
    match expandField version .url d.url with
    | .error e => .error e
    | .ok url =>
      match expandAppcast version d.appcast with
      | .error e => .error e
      | .ok appcast =>
        .ok
          { token, version, checksum, url, appcast
            autoUpdates := d.autoUpdates.getD false
            name := d.displayName
            homepage := d.homepage
            license := d.license
            app := d.app
            selected }

/-- What a manifest says about a host. -/
def resolve (m : Manifest) (f : Facts) : Except ResolveError ResolvedCask :=
  match m.select f with
  | .error fault => .error ⟨m.token, fault⟩
  | .ok (selected, body) =>
    match describe m.token selected (body.orElse m.outer) with
    | .error fault => .error ⟨m.token, fault⟩
    | .ok cask => .ok cask

end Manifest

end CaskAudit
