import CaskAudit.Digest
import CaskAudit.Guard.Basic
import CaskAudit.Template
import CaskAudit.Token

/-!
# Manifests

A manifest describes a cask by what it declares for every host and by clauses, each of which
declares something for the hosts that its guard admits. One clause at most has no guard; it serves
the hosts that no guard admits. `Manifest.build` refuses descriptions that could never be resolved.
-/

namespace CaskAudit

/-- Where the feed of a cask is, and the digest of its contents when the cask was last reviewed. -/
structure Appcast where
  url : Template
  checkpoint : Digest
  deriving DecidableEq, Repr

/-- The fields that a clause, or the outer scope, may declare. -/
structure Declarations where
  version : Option Version
  checksum : Option Checksum
  url : Option Template
  appcast : Option Appcast
  autoUpdates : Option Bool
  displayName : Option String
  homepage : Option String
  license : Option License
  app : Option String
  deriving DecidableEq, Repr

namespace Declarations

/-- Declares nothing. -/
def empty : Declarations := ⟨none, none, none, none, none, none, none, none, none⟩

/-- Whether nothing is declared. -/
def isEmpty (d : Declarations) : Bool := d = empty

/-- Whether a field is declared that may differ between releases of the application. -/
def hasReleaseFields (d : Declarations) : Bool :=
  d.version.isSome || d.checksum.isSome || d.url.isSome || d.appcast.isSome ||
    d.autoUpdates.isSome

/-- The fields that may differ between releases of the application. -/
def releaseFields (d : Declarations) : Declarations :=
  { empty with
    version := d.version
    checksum := d.checksum
    url := d.url
    appcast := d.appcast
    autoUpdates := d.autoUpdates }

/-- The fields that describe the application as such. -/
def descriptiveFields (d : Declarations) : Declarations :=
  { empty with
    displayName := d.displayName
    homepage := d.homepage
    license := d.license
    app := d.app }

end Declarations

/-- A clause of a manifest. -/
inductive Clause where
  | guarded (guard : Guard) (body : Declarations)
  | fallback (body : Declarations)
  deriving BEq, Repr

namespace Clause

/-- What a clause declares. -/
def body : Clause → Declarations
  | guarded _ body => body
  | fallback body => body

/-- The condition of a clause. -/
def guard? : Clause → Option Guard
  | guarded guard _ => some guard
  | fallback _ => none

/-- Whether a clause has no condition. -/
def isFallback : Clause → Bool
  | guarded _ _ => false
  | fallback _ => true

end Clause

/-- A field without which nothing can be installed. -/
inductive RequiredField where
  | version | sha256
  deriving DecidableEq, Repr

/-- A field as manifests name it. -/
def RequiredField.name : RequiredField → String
  | version => "version"
  | sha256 => "sha256"

/-- Why a description is no manifest. -/
inductive ManifestError where
  | noClauses (token : Token)
  | emptyToken
  | malformedGuard (token : Token) (clause : Nat) (e : GuardError)
  | severalFallbacks (token : Token)
  | missingField (token : Token) (clause : Nat) (field : RequiredField)
  deriving DecidableEq, Repr

/-- The report of a description that is refused. -/
def ManifestError.message : ManifestError → String
  | .noClauses token => s!"Manifest '{token.text}' has no clauses"
  | .emptyToken => "Manifest token is empty"
  | .malformedGuard token clause e => s!"Manifest '{token.text}', clause {clause}: {e.message}"
  | .severalFallbacks token =>
    s!"Manifest '{token.text}' declares more than one unconditional clause"
  | .missingField token clause field =>
    s!"Manifest '{token.text}', clause {clause}: no {field.name} declared"

/-- The description of a cask. -/
structure Manifest where
  token : Token
  outer : Declarations
  clauses : List Clause
  deriving BEq, Repr

namespace Manifest

/-- Refuses a clause with a malformed guard, and one that yields no version or no checksum even
with the help of the outer scope. -/
def checkClause (token : Token) (outer : Declarations) (index : Nat) (c : Clause) :
    Except ManifestError Unit :=
  match c.guard?.bind Guard.malformation? with
  | some m => .error (.malformedGuard token index (.malformed m))
  | none =>
    if c.body.version.isNone && outer.version.isNone then
      .error (.missingField token index .version)
    else if c.body.checksum.isNone && outer.checksum.isNone then
      .error (.missingField token index .sha256)
    else .ok ()

/-- Checks clauses from left to right; the first of them has a given index. -/
def checkClauses (token : Token) (outer : Declarations) (index : Nat) :
    List Clause → Except ManifestError Unit
  | [] => .ok ()
  | c :: cs =>
    match checkClause token outer index c with
    | .error e => .error e
    | .ok () => checkClauses token outer (index + 1) cs

/-- The manifest that a description gives. -/
def build (token : String) (outer : Declarations) (clauses : List Clause) :
    Except ManifestError Manifest :=
  let token := Token.ofText token
  if token.text.isEmpty then .error .emptyToken
  else if clauses.isEmpty then .error (.noClauses token)
  else
    match checkClauses token outer 0 clauses with
    | .error e => .error e
    | .ok () =>
      if 1 < clauses.countP Clause.isFallback then .error (.severalFallbacks token)
      else .ok ⟨token, outer, clauses⟩

/-- The clause without a guard and its index. -/
def fallback? (m : Manifest) : Option (Nat × Declarations) :=
  m.clauses.zipIdx.findSome? fun
    | (.fallback body, index) => some (index, body)
    | (.guarded _ _, _) => none

/-- Whether an appcast is declared for some host. -/
def hasAppcast (m : Manifest) : Bool :=
  m.outer.appcast.isSome || m.clauses.any (·.body.appcast.isSome)

end Manifest

end CaskAudit
