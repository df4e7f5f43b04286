import CaskAudit.Source.Error

/-!
# Stanzas

A stanza declares one field of a cask. `Stanza.declare` adds what a stanza says to what has been
declared before; a field is declared once, but for the name, of which the first counts.
-/

namespace CaskAudit

/-- The fields that stanzas declare. -/
inductive Stanza.Kind where
  | version | sha256 | url | appcast | name | homepage | license | autoUpdates | app
  deriving DecidableEq, Repr

namespace Stanza.Kind

/-- Every kind of stanza. -/
def all : List Kind := [version, sha256, url, appcast, name, homepage, license, autoUpdates, app]

/-- The word that begins a stanza. -/
def word : Kind → String
  | version => "version"
  | sha256 => "sha256"
  | url => "url"
  | appcast => "appcast"
  | name => "name"
  | homepage => "homepage"
  | license => "license"
  | autoUpdates => "auto_updates"
  | app => "app"

/-- The kind of stanza that a word begins. -/
def ofWord? (w : String) : Option Kind := all.find? (·.word = w)

end Stanza.Kind

/-- A stanza on a line, with the lexemes after its first word. -/
structure Stanza where
  kind : Stanza.Kind
  line : Nat
  args : List Placed
  deriving DecidableEq, Repr

namespace Stanza

/-- Refuses a stanza. -/
def fail {α : Type} (s : Stanza) (fault : DefinitionFault) : Except SourceError α :=
  .error (.definition s.line fault)

/-- The text that the first argument gives. -/
def text (s : Stanza) : Except SourceError String :=
  match s.args.head?.map Placed.lexeme with
  | some (.text t) => .ok t
  | some (.symbol t) => .ok t
  | some (.number t) => .ok t
  | found => s.fail (.expectedValue s.kind.word found)

/-- The lexeme that follows the first occurrence of a key. -/
def keyword? (key : String) : List Placed → Option Lexeme
  | l :: l' :: ls => if l.lexeme = .key key then some l'.lexeme else keyword? key (l' :: ls)
  | _ => none

/-- A template on the line of a stanza. -/
def template (s : Stanza) (source : String) : Except SourceError Template :=
  (Template.parse source).mapError (.template s.line)

/-- The checkpoint of an appcast stanza. -/
def checkpoint (s : Stanza) : Except SourceError Digest :=
  match keyword? "checkpoint" s.args with
  | some (.text digest) => (Digest.ofText digest).mapError (.digest s.line)
  | some found => s.fail (.invalidCheckpoint found)
  | none => s.fail .missingCheckpoint

/-- The truth value that the first argument gives. -/
def truth (s : Stanza) : Except SourceError Bool :=
  match s.args.head?.map Placed.lexeme with
  | some (.word "true") => .ok true
  | some (.word "false") => .ok false
  | _ => s.fail .expectedTruth

/-- A value for a field that has none yet. -/
def once {α : Type} (s : Stanza) (old : Option α) (value : α) : Except SourceError (Option α) :=
  if old.isSome then s.fail (.duplicate s.kind.word) else .ok (some value)

/-- What is declared once a stanza has been read. -/
def declare (s : Stanza) (d : Declarations) : Except SourceError Declarations :=
  match s.kind with
  | .version => do
    let v ← (Version.ofText (← s.text)).mapError (.version s.line)
    return { d with version := ← s.once d.version v }
  | .sha256 => do
    let c ← (Checksum.ofText (← s.text)).mapError (.digest s.line)
    return { d with checksum := ← s.once d.checksum c }
  | .url => do
    let t ← s.template (← s.text)
    return { d with url := ← s.once d.url t }
  | .appcast => do
    let t ← s.template (← s.text)
    let c ← s.checkpoint
    return { d with appcast := ← s.once d.appcast ⟨t, c⟩ }
  | .name => do
    let t ← s.text
    return { d with displayName := some (d.displayName.getD t) }
  | .homepage => do
    let t ← s.text
    return { d with homepage := ← s.once d.homepage t }
  | .license => do
    let t ← s.text
    return { d with license := ← s.once d.license (License.ofText t) }
  | .autoUpdates => do
    let b ← s.truth
    return { d with autoUpdates := ← s.once d.autoUpdates b }
  | .app => do
    let t ← s.text
    return { d with app := ← s.once d.app t }

end Stanza

end CaskAudit
