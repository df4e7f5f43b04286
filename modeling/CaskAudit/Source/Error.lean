import CaskAudit.Guard.Reader
import CaskAudit.Manifest

/-!
# Faults of manifest sources

Why a text is not read as a manifest. A fault carries the line where a reader would look for it.
-/

namespace CaskAudit

/-- Why lexemes do not form a cask definition. -/
inductive DefinitionFault where
  | expectedWord (word : String) (found : Option Lexeme)
  | expectedToken
  | trailingInLine (found : Lexeme)
  | trailingAfterBlock (found : Lexeme)
  | unexpected (found : Lexeme)
  | missingBlockEnd
  | missingChainEnd
  | unterminatedBlock
  | secondConditional
  | nestedConditional
  | unlessBlock
  | afterElse (word : String)
  | missingGuard
  | expectedValue (stanza : String) (found : Option Lexeme)
  | duplicate (stanza : String)
  | invalidCheckpoint (found : Lexeme)
  | missingCheckpoint
  | expectedTruth
  deriving DecidableEq, Repr

/-- The words that tell what was found, if anything was. -/
def foundInstead : Option Lexeme → String
  | none => ""
  | some found => s!", found {found.describe}"

/-- A fault in words. -/
def DefinitionFault.describe : DefinitionFault → String
  | .expectedWord word found => s!"expected '{word}'{foundInstead found}"
  | .expectedToken => "expected a cask token after 'cask'"
  | .trailingInLine found => s!"unexpected {found.describe} at end of line"
  | .trailingAfterBlock found => s!"unexpected {found.describe} after cask block"
  | .unexpected found => s!"unexpected {found.describe}"
  | .missingBlockEnd => "missing 'end' for cask block"
  | .missingChainEnd => "missing 'end' for 'if'"
  | .unterminatedBlock => "unterminated 'do' block"
  | .secondConditional => "only one top-level conditional is supported"
  | .nestedConditional => "nested conditionals are not supported"
  | .unlessBlock => "'unless' blocks are not supported"
  | .afterElse word => s!"'{word}' after 'else'"
  | .missingGuard => "missing guard expression"
  | .expectedValue stanza found => s!"'{stanza}' expects a value{foundInstead found}"
  | .duplicate stanza => s!"duplicate '{stanza}' stanza"
  | .invalidCheckpoint found => s!"invalid checkpoint {found.describe}"
  | .missingCheckpoint => "appcast requires a checkpoint"
  | .expectedTruth => "'auto_updates' expects true or false"

/-- Why tables do not form a manifest. -/
inductive DocumentFault where
  | misplaced (key table : String)
  | missingToken
  | declaredTwice (field : String)
  deriving DecidableEq, Repr

/-- A fault in words. -/
def DocumentFault.describe : DocumentFault → String
  | .misplaced key table => s!"'{key}' is not allowed in {table}"
  | .missingToken => "[cask] requires a token"
  | .declaredTwice field => s!"'{field}' is set in both [cask] and [defaults]"

/-- Why no manifest could be read. -/
inductive SourceError where
  | unreadable (path cause : String)
  | unsupportedFormat (path : String)
  | scan (e : Lexeme.ScanError)
  | guard (e : Guard.ReadError)
  | definition (line : Nat) (fault : DefinitionFault)
  | document (line : Nat) (fault : DocumentFault)
  | template (line : Nat) (e : TemplateError)
  | digest (line : Nat) (e : DigestError)
  | version (line : Nat) (e : VersionError)
  | malformedDocument
  | manifest (e : ManifestError)
  deriving DecidableEq, Repr

/-- A text with the line that it is about. -/
def onLine (line : Nat) (text : String) : String := s!"line {line}: {text}"

/-- The report of a manifest that could not be read. -/
def SourceError.message : SourceError → String
  | .unreadable path cause => s!"Failed to read {path}: {cause}"
  | .unsupportedFormat path => s!"Unsupported manifest format: {path}"
  | .scan e => onLine e.line e.fault.describe
  | .guard e => onLine e.line e.fault.describe
  | .definition line fault => onLine line fault.describe
  | .document line fault => onLine line fault.describe
  | .template line e => onLine line e.message
  | .digest line e => onLine line e.message
  | .version line e => onLine line e.message
  | .malformedDocument => "TOML error: malformed document"
  | .manifest e => e.message

/-- A guard's fault as a fault of the source that holds it. -/
def SourceError.ofGuard : Guard.TextError → SourceError
  | .scan e => .scan e
  | .read e => .guard e

end CaskAudit
