import CaskAudit.Text.Blank
import CaskAudit.Text.Lowercase
import CaskAudit.Text.Pieces

/-!
# Tokens and license tags

A token names a cask. It is kept in lower case without blanks at its ends, so that any spelling of
it by other letters finds the same cask. A license tag is free text without its colon.
-/

namespace CaskAudit

open Text

/-- The name of a cask. -/
structure Token where
  text : String
  deriving DecidableEq, Repr, Inhabited

namespace Token

/-- The token that a text writes. -/
def ofText (text : String) : Token := ⟨String.ofList (lowercase (trim text.toList))⟩

/-- Whether a token is the lower case of a text; blanks of the text count. -/
def spells (t : Token) (text : String) : Bool := t.text = String.ofList (lowercase text.toList)

end Token

/-- The license of an application, as declared. -/
structure License where
  tag : String
  deriving DecidableEq, Repr, Inhabited

/-- The license tag that a text writes; one colon before it does not count. -/
def License.ofText (text : String) : License := ⟨String.ofList (dropOne ':' (trim text.toList))⟩

end CaskAudit
