import CaskAudit.Fetch.Scripted
import CaskAudit.Text.Pieces

/-!
# A world without a network

Surroundings in which no server can be reached. A request for a URL of the web fails to connect;
any other URL is not even turned into a request.
-/

namespace CaskAudit

open Text

/-- Whether a character may go on with the scheme of a URL. -/
def isSchemePart (c : Char) : Bool := c.isAlphanum || c == '+' || c == '-' || c == '.'

/-- The scheme of a URL in small letters, and what follows its colon. -/
def schemeOf? (url : List Char) : Option (List Char × List Char) :=
  match splitFirst? ':' url with
  | some (c :: scheme, rest) =>
    if c.isAlpha && scheme.all isSchemePart then some ((c :: scheme).map Char.toLower, rest)
    else none
  | _ => none

/-- Whether a scheme is one of the web. -/
def isWebScheme (scheme : List Char) : Bool :=
  scheme = "http".toList || scheme = "https".toList

/-- Whether a character ends the host in a URL of the web. -/
def endsHost (c : Char) : Bool := c == '/' || c == '?' || c == '#'

/-- A URL of the web as reports show it, which is with a slash where it has no path; it needs a
host. -/
def shownWebUrl? (scheme rest : List Char) : Option String :=
  let address := dropAll '/' rest
  let host := address.takeWhile (!endsHost ·)
  let path := address.dropWhile (!endsHost ·)
  if host.isEmpty then none
  else
    some (String.ofList (scheme ++ "://".toList ++ host.map Char.toLower ++
      (if path.head? = some '/' then path else '/' :: path)))

/-- Why a request for a URL fails where there is no network. -/
def offlineFailure (url : String) : FetchError :=
  match schemeOf? url.toList with
  | none => .request "builder error"
  | some (scheme, rest) =>
    if !isWebScheme scheme then .request s!"builder error for url ({url})"
    else
      match shownWebUrl? scheme rest with
      | some shown => .connect s!"error sending request for url ({shown})"
      | none => .request "builder error"

/-- A world without a network. -/
def World.offline : World := ⟨0, none, [], fun url => ⟨0, .failure (offlineFailure url)⟩, []⟩

end CaskAudit
