import CaskAudit.Feed.Basic
import CaskAudit.Feed.Markup
import CaskAudit.Text.Alphanumeric

/-!
# SourceForge feeds

In a SourceForge feed every item is a file. The version is taken from the path in its title, and
the files of one version make one release.
-/

namespace CaskAudit.SourceForge

open CaskAudit.Markup CaskAudit.Text

/-! ## Titles -/

/-- The mark that closes a title. -/
def titleClosing : List Char := "</title>".toList

/-- The mark that opens verbatim text. -/
def verbatimOpening : List Char := "<![CDATA[".toList

/-- The mark that closes verbatim text. -/
def verbatimClosing : List Char := "]]>".toList

/-- Whether verbatim text that fills a title ends at the start of a text. -/
def endsVerbatim (s : List Char) : Bool :=
  match dropLeading? verbatimClosing s with
  | some rest => startsWith titleClosing (trimStart rest)
  | none => false

/-- The verbatim text up to where it ends a title. -/
def verbatim? : List Char → Option (List Char)
  | [] => none
  | c :: rest =>
    if endsVerbatim (c :: rest) then some [] else (verbatim? rest).map (c :: ·)

/-- The title of an item, without blanks at its ends. -/
def title? (item : List Char) : Option (List Char) :=
  match breakOn? "<title>".toList item with
  | none => none
  | some (_, after) =>
    let plain := (breakOn? titleClosing after).map (·.1)
    ((dropLeading? verbatimOpening (trimStart after)).bind verbatim?).or plain |>.map trim

/-! ## Versions in titles -/

/-- Whether a character separates the parts of a version. -/
def isSeparator (c : Char) : Bool := c == '.' || c == '_' || c == '-'

/-- Whether a text begins with a digit. -/
def startsWithDigit : List Char → Bool
  | [] => false
  | c :: _ => isDecimalDigit c

/-- The rest of a version: word characters, and separators that a digit follows. -/
def versionTail : List Char → List Char
  | [] => []
  | c :: rest =>
    if isWordChar c || (isSeparator c && startsWithDigit rest) then c :: versionTail rest else []

/-- The first version in a text: a digit and at least one character more. -/
def versionIn? : List Char → Option (List Char)
  | [] => none
  | c :: rest =>
    if isDecimalDigit c && !(versionTail rest).isEmpty then some (c :: versionTail rest)
    else versionIn? rest

/-! ## URLs -/

/-- Whether a character is a quote of either kind. -/
def isQuote (c : Char) : Bool := c == '"' || c == '\''

/-- The URL at the start of a text, between two quotes of any kind. -/
def urlHere? (s : List Char) : Option (List Char) :=
  match afterEquals? "url".toList s with
  | some (q :: rest) =>
    let value := rest.takeWhile (!isQuote ·)
    if isQuote q && !value.isEmpty && value.length < rest.length then some value else none
  | _ => none

/-- The last URL that begins before a tag ends. -/
def lastUrl? : List Char → Option (List Char)
  | [] => none
  | c :: rest => if c = '>' then none else (lastUrl? rest).or (urlHere? (c :: rest))

/-- The URL of the first media element that has one. -/
def mediaUrl? (s : List Char) : Option (List Char) :=
  match hopen : breakOn? "<media:content".toList s with
  | some (_, c :: rest) =>
    have hs := length_lt_of_breakOn? (by decide) hopen
    let found := if isBlank c then lastUrl? rest else none
    found.or (mediaUrl? (c :: rest))
  | _ => none
termination_by s.length

/-! ## Entries -/

/-- The version of the file that an item lists, and its URL. -/
def file? (item : List Char) : Option (String × Option String) :=
  ((title? item).bind versionIn?).map fun version =>
    (String.ofList version, (mediaUrl? item).map String.ofList)

/-- Adds a file to the entry of its version, which is made if there is none. -/
def addFile (version : String) (url : Option String) : List FeedEntry → List FeedEntry
  | [] => [⟨version, none, url.toList, none, looksPrerelease version⟩]
  | e :: es =>
    if e.version = version then { e with urls := e.urls ++ url.toList } :: es
    else e :: addFile version url es

/-- The entries of a feed, newest first. -/
def entries (body : String) : List FeedEntry :=
  let files := (items body.toList).filterMap file?
  FeedEntry.sortNewestFirst (files.foldl (fun es (version, url) => addFile version url es) [])

end CaskAudit.SourceForge
