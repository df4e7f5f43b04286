import CaskAudit.Feed.GitHub
import CaskAudit.Feed.SourceForge
import CaskAudit.Feed.Sparkle

/-!
# Telling providers apart

The provider of a feed is told by its URL or else by its contents. A feed of GitHub releases is
looked up where the service lists them in JSON, which says more than the feed does.
-/

namespace CaskAudit

open Text

namespace Provider

/-- The mark before the owner and the repository in a URL. -/
def githubHost : List Char := "github.com/".toList

/-- A non-empty component of a path and what follows the slash after it. -/
def component? (s : List Char) : Option (List Char × List Char) :=
  (splitFirst? '/' s).filter (!·.1.isEmpty)

/-- The owner and the repository whose feed is named after the host. -/
def repositoryHere? (s : List Char) : Option (List Char × List Char) :=
  match component? s with
  | none => none
  | some (owner, rest) =>
    match component? rest with
    | none => none
    | some (repository, rest) =>
      if occursIn ".atom".toList (rest.takeWhile (· ≠ '\n')) then some (owner, repository)
      else none

/-- The owner and the repository whose feed a URL names. -/
def repository? (url : List Char) : Option (List Char × List Char) :=
  match hhost : breakOn? githubHost url with
  | none => none
  | some (_, after) =>
    have := length_lt_of_breakOn? (by decide) hhost
    (repositoryHere? after).or (repository? after)
termination_by url.length

/-- The provider that a URL tells, and the URL where the feed is to be inspected. -/
def guessByUrl (url : String) : Provider × String :=
  match repository? url.toList with
  | some (owner, repository) =>
    (github, "https://api.github.com/repos/" ++ String.ofList owner ++ "/" ++
      String.ofList repository ++ "/releases")
  | none => (unknown, url)

/-- Whether one text stands somewhere after another. -/
def standsAfter (first second : String) (s : List Char) : Bool :=
  match breakOn? first.toList s with
  | some (_, after) => occursIn second.toList after
  | none => false

/-- The provider that the contents of a feed tell. -/
def guessByContent (body : String) : Provider :=
  let s := body.toList
  if standsAfter "<rss" "xmlns:sparkle" s || standsAfter "<rss" "<enclosure" s then sparkle
  else if standsAfter "<feed" "<id>tag:github.com" s then github
  else if standsAfter "<rss" "xmlns:sf" s || standsAfter "<channel" "xmlns:sf" s then sourceForge
  else unknown

end Provider

namespace Feed

/-- The feed of a provider, unless its contents are malformed; only GitHub's can be. -/
def parse? (provider : Provider) (body : String) : Option Feed :=
  match provider with
  | .sparkle => some ⟨provider, Sparkle.entries body⟩
  | .github => (GitHub.entries? body).map (⟨provider, ·⟩)
  | .sourceForge => some ⟨provider, SourceForge.entries body⟩
  | .unknown => some ⟨provider, []⟩

end Feed

end CaskAudit
