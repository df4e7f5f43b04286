import CaskAudit.Feed.Basic
import CaskAudit.Json.Platform
import CaskAudit.Json.Reader

/-!
# GitHub releases

The releases of a repository as the service lists them, newest first, in JSON. Drafts are left out,
and one leading `v` is no part of a version. Members that are not needed are not looked at.
-/

namespace CaskAudit.GitHub

/-- A release in a listing. -/
structure Listing where
  tag : String
  draft : Bool
  prerelease : Bool
  urls : List String
  deriving DecidableEq, Repr

/-- The URL of a file of a release. -/
def assetUrl? (j : Json) : Option String := do
  (← (← j.record? ["browser_download_url"]).lookup "browser_download_url").string?

/-- The release that a JSON value lists. -/
def Listing.ofJson? (j : Json) : Option Listing := do
  let members ← j.record? ["tag_name", "draft", "prerelease", "assets"]
  let tag ← (← members.lookup "tag_name").string?
  let draft ← Json.memberOr? false Json.bool? "draft" members
  let prerelease ← Json.memberOr? false Json.bool? "prerelease" members
  let urls ← Json.memberOr? [] (fun a => a.items?.bind (·.mapM assetUrl?)) "assets" members
  return ⟨tag, draft, prerelease, urls⟩

/-- The entry that a listed release gives. -/
def Listing.entry (l : Listing) : FeedEntry :=
  let version := String.ofList (Text.dropOne 'v' l.tag.toList)
  ⟨version, none, l.urls, none, l.prerelease || looksPrerelease version⟩

/-- The entries that a response lists, in its order, unless it is malformed. -/
def entries? (body : String) : Option (List FeedEntry) := do
  let listings ← (← (← Json.parse? body).items?).mapM Listing.ofJson?
  return (listings.filter (!·.draft)).map Listing.entry

end CaskAudit.GitHub
