import CaskAudit.Feed.Basic
import CaskAudit.Feed.Markup

/-!
# Sparkle feeds

In a Sparkle feed every item is a release. Its versions are attributes of the enclosure, or else
elements of their own; the short version counts as the version where there is one. Items in
comments count like any other.
-/

namespace CaskAudit.Sparkle

open CaskAudit.Markup

/-- A field of an item: an attribute of its enclosure, or else an element. -/
def field? (enclosure : Option (List Char)) (item : List Char) (name : String) : Option String :=
  (enclosure.bind (attribute? name)).or (element? name item)

/-- The version and the build that an item gives. -/
def versions? (short build : Option String) : Option (String × Option String) :=
  match short, build with
  | some short, build => some (short, build)
  | none, some build => some (build, none)
  | none, none => none

/-- Whether the channel of an item is one of pre-releases. -/
def isPrereleaseChannel (item : List Char) : Bool :=
  match element? "sparkle:channel" item with
  | some channel => channel ≠ "release"
  | none => false

/-- The entry that an item gives, if it has a version. -/
def entryOf? (item : List Char) : Option FeedEntry :=
  let enclosure := tag? "enclosure".toList item
  (versions? (field? enclosure item "sparkle:shortVersionString")
    (field? enclosure item "sparkle:version")).map fun (version, build) =>
      { version, build
        urls := (enclosure.bind (attribute? "url")).toList
        minimumSystemVersion := (element? "sparkle:minimumSystemVersion" item).or
          (element? "minimumSystemVersion" item)
        prerelease := looksPrerelease version || isPrereleaseChannel item }

/-- The entries of a feed, newest first. -/
def entries (body : String) : List FeedEntry :=
  FeedEntry.sortNewestFirst ((items (uncomment body.toList)).filterMap entryOf?)

end CaskAudit.Sparkle
