import CaskAudit.Feed.SourceForge
import CaskAudit.Proofs.Feed.Newest
import Mathlib.Data.List.Induction
import Mathlib.Data.List.Nodup

/-!
# Files that make releases

A SourceForge feed lists files, and the files of one version make one release. Adding one file to
the releases of others gives the releases of all of them (`groups_foldl`), so the entries of a feed
group its files: no version is there twice, and no URL is lost, doubled or moved to another version.
Sorting then leaves the versions in their strict order, which is the same for the same items in any
order.
-/

namespace CaskAudit

/-! ## The strict order of versions -/

namespace FeedEntry

variable {entries others : List FeedEntry}

/-- Every entry has a newer version than those after it. -/
def StrictlyNewestFirst (entries : List FeedEntry) : Prop :=
  entries.Pairwise fun a b => compareVersions b.version a.version = .lt

/-- Entries with different versions are in strict order if no one stands after an older one. -/
lemma NewestFirst.strictly (h : NewestFirst entries)
    (hnodup : (entries.map FeedEntry.version).Nodup) : StrictlyNewestFirst entries := by
  refine (h.and (List.pairwise_map.1 hnodup)).imp ?_
  rintro a b ⟨hle, hne⟩
  rw [compareTo] at hle
  cases hversion : compareVersions b.version a.version with
  | lt => rfl
  | eq => exact absurd (Std.LawfulEqCmp.eq_of_compare hversion).symm hne
  | gt =>
    rw [hversion] at hle
    cases hle

/-- The same versions have one strict order. -/
lemma StrictlyNewestFirst.map_version_eq (h : StrictlyNewestFirst entries)
    (hothers : StrictlyNewestFirst others)
    (hperm : (entries.map FeedEntry.version).Perm (others.map FeedEntry.version)) :
    entries.map FeedEntry.version = others.map FeedEntry.version := by
  have hordered : ∀ es, StrictlyNewestFirst es →
      (es.map FeedEntry.version).Pairwise fun v w => compareVersions w v = .lt := by
    intro es hes
    rw [List.pairwise_map]
    exact hes
  refine List.Perm.eq_of_pairwise ?_ (hordered entries h) (hordered others hothers) hperm
  intro v w _ _ hwv hvw
  have hswap : compareVersions v w = (compareVersions w v).swap := Std.OrientedCmp.eq_swap
  rw [hvw, hwv] at hswap
  cases hswap

end FeedEntry

namespace SourceForge

open Markup Text

/-! ## Files -/

/-- The version that the title of an item yields. -/
def versionOf? (item : List Char) : Option String :=
  ((title? item).bind versionIn?).map String.ofList

/-- The URL of the media element of an item. -/
def urlOf? (item : List Char) : Option String := (mediaUrl? item).map String.ofList

/-- An item lists a file if its title yields a version. -/
lemma file?_eq (item : List Char) : file? item = (versionOf? item).map (·, urlOf? item) := by
  rw [file?, versionOf?, Option.map_map]
  rfl

/-- The URLs of the items with a version, in their order. -/
def urlsOf (items : List (List Char)) (version : String) : List String :=
  (items.filter (versionOf? · = some version)).filterMap urlOf?

variable {files : List (String × Option String)} {es : List FeedEntry} {version other : String}
  {url : Option String} {items : List (List Char)}

/-- The URLs of the files with a version, in their order. -/
def fileUrls (files : List (String × Option String)) (version : String) : List String :=
  (files.filter (·.1 = version)).filterMap Prod.snd

/-- The URLs of files one after the other. -/
lemma fileUrls_append (files files' : List (String × Option String)) (version : String) :
    fileUrls (files ++ files') version = fileUrls files version ++ fileUrls files' version := by
  unfold fileUrls
  rw [List.filter_append, List.filterMap_append]

/-- One more file of a version has its URL after the others. -/
lemma fileUrls_append_self (files : List (String × Option String)) (version : String)
    (url : Option String) :
    fileUrls (files ++ [(version, url)]) version = fileUrls files version ++ url.toList := by
  rw [fileUrls_append]
  cases url <;> simp [fileUrls]

/-- A file of another version changes nothing. -/
lemma fileUrls_append_of_ne (h : other ≠ version) (files : List (String × Option String))
    (url : Option String) : fileUrls (files ++ [(version, url)]) other = fileUrls files other := by
  rw [fileUrls_append]
  simp [fileUrls, h.symm]

/-- A version without files has no URLs. -/
lemma fileUrls_of_notMem (h : version ∉ files.map Prod.fst) : fileUrls files version = [] := by
  rw [fileUrls, List.filter_eq_nil_iff.2, List.filterMap_nil]
  intro file hfile heq
  exact h (List.mem_map.2 ⟨file, hfile, of_decide_eq_true heq⟩)

/-- The files of a feed have the URLs of its items. -/
lemma fileUrls_filterMap (items : List (List Char)) (version : String) :
    fileUrls (items.filterMap file?) version = urlsOf items version := by
  rw [fileUrls, urlsOf, List.filter_filterMap, List.filterMap_filterMap, List.filterMap_filter]
  refine List.filterMap_congr fun item _ => ?_
  rw [file?_eq]
  cases versionOf? item with
  | none => simp
  | some v => by_cases hv : v = version <;> simp [Option.filter, hv]

/-- The files of a feed have the versions of its items. -/
lemma mem_versions_filterMap :
    version ∈ (items.filterMap file?).map Prod.fst ↔
      ∃ item ∈ items, versionOf? item = some version := by
  simp [file?_eq, List.mem_filterMap]

/-! ## Releases -/

/-- The release that the files with a version make. -/
def release (files : List (String × Option String)) (version : String) : FeedEntry :=
  ⟨version, none, fileUrls files version, none, looksPrerelease version⟩

/-- Entries group files if each version of the files has one entry, which is the release that its
files make. -/
structure Groups (files : List (String × Option String)) (es : List FeedEntry) : Prop where
  nodup : (es.map FeedEntry.version).Nodup
  mem_iff : ∀ version, version ∈ es.map FeedEntry.version ↔ version ∈ files.map Prod.fst
  eq_release : ∀ e ∈ es, e = release files e.version

/-- A file of a new version makes an entry. -/
lemma addFile_of_notMem (url : Option String) (h : version ∉ es.map FeedEntry.version) :
    addFile version url es =
      es ++ [⟨version, none, url.toList, none, looksPrerelease version⟩] := by
  induction es with
  | nil => rfl
  | cons e es ih =>
    obtain ⟨hhead, htail⟩ := not_or.1 (mt List.mem_cons.2 h)
    rw [addFile, if_neg (Ne.symm hhead), ih htail, List.cons_append]

/-- A file of a version that has an entry adds its URL to the entry. -/
lemma addFile_of_mem (url : Option String) (hnodup : (es.map FeedEntry.version).Nodup)
    (h : version ∈ es.map FeedEntry.version) :
    addFile version url es = es.map fun e =>
      if e.version = version then { e with urls := e.urls ++ url.toList } else e := by
  induction es with
  | nil => cases h
  | cons e es ih =>
    obtain ⟨hnew, hrest⟩ := List.nodup_cons.1 hnodup
    rw [addFile, List.map_cons]
    split
    · next heq =>
      -- No entry after this one has the version.
      have hsame : ∀ e' ∈ es, (if e'.version = version then
          { e' with urls := e'.urls ++ url.toList } else e') = e' := by
        intro e' he'
        refine if_neg fun heq' => hnew ?_
        rw [heq, ← heq']
        exact List.mem_map_of_mem he'
      rw [List.map_congr_left hsame, List.map_id']
    · next hne =>
      rcases List.mem_cons.1 h with heq | hmem
      · exact absurd heq.symm hne
      · rw [ih hrest hmem]

/-- One more file of a version that has an entry keeps the entries groups. -/
lemma Groups.addFile_of_mem (h : Groups files es) (hmem : version ∈ es.map FeedEntry.version)
    (url : Option String) : Groups (files ++ [(version, url)]) (addFile version url es) := by
  have hadd := SourceForge.addFile_of_mem url h.nodup hmem
  have hversions : (addFile version url es).map FeedEntry.version = es.map FeedEntry.version := by
    rw [hadd, List.map_map]
    refine List.map_congr_left fun e _ => ?_
    rw [Function.comp_apply]
    split <;> rfl
  refine ⟨hversions ▸ h.nodup, fun v => ?_, fun e he => ?_⟩
  · have hold : v = version → v ∈ files.map Prod.fst := fun hv => hv ▸ (h.mem_iff version).1 hmem
    calc v ∈ (addFile version url es).map FeedEntry.version
        ↔ v ∈ files.map Prod.fst := by rw [hversions, h.mem_iff]
      _ ↔ v ∈ files.map Prod.fst ∨ v = version := (or_iff_left_of_imp hold).symm
      _ ↔ v ∈ (files ++ [(version, url)]).map Prod.fst := by
          rw [List.map_append, List.mem_append, List.map_singleton, List.mem_singleton]
  · rw [hadd] at he
    obtain ⟨e, hold, rfl⟩ := List.mem_map.1 he
    have hrelease := h.eq_release e hold
    split
    · next heq =>
      rw [heq] at hrelease
      rw [hrelease, release, release, fileUrls_append_self]
    · next hne =>
      rw [release, fileUrls_append_of_ne hne]
      exact hrelease

/-- One more file of a new version keeps the entries groups. -/
lemma Groups.addFile_of_notMem (h : Groups files es) (hmem : version ∉ es.map FeedEntry.version)
    (url : Option String) : Groups (files ++ [(version, url)]) (addFile version url es) := by
  have hadd := SourceForge.addFile_of_notMem url hmem
  have hversions : (addFile version url es).map FeedEntry.version =
      es.map FeedEntry.version ++ [version] := by
    rw [hadd, List.map_append, List.map_singleton]
  have hnone : fileUrls files version = [] :=
    fileUrls_of_notMem fun hfile => hmem ((h.mem_iff version).2 hfile)
  refine ⟨?_, fun v => ?_, fun e he => ?_⟩
  · rw [hversions]
    exact h.nodup.append (List.nodup_singleton _) (List.disjoint_singleton.2 hmem)
  · calc v ∈ (addFile version url es).map FeedEntry.version
        ↔ v ∈ es.map FeedEntry.version ∨ v ∈ [version] := by rw [hversions, List.mem_append]
      _ ↔ v ∈ files.map Prod.fst ∨ v ∈ [version] := by rw [h.mem_iff]
      _ ↔ v ∈ (files ++ [(version, url)]).map Prod.fst := by
          rw [List.map_append, List.mem_append, List.map_singleton]
  · rw [hadd] at he
    rcases List.mem_append.1 he with hold | hnew
    · have hne : e.version ≠ version := fun heq => hmem (heq ▸ List.mem_map_of_mem hold)
      rw [release, fileUrls_append_of_ne hne]
      exact h.eq_release e hold
    · obtain rfl := List.mem_singleton.1 hnew
      rw [release, fileUrls_append_self, hnone, List.nil_append]

/-- Files that are added one after another are grouped. -/
lemma groups_foldl (files : List (String × Option String)) :
    Groups files (files.foldl (fun es (version, url) => addFile version url es) []) := by
  induction files using List.reverseRecOn with
  | nil => exact ⟨List.nodup_nil, fun _ => Iff.rfl, fun _ he => nomatch he⟩
  | append_singleton files file ih =>
    rw [List.foldl_append]
    by_cases hmem : file.1 ∈ (files.foldl (fun es (version, url) => addFile version url es) []).map
        FeedEntry.version
    · exact ih.addFile_of_mem hmem file.2
    · exact ih.addFile_of_notMem hmem file.2

/-- Groups stay groups in another order. -/
lemma Groups.perm {es' : List FeedEntry} (h : Groups files es) (hperm : es'.Perm es) :
    Groups files es' where
  nodup := (hperm.map FeedEntry.version).nodup_iff.2 h.nodup
  mem_iff version := (hperm.map FeedEntry.version).mem_iff.trans (h.mem_iff version)
  eq_release e he := h.eq_release e (hperm.mem_iff.1 he)

/-- The entries of a feed group its files. -/
lemma groups_entries (body : String) :
    Groups ((Markup.items body.toList).filterMap file?) (entries body) :=
  (groups_foldl _).perm (FeedEntry.perm_sortNewestFirst _)

/-- The entries of a feed have pairwise different versions, in strict order from the newest to the
oldest. -/
lemma strictlyNewestFirst_entries (body : String) :
    FeedEntry.StrictlyNewestFirst (entries body) :=
  (FeedEntry.newestFirst_sortNewestFirst _).strictly (groups_entries body).nodup

/-- A version has an entry exactly if an item yields it. -/
lemma mem_versions_entries {body : String} :
    version ∈ (entries body).map FeedEntry.version ↔
      ∃ item ∈ Markup.items body.toList, versionOf? item = some version :=
  ((groups_entries body).mem_iff version).trans mem_versions_filterMap

/-- An entry has the URLs of the items with its version. -/
lemma urls_of_mem_entries {body : String} {e : FeedEntry} (he : e ∈ entries body) :
    e.urls = urlsOf (Markup.items body.toList) e.version := by
  rw [← fileUrls_filterMap]
  exact congrArg FeedEntry.urls ((groups_entries body).eq_release e he)

/-- Grouping loses and doubles nothing. The entries of a SourceForge feed have pairwise different
versions, which are those that the titles of its items yield; each has the URLs of the items with
its version in the order of the document, and neither a build nor a minimum system version. The
versions are in strict order from the newest to the oldest. So the same items in another order give
the same versions in the same order, and each version the same URLs in some order. -/
theorem entries_group_items (body : String) :
    ((entries body).map FeedEntry.version).Nodup ∧
    (∀ version, version ∈ (entries body).map FeedEntry.version ↔
      ∃ item ∈ Markup.items body.toList, versionOf? item = some version) ∧
    (∀ e ∈ entries body,
      e.urls =
        ((Markup.items body.toList).filter (versionOf? · = some e.version)).filterMap urlOf? ∧
      e.build = none ∧ e.minimumSystemVersion = none) ∧
    (entries body).Pairwise (fun a b => compareVersions b.version a.version = .lt) ∧
    ∀ other : String, (Markup.items other.toList).Perm (Markup.items body.toList) →
      (entries other).map FeedEntry.version = (entries body).map FeedEntry.version ∧
      ∀ e ∈ entries other, ∀ e' ∈ entries body, e.version = e'.version → e.urls.Perm e'.urls := by
  have hgroups := groups_entries body
  have hstrictly := strictlyNewestFirst_entries body
  refine ⟨hgroups.nodup, fun _ => mem_versions_entries, ?_, hstrictly, ?_⟩
  · intro e he
    have hrelease := hgroups.eq_release e he
    exact ⟨urls_of_mem_entries he, congrArg FeedEntry.build hrelease,
      congrArg FeedEntry.minimumSystemVersion hrelease⟩
  · intro other hperm
    refine ⟨?_, ?_⟩
    · refine (strictlyNewestFirst_entries other).map_version_eq hstrictly ?_
      rw [List.perm_ext_iff_of_nodup (groups_entries other).nodup hgroups.nodup]
      intro version
      rw [mem_versions_entries, mem_versions_entries]
      exact exists_congr fun item => and_congr_left' hperm.mem_iff
    · intro e he e' he' hversion
      rw [urls_of_mem_entries he, urls_of_mem_entries he', hversion]
      exact (hperm.filter _).filterMap _

/-- A feed with two files of one version around an item without one. -/
def filesFeed : String :=
  "<item><title>1.2</title><media:content url='a'></item>" ++
  "<item><title>read me</title><media:content url='c'></item>" ++
  "<item><title>1.2</title><media:content url='b'></item>"

/-- The same items in another order. -/
def reorderedFeed : String :=
  "<item><title>1.2</title><media:content url='b'></item>" ++
  "<item><title>read me</title><media:content url='c'></item>" ++
  "<item><title>1.2</title><media:content url='a'></item>"

/-- Two feeds with the same items in two orders have the same versions in one order. The release of
the version that two files share has the URLs of both, and not that of the item between them. -/
theorem entries_group_items_reordered :
    (Markup.items reorderedFeed.toList).Perm (Markup.items filesFeed.toList) ∧
      (entries reorderedFeed).map FeedEntry.version = (entries filesFeed).map FeedEntry.version ∧
      "1.2" ∈ (entries filesFeed).map FeedEntry.version ∧
      ∀ e ∈ entries filesFeed, e.version = "1.2" → e.urls = ["a", "b"] := by
  have hperm : (Markup.items reorderedFeed.toList).Perm (Markup.items filesFeed.toList) := by
    have hreverse : Markup.items reorderedFeed.toList =
        (Markup.items filesFeed.toList).reverse := by
      decide +kernel
    rw [hreverse]
    exact List.reverse_perm _
  obtain ⟨-, hversions, hurls, -, hsame⟩ := entries_group_items filesFeed
  refine ⟨hperm, (hsame reorderedFeed hperm).1, (hversions "1.2").2 (by decide +kernel), ?_⟩
  intro e he hversion
  rw [(hurls e he).1, hversion]
  decide +kernel

end SourceForge

end CaskAudit
