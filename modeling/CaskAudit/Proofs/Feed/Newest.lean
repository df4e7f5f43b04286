import CaskAudit.Feed.Provider
import CaskAudit.Proofs.Feed.Versions
import Mathlib.Data.List.Perm.Basic

/-!
# Entries from the newest to the oldest

Entries are compared by their keys, a version and a build (`compareTo_eq_compareKeys`), and the
order of keys is total. So sorting gives the same keys for the same entries in any order, keeps
entries that compare equal in their order, and lets no entry stand after an older one. The first
entry of a kind in a sorted feed is then a newest one of that kind, also after a filter.
-/

namespace CaskAudit

/-! ## Keys -/

namespace FeedEntry

variable {e : FeedEntry} {entries others : List FeedEntry}

/-- What entries are ordered by: the version and the build, where no build is the empty one. -/
def key (e : FeedEntry) : String × String := (e.version, e.build.getD "")

/-- Compares keys by version and then by build. -/
def compareKeys : String × String → String × String → Ordering :=
  compareLex (fun p q => compareVersions p.1 q.1) (fun p q => compareVersions p.2 q.2)

/-- Entries are compared by their keys. -/
lemma compareTo_eq_compareKeys (a b : FeedEntry) : a.compareTo b = compareKeys a.key b.key := rfl

/-- The order of keys is a total preorder. -/
instance : Std.TransCmp compareKeys := by
  have hon : ∀ f : String × String → String,
      Std.TransCmp fun p q => compareVersions (f p) (f q) := by
    intro f
    have hswap : ∀ {a b : String}, compareVersions a b = (compareVersions b a).swap :=
      Std.OrientedCmp.eq_swap
    exact { eq_swap := hswap, isLE_trans := fun hab hbc => Std.TransCmp.isLE_trans hab hbc }
  have hversion := hon Prod.fst
  have hbuild := hon Prod.snd
  unfold compareKeys
  infer_instance

/-- Keys that compare equal are identical. -/
lemma eq_of_compareKeys {p q : String × String} (h : compareKeys p q = .eq) : p = q := by
  obtain ⟨hversion, hbuild⟩ := Ordering.then_eq_eq.1 h
  have hfirst : p.1 = q.1 := Std.LawfulEqCmp.eq_of_compare hversion
  have hsecond : p.2 = q.2 := Std.LawfulEqCmp.eq_of_compare hbuild
  exact Prod.ext hfirst hsecond

/-- The order of entries is a total preorder. -/
instance : Std.TransCmp compareTo where
  eq_swap := by
    intro a b
    rw [compareTo_eq_compareKeys, compareTo_eq_compareKeys]
    exact Std.OrientedCmp.eq_swap
  isLE_trans := by
    intro a b c hab hbc
    rw [compareTo_eq_compareKeys] at hab hbc ⊢
    exact Std.TransCmp.isLE_trans hab hbc

/-- The order of two entries is told by that of the two the other way round. -/
lemma compareTo_swap (a b : FeedEntry) : a.compareTo b = (b.compareTo a).swap :=
  Std.OrientedCmp.eq_swap

/-! ## Sorting -/

/-- No entry stands after an older one. -/
def NewestFirst (entries : List FeedEntry) : Prop :=
  entries.Pairwise fun a b => (b.compareTo a).isLE = true

/-- Sorting is by a transitive relation. -/
lemma isLE_compareTo_trans (a b c : FeedEntry) (hab : (b.compareTo a).isLE = true)
    (hbc : (c.compareTo b).isLE = true) : (c.compareTo a).isLE = true :=
  Std.TransCmp.isLE_trans hbc hab

/-- Sorting is by a total relation. -/
lemma isLE_compareTo_total (a b : FeedEntry) :
    ((b.compareTo a).isLE || (a.compareTo b).isLE) = true := by
  rw [compareTo_swap a b]
  cases b.compareTo a <;> rfl

/-- Sorting neither adds entries nor loses any. -/
lemma perm_sortNewestFirst (entries : List FeedEntry) :
    (sortNewestFirst entries).Perm entries :=
  List.mergeSort_perm _ _

/-- After sorting no entry stands after an older one. -/
lemma newestFirst_sortNewestFirst (entries : List FeedEntry) :
    NewestFirst (sortNewestFirst entries) :=
  List.pairwise_mergeSort isLE_compareTo_trans isLE_compareTo_total entries

/-- Entries that compare equal to one another keep their order. -/
lemma filter_sortNewestFirst (e : FeedEntry) (entries : List FeedEntry) :
    (sortNewestFirst entries).filter (fun a => a.compareTo e = .eq) =
      entries.filter (fun a => a.compareTo e = .eq) := by
  have hequal : (entries.filter fun a => a.compareTo e = .eq).Pairwise
      fun a b => (b.compareTo a).isLE = true := by
    refine List.pairwise_of_forall_mem_list fun a ha b hb => ?_
    have hae : a.compareTo e = .eq := by simpa using (List.mem_filter.1 ha).2
    have hbe : b.compareTo e = .eq := by simpa using (List.mem_filter.1 hb).2
    have hea : (e.compareTo a).isLE = true := by
      rw [compareTo_swap, hae]
      rfl
    exact Std.TransCmp.isLE_trans (Ordering.isLE_of_eq_eq hbe) hea
  have hsub : (entries.filter fun a => a.compareTo e = .eq).Sublist (sortNewestFirst entries) :=
    List.sublist_mergeSort isLE_compareTo_trans isLE_compareTo_total hequal List.filter_sublist
  have hfilter := hsub.filter fun a => a.compareTo e = .eq
  rw [List.filter_filter] at hfilter
  simp only [Bool.and_self] at hfilter
  have hlength := ((perm_sortNewestFirst entries).filter fun a => a.compareTo e = .eq).length_eq
  exact (hfilter.eq_of_length hlength.symm).symm

/-- The keys of sorted entries do not depend on the order before. -/
lemma map_key_sortNewestFirst (h : entries.Perm others) :
    (sortNewestFirst entries).map key = (sortNewestFirst others).map key := by
  have hordered : ∀ l : List FeedEntry, ((sortNewestFirst l).map key).Pairwise
      fun p q => (compareKeys q p).isLE = true := by
    intro l
    exact List.pairwise_map.2 (newestFirst_sortNewestFirst l)
  have hperm := ((perm_sortNewestFirst entries).trans h).trans (perm_sortNewestFirst others).symm
  refine List.Perm.eq_of_pairwise ?_ (hordered entries) (hordered others) (hperm.map key)
  intro p q _ _ hqp hpq
  exact eq_of_compareKeys (Std.OrientedCmp.isLE_antisymm hpq hqp)

/-- Of the entries that pass a test, the first one is a newest one if none stands after an older
one. -/
lemma NewestFirst.isLE_of_find? {p : FeedEntry → Bool} (h : NewestFirst entries)
    (hfind : entries.find? p = some e) :
    ∀ a ∈ entries, p a = true → (a.compareTo e).isLE = true := by
  obtain ⟨-, before, after, rfl, hbefore⟩ := List.find?_eq_some_iff_append.1 hfind
  obtain ⟨-, hafter, -⟩ := List.pairwise_append.1 h
  intro a ha hpa
  rcases List.mem_append.1 ha with ha | ha
  · have hnot := hbefore a ha
    rw [hpa] at hnot
    cases hnot
  · rcases List.mem_cons.1 ha with rfl | ha
    · exact Ordering.isLE_of_eq_eq Std.ReflCmp.compare_self
    · exact (List.pairwise_cons.1 hafter).1 a ha

end FeedEntry

/-! ## The newest entries of a feed -/

namespace Feed

variable {f : Feed} {keep : String → Bool} {kind : Bool} {e : FeedEntry}

/-- An entry of a feed is a newest one of those that have a kind, pre-releases or others, and a
version that passes a test. -/
structure IsNewest (f : Feed) (keep : String → Bool) (kind : Bool) (e : FeedEntry) : Prop where
  mem : e ∈ f.entries
  kept : keep e.version = true
  prerelease : e.prerelease = kind
  newest : ∀ a ∈ f.entries, keep a.version = true → a.prerelease = kind →
    (a.compareTo e).isLE = true

/-- The first entry of a kind after a filter. -/
def first? (f : Feed) (keep : String → Bool) (kind : Bool) : Option FeedEntry :=
  (f.retain keep).entries.find? (·.prerelease == kind)

/-- The latest stable release of a filtered feed is the first entry that is no pre-release. -/
lemma latestStable?_retain : (f.retain keep).latestStable? = f.first? keep false := by
  have hkind : (fun e : FeedEntry => !e.prerelease) = fun e => e.prerelease == false := by
    funext e
    cases e.prerelease <;> rfl
  rw [latestStable?, hkind, first?]

/-- The latest pre-release of a filtered feed is the first entry that is one. -/
lemma latestPrerelease?_retain : (f.retain keep).latestPrerelease? = f.first? keep true := by
  have hkind : (fun e : FeedEntry => e.prerelease) = fun e => e.prerelease == true := by
    funext e
    cases e.prerelease <;> rfl
  rw [latestPrerelease?, hkind, first?]

/-- The first entry of a kind after a filter is a newest one. -/
lemma isNewest_of_first? (h : FeedEntry.NewestFirst f.entries)
    (hfirst : f.first? keep kind = some e) : f.IsNewest keep kind e := by
  have hretained : FeedEntry.NewestFirst (f.retain keep).entries := h.filter _
  have hmem := List.mem_filter.1 (List.mem_of_find?_eq_some hfirst)
  have hkind : e.prerelease = kind := by simpa using List.find?_some hfirst
  refine ⟨hmem.1, hmem.2, hkind, fun a ha hkeep hprerelease => ?_⟩
  have hretain : a ∈ (f.retain keep).entries := List.mem_filter.2 ⟨ha, hkeep⟩
  exact hretained.isLE_of_find? hfirst a hretain (by rw [hprerelease, beq_self_eq_true])

/-- No entry of a kind is first after a filter exactly if no entry of this kind passes it. -/
lemma first?_eq_none_iff : f.first? keep kind = none ↔
    ∀ a ∈ f.entries, keep a.version = true → a.prerelease ≠ kind := by
  rw [first?, List.find?_eq_none]
  constructor
  · intro h a ha hkeep
    simpa using h a (List.mem_filter.2 ⟨ha, hkeep⟩)
  · intro h a ha
    obtain ⟨hmem, hkeep⟩ := List.mem_filter.1 ha
    simpa using h a hmem hkeep

/-- Sparkle and SourceForge feeds are read without fault, and sorted. -/
lemma exists_parse? {provider : Provider} (h : provider = .sparkle ∨ provider = .sourceForge)
    (body : String) :
    ∃ f, Feed.parse? provider body = some f ∧ FeedEntry.NewestFirst f.entries := by
  rcases h with rfl | rfl
  · exact ⟨_, rfl, FeedEntry.newestFirst_sortNewestFirst _⟩
  · exact ⟨_, rfl, FeedEntry.newestFirst_sortNewestFirst _⟩

end Feed

/-- Sorting entries is sound. Versions have a total order, in which only identical ones compare
equal, and entries a total preorder. Sorted entries are the same ones, with no entry after an older
one and those that compare equal in their order; their keys do not depend on the order before. So
the latest entries that a filter leaves of a Sparkle or SourceForge feed are newest ones, and are
missing only if there are none. -/
theorem sorting_sound :
    (Std.TransCmp compareVersions ∧ ∀ a b, compareVersions a b = .eq ↔ a = b) ∧
    Std.TransCmp FeedEntry.compareTo ∧
    (∀ entries, (FeedEntry.sortNewestFirst entries).Perm entries ∧
      FeedEntry.NewestFirst (FeedEntry.sortNewestFirst entries) ∧
      ∀ e, (FeedEntry.sortNewestFirst entries).filter (fun a => a.compareTo e = .eq) =
        entries.filter (fun a => a.compareTo e = .eq)) ∧
    (∀ entries others : List FeedEntry, entries.Perm others →
      (FeedEntry.sortNewestFirst entries).map FeedEntry.key =
        (FeedEntry.sortNewestFirst others).map FeedEntry.key) ∧
    (∀ provider body keep, provider = .sparkle ∨ provider = .sourceForge →
      ∃ f, Feed.parse? provider body = some f ∧
        (∀ e, (f.retain keep).latestStable? = some e → f.IsNewest keep false e) ∧
        ((f.retain keep).latestStable? = none ↔
          ∀ a ∈ f.entries, keep a.version = true → a.prerelease ≠ false) ∧
        (∀ e, (f.retain keep).latestPrerelease? = some e → f.IsNewest keep true e) ∧
        ((f.retain keep).latestPrerelease? = none ↔
          ∀ a ∈ f.entries, keep a.version = true → a.prerelease ≠ true)) := by
  have hversions : Std.TransCmp compareVersions ∧ ∀ a b, compareVersions a b = .eq ↔ a = b :=
    ⟨inferInstance, fun a b => Std.LawfulEqCmp.compare_eq_iff_eq⟩
  refine ⟨hversions, inferInstance, ?_, ?_, ?_⟩
  · intro entries
    exact ⟨FeedEntry.perm_sortNewestFirst entries, FeedEntry.newestFirst_sortNewestFirst entries,
      fun e => FeedEntry.filter_sortNewestFirst e entries⟩
  · intro entries others h
    exact FeedEntry.map_key_sortNewestFirst h
  · intro provider body keep hprovider
    obtain ⟨f, hparse, hsorted⟩ := Feed.exists_parse? hprovider body
    refine ⟨f, hparse, ?_, ?_, ?_, ?_⟩
    · intro e he
      rw [Feed.latestStable?_retain] at he
      exact Feed.isNewest_of_first? hsorted he
    · rw [Feed.latestStable?_retain]
      exact Feed.first?_eq_none_iff
    · intro e he
      rw [Feed.latestPrerelease?_retain] at he
      exact Feed.isNewest_of_first? hsorted he
    · rw [Feed.latestPrerelease?_retain]
      exact Feed.first?_eq_none_iff

/-- An entry without a build. -/
def plainEntry : FeedEntry := ⟨"2.0", none, [], none, false⟩

/-- An entry with the empty build. -/
def builtEntry : FeedEntry := ⟨"2.0", some "", ["https://e/a.zip"], none, false⟩

/-- A feed with one item. -/
def singleFeed : String := "<rss><item><enclosure sparkle:version='2.0'/></item></rss>"

/-- Two entries with one key stay in the order in which they were, so that only their keys are the
same in both orders; the latest stable release that a filter leaves of a feed is a newest one. -/
theorem sorting_sound_swapped :
    [plainEntry, builtEntry].Perm [builtEntry, plainEntry] ∧
    (FeedEntry.sortNewestFirst [plainEntry, builtEntry]).map FeedEntry.key =
      (FeedEntry.sortNewestFirst [builtEntry, plainEntry]).map FeedEntry.key ∧
    FeedEntry.sortNewestFirst [plainEntry, builtEntry] = [plainEntry, builtEntry] ∧
    FeedEntry.sortNewestFirst [builtEntry, plainEntry] = [builtEntry, plainEntry] ∧
    ∃ f, Feed.parse? .sparkle singleFeed = some f ∧
      ∀ e, (f.retain (· ≠ "1.0")).latestStable? = some e → f.IsNewest (· ≠ "1.0") false e := by
  have hperm : [plainEntry, builtEntry].Perm [builtEntry, plainEntry] := List.Perm.swap _ _ _
  obtain ⟨-, -, -, hkeys, hfeeds⟩ := sorting_sound
  have hequal : (builtEntry.compareTo plainEntry).isLE = true ∧
      (plainEntry.compareTo builtEntry).isLE = true := by
    decide +kernel
  obtain ⟨f, hparse, hlatest, -⟩ := hfeeds .sparkle singleFeed (· ≠ "1.0") (.inl rfl)
  refine ⟨hperm, hkeys _ _ hperm, ?_, ?_, f, hparse, hlatest⟩
  · exact List.mergeSort_of_pairwise (by simpa using hequal.1)
  · exact List.mergeSort_of_pairwise (by simpa using hequal.2)

end CaskAudit
