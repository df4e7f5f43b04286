import CaskAudit.Report.Document
import Mathlib.Data.List.Nodup
import Mathlib.Data.List.Perm.Basic
import Mathlib.Data.String.Basic

/-!
# The entries of a report

A report has its entries in the strict order of their names, so one entry at most for each name.
When entries are put into it one after another, the last one of a name stays (`lookup_putAll`). So
all of them are in the report exactly if their names are pairwise different (`perm_putAll_iff`), and
a report that is given its entries in order has them as they were given (`putAll_of_sorted`).
-/

namespace CaskAudit.Report

variable {es es' new : List (String × ReportEntry)} {name other : String} {e : ReportEntry}

/-- Entries are in the strict order of their names. -/
def Sorted (es : List (String × ReportEntry)) : Prop := es.Pairwise (·.1 < ·.1)

/-! ## One entry -/

/-- The first entry is found by its name. -/
lemma lookup_cons_ite (name : String) (p : String × ReportEntry)
    (es : List (String × ReportEntry)) :
    (p :: es).lookup name = if name = p.1 then some p.2 else es.lookup name := by
  by_cases h : name = p.1
  · rw [if_pos h, h]
    exact List.lookup_cons_self
  · have hne : (name == p.1) = false := beq_eq_false_iff_ne.2 h
    rw [if_neg h, List.lookup_cons, hne]

/-- What is put into a report is in it, with what has been there. -/
lemma eq_or_mem_of_mem_putEntry {p : String × ReportEntry} (h : p ∈ putEntry name e es) :
    p = (name, e) ∨ p ∈ es := by
  induction es with
  | nil => exact .inl (List.mem_singleton.1 h)
  | cons q es ih =>
    rw [putEntry] at h
    split at h
    · exact (List.mem_cons.1 h).imp_right (List.mem_cons_of_mem q)
    · split at h
      · exact List.mem_cons.1 h
      · rcases List.mem_cons.1 h with rfl | h
        · exact .inr List.mem_cons_self
        · exact (ih h).imp_right (List.mem_cons_of_mem q)

/-- Putting an entry keeps the order. -/
lemma Sorted.putEntry (h : Sorted es) (name : String) (e : ReportEntry) :
    Sorted (putEntry name e es) := by
  induction es with
  | nil => exact List.pairwise_singleton _ _
  | cons q es ih =>
    obtain ⟨hq, hes⟩ := List.pairwise_cons.1 h
    rw [Report.putEntry]
    split
    · next heq => exact List.pairwise_cons.2 ⟨heq ▸ hq, hes⟩
    · next hne =>
      split
      · next hlt =>
        refine List.pairwise_cons.2 ⟨?_, h⟩
        intro p hp
        rcases List.mem_cons.1 hp with rfl | hp
        · exact hlt
        · exact lt_trans hlt (hq p hp)
      · next hge =>
        refine List.pairwise_cons.2 ⟨?_, ih hes⟩
        intro p hp
        rcases eq_or_mem_of_mem_putEntry hp with rfl | hp
        · exact lt_of_le_of_ne (not_lt.1 hge) hne
        · exact hq p hp

/-- The name of an entry that is put finds it, and every other name what it has found before. -/
lemma lookup_putEntry (name : String) (e : ReportEntry) (es : List (String × ReportEntry))
    (other : String) :
    (putEntry name e es).lookup other = if other = name then some e else es.lookup other := by
  induction es with
  | nil => exact lookup_cons_ite other (name, e) []
  | cons q es ih =>
    rw [putEntry]
    split
    · next heq =>
      rw [lookup_cons_ite, lookup_cons_ite, heq]
      split <;> rfl
    · next hne =>
      split
      · exact lookup_cons_ite other (name, e) (q :: es)
      · rw [lookup_cons_ite, ih, lookup_cons_ite]
        by_cases hq : other = q.1
        · have hother : other ≠ name := fun h => hne (hq.symm.trans h)
          rw [if_pos hq, if_neg hother, if_pos hq]
        · rw [if_neg hq, if_neg hq]

/-! ## Lookups -/

/-- Where no name is there twice, an entry is found exactly if it is there. -/
lemma lookup_eq_some_iff_mem (h : (es.map Prod.fst).Nodup) :
    es.lookup name = some e ↔ (name, e) ∈ es := by
  rw [List.lookup_eq_some_iff]
  constructor
  · rintro ⟨before, after, rfl, -⟩
    exact List.mem_append_cons_self
  · intro hmem
    obtain ⟨before, after, rfl⟩ := List.append_of_mem hmem
    refine ⟨before, after, rfl, fun p hp => ?_⟩
    rw [List.map_append] at h
    have hne : name ≠ p.1 := by
      rintro rfl
      exact List.disjoint_of_nodup_append h (List.mem_map_of_mem hp) List.mem_cons_self
    simpa using hne

/-- No name is there twice in sorted entries. -/
lemma Sorted.nodup (h : Sorted es) : (es.map Prod.fst).Nodup :=
  List.pairwise_map.2 (h.imp ne_of_lt)

/-- Sorted entries are told by what they are. -/
lemma Sorted.eq_of_perm (h : Sorted es) (h' : Sorted es') (hperm : es.Perm es') : es = es' :=
  hperm.eq_of_pairwise (fun _ _ _ _ hlt hgt => absurd hgt (lt_asymm hlt)) h h'

/-! ## Several entries -/

/-- Puts entries one after another. -/
def putAll (es new : List (String × ReportEntry)) : List (String × ReportEntry) :=
  new.foldl (fun es p => putEntry p.1 p.2 es) es

/-- Putting entries keeps the order. -/
lemma Sorted.putAll (h : Sorted es) (new : List (String × ReportEntry)) :
    Sorted (putAll es new) := by
  induction new generalizing es with
  | nil => exact h
  | cons p new ih => exact ih (h.putEntry p.1 p.2)

/-- Entries that are put into an empty report are in order. -/
lemma sorted_putAll (new : List (String × ReportEntry)) : Sorted (putAll [] new) :=
  have hnil : Sorted [] := List.Pairwise.nil
  hnil.putAll new

/-- Of several entries with one name the last stays. -/
lemma lookup_putAll (es new : List (String × ReportEntry)) (name : String) :
    (putAll es new).lookup name = (new.reverse.lookup name).or (es.lookup name) := by
  induction new generalizing es with
  | nil => rfl
  | cons p new ih =>
    have hcons : putAll es (p :: new) = putAll (putEntry p.1 p.2 es) new := rfl
    have hlast : (putEntry p.1 p.2 es).lookup name = ([p].lookup name).or (es.lookup name) := by
      rw [lookup_putEntry, lookup_cons_ite, List.lookup_nil]
      split <;> rfl
    rw [hcons, ih, hlast, List.reverse_cons, List.lookup_append, Option.or_assoc]

/-- What has been put into an empty report is found as long as nothing of its name is put later. -/
lemma lookup_putAll_nil (new : List (String × ReportEntry)) (name : String) :
    (putAll [] new).lookup name = new.reverse.lookup name := by
  rw [lookup_putAll, List.lookup_nil, Option.or_none]

/-- A report holds all entries that are put into it exactly if their names are pairwise different.
-/
lemma perm_putAll_iff : (putAll [] new).Perm new ↔ (new.map Prod.fst).Nodup := by
  have hsorted := sorted_putAll new
  constructor
  · intro hperm
    exact (hperm.map Prod.fst).nodup_iff.1 hsorted.nodup
  · intro hnodup
    have hreverse : (new.reverse.map Prod.fst).Nodup := by
      rw [List.map_reverse]
      exact List.nodup_reverse.2 hnodup
    rw [List.perm_ext_iff_of_nodup (List.Nodup.of_map _ hsorted.nodup) (List.Nodup.of_map _ hnodup)]
    rintro ⟨name, e⟩
    rw [← lookup_eq_some_iff_mem hsorted.nodup, lookup_putAll_nil, lookup_eq_some_iff_mem hreverse,
      List.mem_reverse]

/-- A report that is given sorted entries has them as they are. -/
lemma putAll_of_sorted (h : Sorted new) : putAll [] new = new :=
  (sorted_putAll new).eq_of_perm h (perm_putAll_iff.2 h.nodup)

end CaskAudit.Report
