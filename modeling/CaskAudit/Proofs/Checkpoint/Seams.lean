import CaskAudit.Proofs.Checkpoint.Dates

/-!
# Dates that are left

One pass cuts the dates out of some bytes and joins what stands between them. The parts that are
kept hold no date, and every date of the bytes is among those that are cut out (`Cuts.split`),
because no date begins within another. So a date that is left begins in one part and ends in a later
one: it was not there before the parts were joined (`hasDate_flatten_iff`). Bytes without a date,
and only these, are left as they are (`withoutDates_eq_self_iff`), so a second pass finds something
exactly if such a date is left.
-/

namespace CaskAudit.Checkpoint

open CaskAudit.Text

variable {a b p s x after : List UInt8} {t : String} {parts : List (List UInt8)}

/-! ## Bytes with and without dates -/

/-- A date stands in some bytes, with a text in it that has no mark. -/
def HasDate (s : List UInt8) : Prop := ∃ a b t, markStart ∉ encode t ∧ s = a ++ (date t ++ b)

/-- A date is found at the start of some bytes exactly if one stands there. -/
lemma afterDate?_eq_some_iff :
    afterDate? s = some after ↔ ∃ t, markStart ∉ encode t ∧ s = date t ++ after := by
  constructor
  · intro h
    unfold afterDate? at h
    split at h
    · cases h
    · next inside hopen =>
      split at h
      · next hread =>
        obtain ⟨t, ht⟩ := decode?_isSome_iff.1 hread
        have hs := dropLeading?_eq_some_iff.1 hopen
        have hinside := List.takeWhile_append_dropWhile (p := (· ≠ markStart)) (l := inside)
        rw [ht, dropLeading?_eq_some_iff.1 h] at hinside
        refine ⟨t, ?_, ?_⟩
        · rw [← ht]
          intro hmark
          simpa using List.mem_takeWhile_imp hmark
        · rw [hs, ← hinside, date, List.append_assoc, List.append_assoc]
      · cases h
  · rintro ⟨t, ht, rfl⟩
    exact afterDate?_date ht after

/-- A date is not empty. -/
lemma length_date_pos (t : String) : 0 < (date t).length := by
  have hopen : 0 < opening.length := by decide
  simp only [date, List.length_append]
  omega

/-- A date is as long as its two marks at least. -/
lemma HasDate.length_le (h : HasDate s) : opening.length + closing.length ≤ s.length := by
  obtain ⟨a, b, t, -, rfl⟩ := h
  simp only [date, List.length_append]
  omega

/-- Bytes that are shorter have no date. -/
lemma not_hasDate_of_length (h : s.length < opening.length + closing.length) : ¬HasDate s :=
  fun hs => absurd hs.length_le (Nat.not_le_of_lt h)

/-- Bytes have a date if some of them have. -/
lemma HasDate.append (h : HasDate s) (a b : List UInt8) : HasDate (a ++ (s ++ b)) := by
  obtain ⟨a', b', t, ht, rfl⟩ := h
  exact ⟨a ++ a', b' ++ b, t, ht, by simp only [List.append_assoc]⟩

/-- Nothing is taken out of bytes without a date. -/
lemma withoutDates_of_not_hasDate (h : ¬HasDate s) : withoutDates s = s := by
  induction s with
  | nil => rw [withoutDates]
  | cons c s ih =>
    have hrest : ¬HasDate s := by
      intro hs
      have hmore := hs.append [c] []
      rw [List.append_nil, List.singleton_append] at hmore
      exact h hmore
    have hnone : afterDate? (c :: s) = none := by
      rw [Option.eq_none_iff_forall_ne_some]
      intro after hafter
      obtain ⟨t, ht, heq⟩ := afterDate?_eq_some_iff.1 hafter
      exact h ⟨[], after, t, ht, heq⟩
    rw [withoutDates_of_none hnone, ih hrest]

/-- Bytes do not get longer when their dates are taken out. -/
lemma length_withoutDates_le (s : List UInt8) : (withoutDates s).length ≤ s.length := by
  induction hn : s.length using Nat.strong_induction_on generalizing s with
  | _ n ih =>
    cases s with
    | nil =>
      rw [withoutDates]
      exact hn.le
    | cons c s =>
      cases hc : afterDate? (c :: s) with
      | none =>
        have hshorter := ih s.length (by rw [← hn]; exact Nat.lt_succ_self _) s rfl
        rw [withoutDates_of_none hc, ← hn]
        exact Nat.succ_le_succ hshorter
      | some after =>
        have hlt := length_lt_of_afterDate? hc
        rw [hn] at hlt
        rw [withoutDates_of_some hc]
        exact (ih after.length hlt after rfl).trans hlt.le

/-- Bytes are left as they are exactly if they have no date. -/
lemma withoutDates_eq_self_iff : withoutDates s = s ↔ ¬HasDate s := by
  refine ⟨?_, withoutDates_of_not_hasDate⟩
  rintro h ⟨a, b, t, ht, rfl⟩
  have hlength := congrArg List.length h
  have ha := length_withoutDates_le a
  have hb := length_withoutDates_le b
  have hdate := length_date_pos t
  rw [withoutDates_date ht] at hlength
  simp only [List.length_append] at hlength
  omega

/-! ## The parts that are kept -/

/-- The parts of some bytes that are kept: there is a date between each and the next, and none in
them. -/
inductive Cuts : List UInt8 → List (List UInt8) → Prop
  | last {p : List UInt8} (hp : ¬HasDate p) : Cuts p [p]
  | date {p x : List UInt8} {t : String} {parts : List (List UInt8)} (hp : ¬HasDate p)
      (ht : markStart ∉ encode t) (h : Cuts x parts) : Cuts (p ++ (date t ++ x)) (p :: parts)

/-- Among the dates of some bytes one is the first. -/
lemma HasDate.exists_first (h : HasDate s) :
    ∃ a b t, markStart ∉ encode t ∧ s = a ++ (date t ++ b) ∧ ¬HasDate a := by
  obtain ⟨a, b, t, ht, rfl⟩ := h
  -- A date before the one at hand leaves less before it.
  induction hn : a.length using Nat.strong_induction_on generalizing a b t with
  | _ n ih =>
    by_cases ha : HasDate a
    · obtain ⟨a', b', t', ht', rfl⟩ := ha
      have hlt : a'.length < n := by
        have hdate := length_date_pos t'
        rw [← hn, List.length_append, List.length_append]
        omega
      have hfirst := ih a'.length hlt a' (b' ++ (Checkpoint.date t ++ b)) t' ht' rfl
      simpa only [List.append_assoc] using hfirst
    · exact ⟨a, b, t, ht, rfl, ha⟩

/-- All bytes are made of such parts. -/
lemma exists_cuts (x : List UInt8) : ∃ parts, Cuts x parts := by
  induction hn : x.length using Nat.strong_induction_on generalizing x with
  | _ n ih =>
    by_cases hx : HasDate x
    · obtain ⟨a, b, t, ht, rfl, ha⟩ := hx.exists_first
      have hlt : b.length < n := by
        have hdate := length_date_pos t
        rw [← hn, List.length_append, List.length_append]
        omega
      obtain ⟨parts, hparts⟩ := ih b.length hlt b rfl
      exact ⟨a :: parts, .date ha ht hparts⟩
    · exact ⟨[x], .last hx⟩

/-- The parts hold no date. -/
lemma Cuts.not_hasDate (h : Cuts x parts) : ∀ p ∈ parts, ¬HasDate p := by
  induction h with
  | last hp => exact List.forall_mem_singleton.2 hp
  | date hp _ _ ih => exact List.forall_mem_cons.2 ⟨hp, ih⟩

/-- One pass leaves the parts. -/
lemma Cuts.withoutDates_eq (h : Cuts x parts) : withoutDates x = parts.flatten := by
  induction h with
  | last hp => rw [withoutDates_of_not_hasDate hp, List.flatten_singleton]
  | date hp ht _ ih =>
    rw [withoutDates_date ht, withoutDates_of_not_hasDate hp, ih, List.flatten_cons]

/-- A date that begins after the start of another one begins after its end. -/
lemma exists_of_date_append {t' : String} {y : List UInt8} (ha : a ≠ [])
    (ht' : markStart ∉ encode t') (h : date t' ++ y = a ++ (date t ++ b)) :
    ∃ a', HasDate a ∧ a = date t' ++ a' ∧ y = a' ++ (date t ++ b) := by
  have hdate : date t ++ b = opening ++ (encode t ++ closing ++ b) := by
    simp only [date, List.append_assoc]
  have hfound := afterDate?_append ha (encode t ++ closing ++ b)
  rw [← hdate, ← h, afterDate?_date ht'] at hfound
  obtain ⟨a', hafter, hy⟩ := Option.map_eq_some_iff.1 hfound.symm
  obtain ⟨u, hu, rfl⟩ := afterDate?_eq_some_iff.1 hafter
  refine ⟨a', ⟨[], a', u, hu, rfl⟩, ?_, hy.symm⟩
  rw [← hy, List.append_assoc] at h
  exact congrArg (· ++ a') (List.append_cancel_right h).symm

/-- A date at the start of some bytes is the one that is found there. -/
lemma date_append_cancel {t' : String} {y : List UInt8} (ht : markStart ∉ encode t)
    (ht' : markStart ∉ encode t') (h : date t' ++ y = date t ++ b) : y = b := by
  have hfound := afterDate?_date ht' y
  rw [h, afterDate?_date ht] at hfound
  exact (Option.some.inj hfound).symm

/-- Every date is cut out: the parts before it and after it are those of what stands there. -/
lemma Cuts.split (h : Cuts x parts) (ht : markStart ∉ encode t)
    (hx : x = a ++ (Checkpoint.date t ++ b)) :
    ∃ left right, parts = left ++ right ∧ Cuts a left ∧ Cuts b right := by
  induction h generalizing a with
  | last hp => exact absurd ⟨a, b, t, ht, hx⟩ hp
  | @date p y t' parts hp ht' hcuts ih =>
    rcases List.append_eq_append_iff.1 hx with ⟨c, rfl, hc⟩ | ⟨c, rfl, hc⟩
    · by_cases hne : c = []
      · rw [hne, List.nil_append] at hc
        obtain rfl := date_append_cancel ht ht' hc
        rw [hne, List.append_nil]
        exact ⟨[p], parts, rfl, .last hp, hcuts⟩
      · obtain ⟨c', -, rfl, hy⟩ := exists_of_date_append hne ht' hc
        obtain ⟨left, right, rfl, hleft, hright⟩ := ih hy
        exact ⟨p :: left, right, rfl, .date hp ht' hleft, hright⟩
    · by_cases hne : c = []
      · rw [hne, List.nil_append] at hc
        obtain rfl := date_append_cancel ht' ht hc
        rw [hne, List.append_nil] at hp ⊢
        exact ⟨[a], parts, rfl, .last hp, hcuts⟩
      · -- The date would stand in the part before the first date that is cut out.
        obtain ⟨c', hdate, -, -⟩ := exists_of_date_append hne ht hc
        have hpart := hdate.append a []
        rw [List.append_nil] at hpart
        exact absurd hpart hp

/-! ## Where the parts are joined -/

/-- A date is put together where parts are joined: it begins in one of them, takes up those that
follow, and ends in another. -/
def JoinsDate (parts : List (List UInt8)) : Prop :=
  ∃ before p between q after t u v, markStart ∉ encode t ∧
    parts = before ++ p :: (between ++ q :: after) ∧ u ≠ [] ∧ u <:+ p ∧ v ≠ [] ∧ v <+: q ∧
    date t = u ++ (between.flatten ++ v)

/-- A date in joined bytes stands in one of them, or begins in the first and ends in the second. -/
lemma hasDate_append (h : HasDate (a ++ b)) : HasDate a ∨ HasDate b ∨
    ∃ t u v, markStart ∉ encode t ∧ u ≠ [] ∧ u <:+ a ∧ v ≠ [] ∧ v <+: b ∧ date t = u ++ v := by
  obtain ⟨c, d, t, ht, h⟩ := h
  rcases List.append_eq_append_iff.1 h with ⟨c', rfl, hb⟩ | ⟨u, rfl, hb⟩
  · exact .inr (.inl ⟨c', d, t, ht, hb⟩)
  · rcases List.append_eq_append_iff.1 hb with ⟨v, rfl, -⟩ | ⟨v, hdate, hb⟩
    · exact .inl ⟨c, v, t, ht, rfl⟩
    · by_cases hu : u = []
      · rw [hu, List.nil_append] at hdate
        exact .inr (.inl ⟨[], d, t, ht, by rw [hdate, hb, List.nil_append]⟩)
      · by_cases hv : v = []
        · rw [hv, List.append_nil] at hdate
          exact .inl ⟨c, [], t, ht, by rw [hdate, List.append_nil]⟩
        · exact .inr (.inr ⟨t, u, v, ht, hu, List.suffix_append c u, hv, ⟨d, hb.symm⟩, hdate⟩)

/-- What joined parts begin with ends in one of them. -/
lemma exists_of_prefix_flatten {v : List UInt8} (hv : v ≠ []) (h : v <+: parts.flatten) :
    ∃ between q after w, parts = between ++ q :: after ∧ w ≠ [] ∧ w <+: q ∧
      v = between.flatten ++ w := by
  induction parts generalizing v with
  | nil => exact absurd (List.prefix_nil.1 h) hv
  | cons p parts ih =>
    obtain ⟨rest, hrest⟩ := h
    rw [List.flatten_cons] at hrest
    rcases List.append_eq_append_iff.1 hrest with ⟨w, hp, -⟩ | ⟨w, rfl, hw⟩
    · exact ⟨[], p, parts, v, rfl, hv, ⟨w, hp.symm⟩, rfl⟩
    · by_cases hne : w = []
      · rw [hne, List.append_nil] at hv ⊢
        exact ⟨[], p, parts, p, rfl, hv, List.prefix_refl p, rfl⟩
      · obtain ⟨between, q, after, u, rfl, hu, hq, rfl⟩ := ih hne ⟨rest, hw.symm⟩
        refine ⟨p :: between, q, after, u, rfl, hu, hq, ?_⟩
        rw [List.flatten_cons, List.append_assoc]

/-- A date in joined parts stands in one of them, or is put together where they are joined. -/
lemma hasDate_flatten_iff :
    HasDate parts.flatten ↔ (∃ p ∈ parts, HasDate p) ∨ JoinsDate parts := by
  constructor
  · intro h
    induction parts with
    | nil => exact absurd h (not_hasDate_of_length (by decide))
    | cons p parts ih =>
      rw [List.flatten_cons] at h
      rcases hasDate_append h with h | h | ⟨t, u, v, ht, hu, hp, hv, hprefix, hdate⟩
      · exact .inl ⟨p, List.mem_cons_self, h⟩
      · rcases ih h with ⟨q, hq, h⟩ | ⟨before, h⟩
        · exact .inl ⟨q, List.mem_cons_of_mem p hq, h⟩
        · obtain ⟨q, between, r, after, t, u, v, ht, rfl, hrest⟩ := h
          exact .inr ⟨p :: before, q, between, r, after, t, u, v, ht, rfl, hrest⟩
      · obtain ⟨between, q, after, w, rfl, hw, hq, rfl⟩ := exists_of_prefix_flatten hv hprefix
        exact .inr ⟨[], p, between, q, after, t, u, w, ht, rfl, hu, hp, hw, hq, hdate⟩
  · rintro (⟨p, hp, h⟩ | ⟨before, p, between, q, after, t, u, v, ht, rfl, -, ⟨c, rfl⟩, -, ⟨d, rfl⟩,
      hdate⟩)
    · obtain ⟨before, after, rfl⟩ := List.append_of_mem hp
      rw [List.flatten_append, List.flatten_cons]
      exact h.append _ _
    · refine ⟨before.flatten ++ c, d ++ after.flatten, t, ht, ?_⟩
      simp only [hdate, List.flatten_append, List.flatten_cons, List.append_assoc]

/-- Some bytes are made of parts without dates and of dates between them, and one pass leaves the
parts. Every date of the bytes is cut out. What is left has a date exactly if one is put together
where the parts are joined, and a second pass leaves the bytes of the first as they are exactly if
none is. -/
theorem dates_left_at_seams (x : List UInt8) :
    (∃ parts, Cuts x parts) ∧
    ∀ parts, Cuts x parts →
      withoutDates x = parts.flatten ∧
      (∀ a b t, markStart ∉ encode t → x = a ++ (date t ++ b) →
        ∃ left right, parts = left ++ right ∧ Cuts a left ∧ Cuts b right) ∧
      (HasDate (withoutDates x) ↔ JoinsDate parts) ∧
      (withoutDates (withoutDates x) = withoutDates x ↔ ¬JoinsDate parts) := by
  refine ⟨exists_cuts x, fun parts h => ?_⟩
  have hleft : HasDate (withoutDates x) ↔ JoinsDate parts := by
    rw [h.withoutDates_eq, hasDate_flatten_iff]
    refine or_iff_right ?_
    rintro ⟨p, hp, hdate⟩
    exact h.not_hasDate p hp hdate
  refine ⟨h.withoutDates_eq, fun a b t ht hx => h.split ht hx, hleft, ?_⟩
  rw [withoutDates_eq_self_iff, hleft]

/-- A feed with two dates side by side is cut into three parts, of which one is empty; the parts do
not join to a date, and a second pass finds none. -/
theorem dates_left_at_seams_adjacent :
    let x := asciiBytes "<item>".toList ++
      (date "Mon" ++ ([] ++ (date "Tue" ++ asciiBytes "</item>".toList)))
    let parts := [asciiBytes "<item>".toList, [], asciiBytes "</item>".toList]
    Cuts x parts ∧ withoutDates x = asciiBytes "<item></item>".toList ∧
      withoutDates (withoutDates x) = withoutDates x := by
  intro x parts
  have hMon : markStart ∉ encode "Mon" := by decide +kernel
  have hTue : markStart ∉ encode "Tue" := by decide +kernel
  have hcuts : Cuts x parts :=
    .date (not_hasDate_of_length (by decide)) hMon
      (.date (not_hasDate_of_length (by decide)) hTue
        (.last (not_hasDate_of_length (by decide))))
  obtain ⟨-, hparts⟩ := dates_left_at_seams x
  obtain ⟨hleft, -, hdate, hagain⟩ := hparts parts hcuts
  have hflat : parts.flatten = asciiBytes "<item></item>".toList := by decide
  rw [hflat] at hleft
  refine ⟨hcuts, hleft, hagain.2 ?_⟩
  rw [← hdate, hleft]
  exact not_hasDate_of_length (by decide)

/-- A date in the middle of an opening mark breaks the mark. Without the date the mark is whole and
opens a date that was none before: one pass leaves it, and a second pass takes it out. -/
theorem date_left_in_broken_mark :
    let x := asciiBytes "<pub".toList ++
      (date "Mon" ++ asciiBytes "Date>Tue</pubDate>".toList)
    withoutDates x = date "Tue" ∧ HasDate (withoutDates x) ∧
      withoutDates (withoutDates x) = [] := by
  intro x
  have hMon : markStart ∉ encode "Mon" := by decide +kernel
  have hTue : markStart ∉ encode "Tue" := by decide +kernel
  have hcuts : Cuts x [asciiBytes "<pub".toList, asciiBytes "Date>Tue</pubDate>".toList] :=
    .date (not_hasDate_of_length (by decide)) hMon
      (.last (not_hasDate_of_length (by decide)))
  have hleft : withoutDates x = date "Tue" := hcuts.withoutDates_eq.trans (by decide +kernel)
  have hagain : withoutDates (date "Tue") = [] := by
    have hdate := withoutDates_date hTue [] []
    rwa [List.append_nil, List.nil_append, withoutDates, List.append_nil] at hdate
  rw [hleft]
  exact ⟨rfl, ⟨[], [], "Tue", hTue, by rw [List.append_nil, List.nil_append]⟩, hagain⟩

end CaskAudit.Checkpoint
