import CaskAudit.Proofs.Text.Utf8
import CaskAudit.Proofs.Verification.Verdict
import Mathlib.Data.List.TakeWhile

/-!
# Dates of publication

Taking a date out of a text leaves what stands before it and after it, each without its own dates:
`withoutDates_date`. The reason is that a mark begins with a byte which stands nowhere else in a
mark and nowhere in a date. So nothing that begins before a date can go on into it, neither a date
that was opened and not closed nor a broken mark, and nothing of the date is left for what follows.

So contents which differ in nothing but the texts of their dates have one fingerprint, and a feed
that only stamps itself anew is found to be unchanged.
-/

namespace CaskAudit.Checkpoint

open CaskAudit.Text

/-- A date with a text in it. -/
def date (t : String) : List UInt8 := opening ++ encode t ++ closing

variable {a s after : List UInt8} {t : String}

/-! ## One step of the scan -/

/-- A date at the start of a text is left out. -/
lemma withoutDates_of_some (h : afterDate? s = some after) :
    withoutDates s = withoutDates after := by
  cases s with
  | nil => cases h
  | cons b rest =>
    rw [withoutDates]
    split
    · next after' h' =>
      obtain rfl : after' = after := Option.some.inj (h'.symm.trans h)
      rfl
    · next h' => cases h'.symm.trans h

/-- A byte with which no date begins is kept. -/
lemma withoutDates_of_none {x : UInt8} (h : afterDate? (x :: s) = none) :
    withoutDates (x :: s) = x :: withoutDates s := by
  rw [withoutDates]
  split
  · next after h' => cases h'.symm.trans h
  · rfl

/-! ## Where a date begins -/

/-- The opening mark begins with the byte of every mark. -/
lemma opening_eq : opening = markStart :: opening.tail := by decide

/-- The closing mark begins with the byte of every mark. -/
lemma closing_eq : closing = markStart :: closing.tail := by decide

/-- The byte of every mark stands at the start of the opening mark only. -/
lemma notMem_opening : markStart ∉ opening.tail := by decide

/-- The byte of every mark stands at the start of the closing mark only. -/
lemma notMem_closing : markStart ∉ closing.tail := by decide

/-- No opening mark is a closing mark. -/
lemma dropLeading?_closing_opening (s : List UInt8) : dropLeading? closing (opening ++ s) = none :=
  rfl

/-- A text goes up to the next mark. -/
lemma takeWhile_append_mark (s rest : List UInt8) :
    (s ++ markStart :: rest).takeWhile (· ≠ markStart) = s.takeWhile (· ≠ markStart) := by
  induction s with
  | nil => simp
  | cons x s ih =>
    by_cases hx : x = markStart
    · simp [hx]
    · simp only [List.cons_append, List.takeWhile_cons, hx, ne_eq, not_false_eq_true, decide_true,
        if_true, List.cons.injEq, true_and]
      simpa using ih

/-- What follows a text up to the next mark begins with that mark. -/
lemma dropWhile_append_mark (s rest : List UInt8) :
    (s ++ markStart :: rest).dropWhile (· ≠ markStart) =
      s.dropWhile (· ≠ markStart) ++ markStart :: rest := by
  induction s with
  | nil => simp
  | cons x s ih =>
    by_cases hx : x = markStart
    · simp [hx]
    · simp only [List.cons_append, List.dropWhile_cons, hx, ne_eq, not_false_eq_true, decide_true,
        if_true]
      simpa using ih

/-- Whether a date ends, and where, is not changed by a date that begins later. -/
lemma closing_append (inside s : List UInt8) :
    dropLeading? closing ((inside ++ (opening ++ s)).dropWhile (· ≠ markStart)) =
      (dropLeading? closing (inside.dropWhile (· ≠ markStart))).map (· ++ (opening ++ s)) := by
  rw [opening_eq, List.cons_append, dropWhile_append_mark]
  by_cases hleft : inside.dropWhile (· ≠ markStart) = []
  · -- A date that was opened and not closed would have to be closed by an opening mark.
    have hunclosed : dropLeading? closing [] = none := by rw [closing_eq, dropLeading?]
    rw [hleft, hunclosed, List.nil_append, ← List.cons_append, ← opening_eq,
      dropLeading?_closing_opening]
    rfl
  · exact dropLeading?_append_of_ne_nil notMem_closing hleft _

/-- Whether a date stands at the start of a text is not changed by a date that begins later. -/
lemma afterDate?_append (ha : a ≠ []) (s : List UInt8) :
    afterDate? (a ++ (opening ++ s)) = (afterDate? a).map (· ++ (opening ++ s)) := by
  have hopen : dropLeading? opening (a ++ (opening ++ s)) =
      (dropLeading? opening a).map (· ++ (opening ++ s)) := by
    have h := dropLeading?_append_of_ne_nil notMem_opening ha (opening.tail ++ s)
    rwa [← List.cons_append, ← opening_eq] at h
  rw [afterDate?, afterDate?, hopen]
  cases dropLeading? opening a with
  | none => rfl
  | some inside =>
    have htext : (inside ++ (opening ++ s)).takeWhile (· ≠ markStart) =
        inside.takeWhile (· ≠ markStart) := by
      rw [opening_eq, List.cons_append, takeWhile_append_mark]
    simp only [Option.map_some]
    rw [htext, closing_append]
    split
    · rfl
    · rfl

/-- A date that holds a text without a mark ends with its closing mark. -/
lemma afterDate?_date (ht : markStart ∉ encode t) (s : List UInt8) :
    afterDate? (date t ++ s) = some s := by
  have hclean : ∀ x ∈ encode t, (decide (x ≠ markStart)) = true := by
    intro x hx
    rw [decide_eq_true_iff]
    rintro rfl
    exact ht hx
  have hopen : dropLeading? opening (date t ++ s) = some (encode t ++ (closing ++ s)) := by
    rw [dropLeading?_eq_some_iff, date, List.append_assoc, List.append_assoc]
  have htext : (encode t ++ (closing ++ s)).takeWhile (· ≠ markStart) = encode t := by
    rw [closing_eq, List.cons_append, takeWhile_append_mark]
    exact List.takeWhile_eq_self_iff.2 hclean
  have hrest : (encode t ++ (closing ++ s)).dropWhile (· ≠ markStart) = closing ++ s := by
    rw [closing_eq, List.cons_append, dropWhile_append_mark, List.dropWhile_eq_nil_iff.2 hclean,
      List.nil_append]
  have hclose : dropLeading? closing (closing ++ s) = some s := dropLeading?_eq_some_iff.2 rfl
  rw [afterDate?, hopen]
  simp only [htext, hrest, hclose, decode?_encode, Option.isSome_some, if_true]

/-! ## Texts with dates -/

/-- A date is taken out of a text, and what stands before and after it is cleaned by itself. -/
lemma withoutDates_date (ht : markStart ∉ encode t) (a b : List UInt8) :
    withoutDates (a ++ (date t ++ b)) = withoutDates a ++ withoutDates b := by
  have hdate : date t ++ b = opening ++ (encode t ++ closing ++ b) := by
    simp only [date, List.append_assoc]
  -- The scan goes on from one place to a later one, until it comes to the date.
  induction hn : a.length using Nat.strong_induction_on generalizing a with
  | _ n ih =>
    cases a with
    | nil =>
      rw [List.nil_append, withoutDates_of_some (afterDate?_date ht b), withoutDates,
        List.nil_append]
    | cons x rest =>
      have hnext := afterDate?_append (List.cons_ne_nil x rest) (encode t ++ closing ++ b)
      rw [← hdate] at hnext
      cases hx : afterDate? (x :: rest) with
      | some after =>
        rw [hx, Option.map_some] at hnext
        have hshorter : after.length < n := by
          rw [← hn]
          exact length_lt_of_afterDate? hx
        rw [withoutDates_of_some hnext, withoutDates_of_some hx]
        exact ih after.length hshorter after rfl
      | none =>
        rw [hx, Option.map_none] at hnext
        have hshorter : rest.length < n := by
          rw [← hn]
          exact Nat.lt_succ_self _
        rw [List.cons_append] at hnext ⊢
        rw [withoutDates_of_none hnext, withoutDates_of_none hx, List.cons_append]
        exact congrArg (x :: ·) (ih rest.length hshorter rest rfl)

/-- Contents that differ in nothing but the texts of some of their dates. -/
inductive Restamped : List UInt8 → List UInt8 → Prop
  | same (s : List UInt8) : Restamped s s
  | date (a : List UInt8) {x y : List UInt8} {t t' : String} (ht : markStart ∉ encode t)
      (ht' : markStart ∉ encode t') (rest : Restamped x y) :
      Restamped (a ++ (Checkpoint.date t ++ x)) (a ++ (Checkpoint.date t' ++ y))

/-- Contents that were stamped anew are the same without their dates. -/
lemma Restamped.withoutDates_eq {x y : List UInt8} (h : Restamped x y) :
    withoutDates x = withoutDates y := by
  induction h with
  | same s => rfl
  | date a ht ht' _ ih => rw [withoutDates_date ht, withoutDates_date ht', ih]

/-- A date with well-formed text in it that has no mark is taken out of any bytes whatever, and what
stands before it and after it is cleaned by itself. So contents that differ only in the texts of
their dates have one fingerprint, and where the checkpoint of the one is recorded and the other is
served, the feed is unchanged. -/
theorem restamped_unchanged :
    (∀ (a b : List UInt8) (t : String), markStart ∉ encode t →
      withoutDates (a ++ opening ++ encode t ++ closing ++ b) =
        withoutDates a ++ withoutDates b) ∧
    (∀ x y, Restamped x y → fingerprint x = fingerprint y) ∧
    ∀ (o : FetchOptions) (c : Conditions) (r : Feed.Reference) (x y : List UInt8),
      Restamped x y → r.checkpoint = fingerprint x →
      ((retrying o r.url).runIn c []).1 = .ok y →
      ((verify o (some r)).runIn c []).1 = .unchanged r.checkpoint := by
  have hsame : ∀ x y, Restamped x y → fingerprint x = fingerprint y := by
    intro x y h
    rw [fingerprint, h.withoutDates_eq, fingerprint]
  refine ⟨?_, hsame, ?_⟩
  · intro a b t ht
    have h := withoutDates_date ht a b
    simpa only [date, List.append_assoc] using h
  · intro o c r x y h hrecorded hserved
    have hverdict := verdict_verify c o r
    rw [hserved] at hverdict
    rw [← Outcome.verdict_eq_unchanged_iff, hverdict, verdictOn_eq_unchanged_iff]
    exact ⟨y, rfl, by rw [hrecorded, hsame x y h], rfl⟩

/-- A date is found after an opened one and before bytes that are no text, and stamping it anew
leaves a feed unchanged. -/
theorem restamped_unchanged_opened :
    let before := asciiBytes "<pubDate>Mon".toList
    let x := before ++ (date "Tue" ++ [0xFF])
    let y := before ++ (date "Wed" ++ [0xFF])
    withoutDates (before ++ opening ++ encode "Tue" ++ closing ++ [0xFF]) =
      withoutDates before ++ withoutDates [0xFF] ∧
    fingerprint x = fingerprint y ∧
    ((verify ⟨.standard, 10⟩ (some ⟨"u", fingerprint x⟩)).runIn
      ⟨fun _ _ => ⟨0, .body y⟩, none⟩ []).1 = .unchanged (fingerprint x) := by
  intro before x y
  obtain ⟨happend, hsame, hserved⟩ := restamped_unchanged
  have hTue : markStart ∉ encode "Tue" := by decide +kernel
  have hWed : markStart ∉ encode "Wed" := by decide +kernel
  have h : Restamped x y := .date before hTue hWed (.same [0xFF])
  exact ⟨happend before [0xFF] "Tue" hTue, hsame x y h,
    hserved ⟨.standard, 10⟩ ⟨fun _ _ => ⟨0, .body y⟩, none⟩ ⟨"u", fingerprint x⟩ x y h rfl rfl⟩

end CaskAudit.Checkpoint
