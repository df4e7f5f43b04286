import CaskAudit.Feed.Basic
import CaskAudit.Proofs.Text.Cutting
import CaskAudit.Proofs.Text.Trimming
import Mathlib.Order.Defs.LinearOrder

/-!
# The order of versions

The numbers in a version are those that its maximal runs of digits write (`WritesNumbers`); every
text has exactly one list of such runs (`hasRuns_iff`). Versions are compared by these numbers, each
capped at the largest component. The order is total, and only identical versions compare equal.

Capping two numbers keeps their order unless both reach the cap. So versions have the order of their
numbers if one of the two numbers at the first difference stays below the cap (`ToldApart`). Two
numbers that reach the cap count as the same number, however much they differ.
-/

namespace CaskAudit

open Text

/-! ## Runs of digits -/

/-- The maximal runs of digits in a text, from first to last: a run has at least one digit, and the
text after it does not go on with a digit. -/
inductive HasRuns : List Char → List (List Char) → Prop
  | nil {s : List Char} (hs : ∀ c ∈ s, isAsciiDigit c = false) : HasRuns s []
  | cons {gap run rest : List Char} {runs : List (List Char)}
      (hgap : ∀ c ∈ gap, isAsciiDigit c = false) (hne : run ≠ [])
      (hrun : ∀ c ∈ run, isAsciiDigit c = true) (hend : ∀ c ∈ rest.head?, isAsciiDigit c = false)
      (hrest : HasRuns rest runs) : HasRuns (gap ++ (run ++ rest)) (run :: runs)

/-- Text without digits holds no part of a run. -/
lemma digitRuns_append_of_forall {gap : List Char} (h : ∀ c ∈ gap, isAsciiDigit c = false)
    (s : List Char) : digitRuns [] (gap ++ s) = digitRuns [] s := by
  induction gap with
  | nil => rw [List.nil_append]
  | cons c gap ih =>
    obtain ⟨hc, hgap⟩ := List.forall_mem_cons.1 h
    rw [List.cons_append, digitRuns, if_neg (by simp [hc]), if_pos List.isEmpty_nil, ih hgap]

/-- Digits go on with the run at hand. -/
lemma digitRuns_append_of_digits {digits : List Char} (h : ∀ c ∈ digits, isAsciiDigit c = true)
    (run s : List Char) : digitRuns run (digits ++ s) = digitRuns (run ++ digits) s := by
  induction digits generalizing run with
  | nil => rw [List.nil_append, List.append_nil]
  | cons c digits ih =>
    obtain ⟨hc, hdigits⟩ := List.forall_mem_cons.1 h
    calc digitRuns run (c :: digits ++ s)
        = digitRuns (run ++ [c]) (digits ++ s) := by rw [List.cons_append, digitRuns, if_pos hc]
      _ = digitRuns (run ++ [c] ++ digits) s := ih hdigits _
      _ = digitRuns (run ++ c :: digits) s := by rw [List.append_assoc, List.singleton_append]

/-- A run ends where the text does not go on with a digit. -/
lemma digitRuns_of_head? {run rest : List Char} (hne : run ≠ [])
    (h : ∀ c ∈ rest.head?, isAsciiDigit c = false) :
    digitRuns run rest = run :: digitRuns [] rest := by
  have hempty : run.isEmpty = false := List.isEmpty_eq_false_iff.2 hne
  cases rest with
  | nil => simp [digitRuns, hempty]
  | cons c rest =>
    have hc : isAsciiDigit c = false := h c List.head?_cons
    simp [digitRuns, hempty, hc]

/-- The runs of a text are those that are read from it. -/
lemma HasRuns.digitRuns_eq {s : List Char} {runs : List (List Char)} (h : HasRuns s runs) :
    digitRuns [] s = runs := by
  induction h with
  | nil hs =>
    have hskip := digitRuns_append_of_forall hs []
    rwa [List.append_nil] at hskip
  | cons hgap hne hrun hend hrest ih =>
    rw [digitRuns_append_of_forall hgap, digitRuns_append_of_digits hrun, List.nil_append]
    rw [digitRuns_of_head? hne hend, ih]

/-- Every text has runs of digits. -/
lemma exists_hasRuns (s : List Char) : ∃ runs, HasRuns s runs := by
  -- The text after the first run is shorter than the whole.
  induction hn : s.length using Nat.strongRecOn generalizing s with
  | ind n ih =>
    have hgap : ∀ c ∈ s.takeWhile (!isAsciiDigit ·), isAsciiDigit c = false := by
      intro c hc
      simpa using List.mem_takeWhile_imp hc
    have hsplit := List.takeWhile_append_dropWhile (p := (!isAsciiDigit ·)) (l := s)
    by_cases hrest : s.dropWhile (!isAsciiDigit ·) = []
    · rw [hrest, List.append_nil] at hsplit
      rw [hsplit] at hgap
      exact ⟨[], .nil hgap⟩
    · obtain ⟨c, t, ht⟩ := List.exists_cons_of_ne_nil hrest
      have hc : isAsciiDigit c = true := by
        have hfirst : c ∈ (s.dropWhile (!isAsciiDigit ·)).head? := by
          rw [ht]
          exact List.head?_cons
        simpa using eq_false_of_mem_head?_dropWhile hfirst
      have hrun : ∀ d ∈ c :: t.takeWhile isAsciiDigit, isAsciiDigit d = true :=
        List.forall_mem_cons.2 ⟨hc, fun d hd => List.mem_takeWhile_imp hd⟩
      have hshort : (t.dropWhile isAsciiDigit).length < n := by
        have hdrop := (List.dropWhile_sublist (l := t) isAsciiDigit).length_le
        have hwhole := congrArg List.length hsplit
        rw [ht, List.length_append, List.length_cons] at hwhole
        omega
      obtain ⟨runs, hruns⟩ := ih _ hshort (t.dropWhile isAsciiDigit) rfl
      have htext : s = s.takeWhile (!isAsciiDigit ·) ++
          (c :: t.takeWhile isAsciiDigit ++ t.dropWhile isAsciiDigit) := by
        rw [List.cons_append, List.takeWhile_append_dropWhile, ← ht, hsplit]
      rw [htext]
      have hend : ∀ d ∈ (t.dropWhile isAsciiDigit).head?, isAsciiDigit d = false :=
        fun _ hd => eq_false_of_mem_head?_dropWhile hd
      exact ⟨_, .cons hgap (List.cons_ne_nil _ _) hrun hend hruns⟩

/-- The runs that are read from a text are the only ones that it has. -/
lemma hasRuns_iff {s : List Char} {runs : List (List Char)} :
    HasRuns s runs ↔ digitRuns [] s = runs := by
  constructor
  · exact HasRuns.digitRuns_eq
  · rintro rfl
    obtain ⟨runs, hruns⟩ := exists_hasRuns s
    rwa [hruns.digitRuns_eq]

/-! ## Numbers -/

/-- The numbers that the runs of digits in a version write, from first to last. -/
def WritesNumbers (version : String) (numbers : List Nat) : Prop :=
  ∃ runs, HasRuns version.toList runs ∧ runs.map ofDigits = numbers

/-- A version writes the numbers of the runs that are read from it, and no others. -/
lemma writesNumbers_iff {version : String} {numbers : List Nat} :
    WritesNumbers version numbers ↔ (digitRuns [] version.toList).map ofDigits = numbers := by
  constructor
  · rintro ⟨runs, hruns, hnumbers⟩
    rwa [hruns.digitRuns_eq]
  · intro h
    exact ⟨_, hasRuns_iff.2 rfl, h⟩

/-- A number as it counts for a version. -/
def capped (n : Nat) : Nat := min n largestComponent

/-- A number below the cap counts for itself. -/
lemma capped_of_lt {n : Nat} (h : n < largestComponent) : capped n = n :=
  Nat.min_eq_left (Nat.le_of_lt h)

/-- Numbers that reach the cap count for the cap. -/
lemma capped_of_le {n : Nat} (h : largestComponent ≤ n) : capped n = largestComponent :=
  Nat.min_eq_right h

/-- Of two numbers in their order, one of them below the cap, the smaller counts for less. -/
lemma capped_lt {m n : Nat} (h : m < n) (hcap : m < largestComponent) : capped m < capped n := by
  rw [capped_of_lt hcap]
  exact Nat.lt_min.2 ⟨h, hcap⟩

/-- Versions are compared by the numbers that they write as these count. -/
lemma WritesNumbers.versionNumbers_eq {version : String} {numbers : List Nat}
    (h : WritesNumbers version numbers) : versionNumbers version = numbers.map capped := by
  rw [versionNumbers, ← writesNumbers_iff.1 h, List.map_map]
  rfl

/-! ## The order -/

/-- Versions are compared by two keys, one after the other. -/
lemma compareVersions_eq_compareLex :
    compareVersions = compareLex (compareOn versionNumbers) compare := rfl

/-- The order of versions is a total preorder. -/
instance : Std.TransCmp compareVersions := by
  rw [compareVersions_eq_compareLex]
  infer_instance

/-- Only identical versions compare equal. -/
instance : Std.LawfulEqCmp compareVersions where
  eq_of_compare := by
    intro a b h
    obtain ⟨-, htexts⟩ := Ordering.then_eq_eq.1 h
    exact Std.LawfulEqOrd.eq_of_compare htexts

/-- Two lists of numbers are told apart: of the numbers at the first difference, if both lists go on
there, one is below the cap. -/
def ToldApart (ms ns : List Nat) : Prop :=
  ∀ shared m n ms' ns', ms = shared ++ m :: ms' → ns = shared ++ n :: ns' → m ≠ n →
    m < largestComponent ∨ n < largestComponent

/-- Lists that are told apart are so after a number that they share. -/
lemma ToldApart.tail {n : Nat} {ms ns : List Nat} (h : ToldApart (n :: ms) (n :: ns)) :
    ToldApart ms ns := by
  intro shared k l ms' ns' hms hns
  have hms' : n :: ms = n :: shared ++ k :: ms' := congrArg (List.cons n) hms
  have hns' : n :: ns = n :: shared ++ l :: ns' := congrArg (List.cons n) hns
  exact h (n :: shared) k l ms' ns' hms' hns'

/-- The numbers that two lists begin with are told apart. -/
lemma ToldApart.head {m n : Nat} {ms ns : List Nat} (h : ToldApart (m :: ms) (n :: ns))
    (hne : m ≠ n) : m < largestComponent ∨ n < largestComponent :=
  h [] m n ms ns rfl rfl hne

/-- What holds of two lists that are told apart holds of them in the other order. -/
lemma ToldApart.symm {ms ns : List Nat} (h : ToldApart ms ns) : ToldApart ns ms := by
  intro shared n m ns' ms' hns hms hne
  exact (h shared m n ms' ns' hms hns hne.symm).symm

/-- Numbers below the cap are told apart from all others. -/
lemma toldApart_of_forall_lt {ms ns : List Nat} (h : ∀ n ∈ ns, n < largestComponent) :
    ToldApart ms ns := by
  rintro shared m n ms' ns' - rfl -
  exact .inr (h n (List.mem_append_right shared List.mem_cons_self))

/-- Of two lists that are told apart, the smaller one counts for less. -/
lemma ToldApart.compare_map_capped {ms ns : List Nat} (h : ToldApart ms ns) (hlt : ms < ns) :
    compare (ms.map capped) (ns.map capped) = .lt := by
  induction ms generalizing ns with
  | nil =>
    cases ns with
    | nil => exact absurd hlt (List.lt_irrefl [])
    | cons n ns => rw [List.map_nil, List.map_cons, List.compare_nil_cons]
  | cons m ms ih =>
    cases ns with
    | nil => exact absurd hlt (List.not_lt_nil _)
    | cons n ns =>
      rw [List.map_cons, List.map_cons, List.compare_cons_cons, Ordering.then_eq_lt]
      rcases List.cons_lt_cons_iff.1 hlt with hmn | ⟨rfl, htail⟩
      · have hcap : m < largestComponent := by
          rcases h.head (Nat.ne_of_lt hmn) with hm | hn
          · exact hm
          · exact Nat.lt_trans hmn hn
        exact .inl (Nat.compare_eq_lt.2 (capped_lt hmn hcap))
      · exact .inr ⟨Nat.compare_eq_eq.2 rfl, ih h.tail htail⟩

/-- Numbers that count alike at the start of two lists have no part in the order. -/
lemma compare_map_capped_append {m n : Nat} (hcapped : capped m = capped n)
    (shared ms ns : List Nat) :
    compare ((shared ++ m :: ms).map capped) ((shared ++ n :: ns).map capped) =
      compare (ms.map capped) (ns.map capped) := by
  have hcons : ∀ (k : Nat) (as bs : List Nat), compare (k :: as) (k :: bs) = compare as bs := by
    intro k as bs
    rw [List.compare_cons_cons, Nat.compare_eq_eq.2 rfl, Ordering.eq_then]
  induction shared with
  | nil =>
    simp only [List.nil_append, List.map_cons]
    rw [hcapped, hcons]
  | cons k shared ih =>
    simp only [List.cons_append, List.map_cons]
    rw [hcons, ih]

/-- Versions have the order of the numbers that they write, if these are told apart, and the order
of their texts where these are the same. Numbers that are not told apart are both at least the
largest component; they count as the same number, and what comes after them decides. -/
theorem versions_by_numbers {a b : String} {ms ns : List Nat} (ha : WritesNumbers a ms)
    (hb : WritesNumbers b ns) :
    (ToldApart ms ns → ms < ns → compareVersions a b = .lt) ∧
    (ToldApart ms ns → ns < ms → compareVersions a b = .gt) ∧
    (ms = ns → compareVersions a b = compare a b) ∧
    (∀ shared m n ms' ns', ms = shared ++ m :: ms' → ns = shared ++ n :: ns' →
      largestComponent ≤ m → largestComponent ≤ n →
      compareVersions a b = (compare (ms'.map capped) (ns'.map capped)).then (compare a b)) := by
  have hless : ∀ {a b : String} {ms ns : List Nat}, WritesNumbers a ms → WritesNumbers b ns →
      ToldApart ms ns → ms < ns → compareVersions a b = .lt := by
    intro a b ms ns ha hb hapart hlt
    have hnumbers := hapart.compare_map_capped hlt
    rw [compareVersions, ha.versionNumbers_eq, hb.versionNumbers_eq, hnumbers, Ordering.lt_then]
  refine ⟨hless ha hb, ?_, ?_, ?_⟩
  · intro hapart hlt
    have hswap : compareVersions a b = (compareVersions b a).swap := Std.OrientedCmp.eq_swap
    rw [hswap, hless hb ha hapart.symm hlt, Ordering.swap_lt]
  · rintro rfl
    have hsame : versionNumbers a = versionNumbers b := by
      rw [ha.versionNumbers_eq, hb.versionNumbers_eq]
    have hnumbers : compare (versionNumbers a) (versionNumbers b) = .eq := by
      rw [hsame]
      exact Std.ReflCmp.compare_self
    rw [compareVersions, hnumbers, Ordering.eq_then]
  · rintro shared m n ms' ns' rfl rfl hm hn
    have hcapped : capped m = capped n := by rw [capped_of_le hm, capped_of_le hn]
    have hrest := compare_map_capped_append hcapped shared ms' ns'
    rw [compareVersions, ha.versionNumbers_eq, hb.versionNumbers_eq, hrest]

/-- A number that reaches the cap is told apart from one that does not, and two that reach it are
passed over. -/
theorem versions_by_numbers_builds :
    compareVersions "1.0-99999999999999999999" "1.0-7" = .gt ∧
    compareVersions "1.100000000000000000000.2" "1.99999999999999999999.3" = .lt := by
  have hlong : WritesNumbers "1.0-99999999999999999999" [1, 0, 99999999999999999999] :=
    writesNumbers_iff.2 (by decide +kernel)
  have hshort : WritesNumbers "1.0-7" [1, 0, 7] := writesNumbers_iff.2 (by decide +kernel)
  have hfirst : WritesNumbers "1.100000000000000000000.2" [1, 100000000000000000000, 2] :=
    writesNumbers_iff.2 (by decide +kernel)
  have hsecond : WritesNumbers "1.99999999999999999999.3" [1, 99999999999999999999, 3] :=
    writesNumbers_iff.2 (by decide +kernel)
  have hapart : ToldApart [1, 0, 99999999999999999999] [1, 0, 7] :=
    toldApart_of_forall_lt (by decide +kernel)
  refine ⟨(versions_by_numbers hlong hshort).2.1 hapart (by decide +kernel), ?_⟩
  have hpassed := (versions_by_numbers hfirst hsecond).2.2.2 [1] 100000000000000000000
    99999999999999999999 [2] [3] rfl rfl (by decide +kernel) (by decide +kernel)
  rw [hpassed]
  decide +kernel

/-- Versions do not have the order of their numbers where both numbers reach the cap: the larger of
these two, by its text, is the smaller one by its number. -/
theorem versions_by_numbers_twenty_nines :
    WritesNumbers "99999999999999999999" [99999999999999999999] ∧
    WritesNumbers "100000000000000000000" [100000000000000000000] ∧
    [99999999999999999999] < [100000000000000000000] ∧
    compareVersions "99999999999999999999" "100000000000000000000" = .gt := by
  refine ⟨writesNumbers_iff.2 ?_, writesNumbers_iff.2 ?_, ?_, ?_⟩ <;> decide +kernel

/-! ## Pre-releases -/

/-- A version looks like that of a pre-release exactly if one of seven words stands in it, in any
case of its ASCII letters. -/
lemma looksPrerelease_iff {version : String} :
    looksPrerelease version = true ↔
      ∃ tag ∈ ["alpha", "beta", "rc", "pre", "dev", "preview", "nightly"],
        tag.toList <:+: version.toList.map Char.toLower := by
  simp only [looksPrerelease, prereleaseTags, List.any_eq_true, occursIn_iff]

end CaskAudit
