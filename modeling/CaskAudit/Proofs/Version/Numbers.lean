import CaskAudit.Proofs.Text.Cutting
import CaskAudit.Proofs.Text.Decimal
import CaskAudit.Version
import Mathlib.Data.List.TakeWhile

/-!
# The numbers at the start of a version

`Leading parts s` has one rule for each way in which the numeric components of a text end: where no
digit begins one, where something other than a dot follows one, and where a dot does and the text
goes on. Every text has such components in one way, and they are those that are read
(`leading_numericParts`, `Leading.numericParts_eq`). Joined by dots they are the longest numeral
with which the text begins (`Leading.longest`), and that numeral has the same components
(`leading_joinWith`). So the methods that take several of them can be followed by those that take
fewer (`numeric_methods_by_prefix`).
-/

namespace CaskAudit

open Text

variable {s t d : List Char} {parts : List (List Char)}

/-! ## Numerals -/

/-- Digits, and perhaps a dot and the same again after them. -/
inductive IsNumeral : List Char → Prop
  | digits {d : List Char} (hd : IsDigits d) : IsNumeral d
  | dotted {d t : List Char} (hd : IsDigits d) (ht : IsNumeral t) : IsNumeral (d ++ '.' :: t)

/-- The components of a numeral; the empty text has none. -/
def components (t : List Char) : List (List Char) := if t.isEmpty then [] else splitOn '.' t

/-- A numeral with which a text begins, such that none with which it begins is longer; or nothing,
if it begins with none. -/
def IsLongestNumeral (s t : List Char) : Prop :=
  (IsNumeral t ∧ t <+: s ∧ ∀ u, IsNumeral u → u <+: s → u.length ≤ t.length) ∨
    (t = [] ∧ ∀ u, IsNumeral u → ¬u <+: s)

/-- Parts joined by dots begin with the first one. -/
lemma prefix_joinWith_cons (d : List Char) (parts : List (List Char)) :
    d <+: joinWith ['.'] (d :: parts) := by
  by_cases hne : parts = []
  · rw [hne]
    exact List.prefix_refl d
  · rw [joinWith_cons d hne]
    exact List.prefix_append d _

/-- Digits are no dots. -/
lemma IsDigits.dot_notMem (hd : IsDigits d) : '.' ∉ d :=
  fun hdot => absurd (hd.digit _ hdot) (by decide)

/-- A numeral begins with a digit. -/
lemma IsNumeral.exists_cons (h : IsNumeral t) :
    ∃ c rest, t = c :: rest ∧ isAsciiDigit c = true := by
  have hdigits : ∀ {d : List Char}, IsDigits d →
      ∃ c rest, d = c :: rest ∧ isAsciiDigit c = true := by
    intro d hd
    obtain ⟨c, rest, rfl⟩ := List.exists_cons_of_ne_nil hd.ne_nil
    exact ⟨c, rest, rfl, hd.digit c List.mem_cons_self⟩
  cases h with
  | digits hd => exact hdigits hd
  | @dotted d t hd _ =>
    obtain ⟨c, rest, rfl, hc⟩ := hdigits hd
    exact ⟨c, rest ++ '.' :: t, rfl, hc⟩

/-- Components joined by dots are a numeral, if there are any. -/
lemma isNumeral_joinWith (hne : parts ≠ []) (h : ∀ d ∈ parts, IsDigits d) :
    IsNumeral (joinWith ['.'] parts) := by
  induction parts with
  | nil => exact absurd rfl hne
  | cons d parts ih =>
    have hd := h d List.mem_cons_self
    by_cases hparts : parts = []
    · rw [hparts]
      exact .digits hd
    · have hrest := ih hparts fun e he => h e (List.mem_cons_of_mem _ he)
      rw [joinWith_cons d hparts]
      exact .dotted hd hrest

/-- Components joined by dots are the components of what they are joined to. -/
lemma components_joinWith (h : ∀ d ∈ parts, IsDigits d) :
    components (joinWith ['.'] parts) = parts := by
  cases parts with
  | nil => rfl
  | cons d parts =>
    obtain ⟨c, rest, hjoin, -⟩ := (isNumeral_joinWith (List.cons_ne_nil d parts) h).exists_cons
    rw [components, if_neg (by simp [hjoin])]
    exact splitOn_joinWith (List.cons_ne_nil _ _) fun e he => (h e he).dot_notMem

/-! ## The components with which a text begins -/

/-- The numeric components with which a text begins. -/
inductive Leading : List (List Char) → List Char → Prop
  | none {s : List Char} (hs : ∀ c ∈ s.head?, isAsciiDigit c = false) : Leading [] s
  | last {d s : List Char} (hd : IsDigits d)
      (hs : ∀ c ∈ s.head?, isAsciiDigit c = false ∧ c ≠ '.') : Leading [d] (d ++ s)
  | more {parts : List (List Char)} {d s : List Char} (hd : IsDigits d) (hs : Leading parts s) :
      Leading (d :: parts) (d ++ '.' :: s)

/-- Every text begins with some components. -/
lemma exists_leading (s : List Char) : ∃ parts, Leading parts s := by
  -- A dot after the digits leaves less than the text.
  induction hn : s.length using Nat.strong_induction_on generalizing s with
  | _ n ih =>
    by_cases hd : s.takeWhile isAsciiDigit = []
    · refine ⟨[], .none fun c hc => ?_⟩
      cases s with
      | nil => cases hc
      | cons c' s =>
        obtain rfl := Option.some.inj hc
        by_contra hdigit
        rw [List.takeWhile_cons_of_pos (by simpa using hdigit)] at hd
        cases hd
    · have hdigits : IsDigits (s.takeWhile isAsciiDigit) :=
        ⟨hd, fun c hc => List.mem_takeWhile_imp hc⟩
      have hsplit := List.takeWhile_append_dropWhile (p := isAsciiDigit) (l := s)
      have hafter := List.head?_dropWhile_not isAsciiDigit s
      cases hrest : s.dropWhile isAsciiDigit with
      | nil =>
        rw [hrest] at hsplit
        rw [← hsplit]
        exact ⟨_, .last hdigits nofun⟩
      | cons c rest =>
        rw [hrest] at hsplit hafter
        by_cases hdot : c = '.'
        · subst hdot
          have hlen : rest.length < n := by
            rw [← hn, ← hsplit, List.length_append, List.length_cons]
            omega
          obtain ⟨parts, hparts⟩ := ih _ hlen rest rfl
          rw [← hsplit]
          exact ⟨_, .more hdigits hparts⟩
        · rw [← hsplit]
          refine ⟨_, .last hdigits fun c' hc' => ?_⟩
          obtain rfl := Option.some.inj hc'
          exact ⟨by simpa using hafter, hdot⟩

/-- Digits are the first component where something other than a digit follows them. -/
lemma takeWhile_digits_append (hd : ∀ c ∈ d, isAsciiDigit c = true)
    (hs : ∀ c ∈ s.head?, isAsciiDigit c = false) : (d ++ s).takeWhile isAsciiDigit = d := by
  have hnil : s.takeWhile isAsciiDigit = [] := by
    cases s with
    | nil => rfl
    | cons c s => rw [List.takeWhile_cons_of_neg (by simp [hs c rfl])]
  rw [List.takeWhile_append_of_pos hd, hnil, List.append_nil]

/-- A text without dots belongs to the first part of the text after it. -/
lemma exists_splitOn_append (hd : '.' ∉ d) (s : List Char) :
    ∃ part more, splitOn '.' s = part :: more ∧ splitOn '.' (d ++ s) = (d ++ part) :: more := by
  induction d with
  | nil =>
    obtain ⟨part, more, h⟩ := List.exists_cons_of_ne_nil (splitOn_ne_nil '.' s)
    exact ⟨part, more, h, h⟩
  | cons c d ih =>
    obtain ⟨hc, hrest⟩ : '.' ≠ c ∧ '.' ∉ d := by simpa using hd
    obtain ⟨part, more, hs, happend⟩ := ih hrest
    refine ⟨part, more, hs, ?_⟩
    rw [List.cons_append, splitOn, if_neg (Ne.symm hc), happend]
    rfl

/-- The part before the first dot begins as the text does. -/
lemma head?_of_splitOn {part : List Char} {more : List (List Char)}
    (h : splitOn '.' s = part :: more) : ∀ c ∈ part.head?, c ∈ s.head? := by
  have hjoin := joinWith_splitOn '.' s
  rw [h] at hjoin
  intro c hc
  cases more with
  | nil =>
    rw [← hjoin]
    exact hc
  | cons _ _ =>
    rw [← hjoin, joinWith, List.append_assoc, List.head?_append, Option.mem_def.1 hc]
    · rfl
    · exact List.cons_ne_nil _ _

/-- What is read of a text are the components with which it begins. -/
lemma Leading.numericParts_eq (h : Leading parts s) : numericParts s = parts := by
  induction h with
  | @none s hs =>
    obtain ⟨part, more, hsplit⟩ := List.exists_cons_of_ne_nil (splitOn_ne_nil '.' s)
    have hpart : part.takeWhile isAsciiDigit = [] :=
      takeWhile_digits_append (List.forall_mem_nil _) fun c hc =>
        hs c (head?_of_splitOn hsplit c hc)
    rw [numericParts, hsplit, leadingNumbers, hpart]
    rfl
  | @last d s hd hs =>
    obtain ⟨part, more, hsplit, happend⟩ := exists_splitOn_append hd.dot_notMem s
    have hpart : (d ++ part).takeWhile isAsciiDigit = d :=
      takeWhile_digits_append hd.digit fun c hc => (hs c (head?_of_splitOn hsplit c hc)).1
    rw [numericParts, happend, leadingNumbers, hpart, if_neg (by simpa using hd.ne_nil)]
    split
    · -- The digits fill their part, so nothing follows them, not even a dot.
      next hlen =>
      have hnil : part = [] := by simpa using hlen
      subst hnil
      cases s with
      | nil =>
        obtain rfl : [] = more := (List.cons.inj hsplit).2
        rfl
      | cons c s =>
        rw [splitOn, if_neg (hs c rfl).2] at hsplit
        split at hsplit <;> cases hsplit
    · rfl
  | @more parts d s hd _ ih =>
    have htake : d.takeWhile isAsciiDigit = d := by
      simpa using takeWhile_digits_append hd.digit (s := []) fun c hc => by cases hc
    have hsplit : splitOn '.' (d ++ '.' :: s) = d :: splitOn '.' s := by
      rw [splitOn_append, splitOn_of_notMem hd.dot_notMem, List.singleton_append]
    have hne : ¬d.isEmpty = true := by simpa using hd.ne_nil
    rw [numericParts, hsplit, leadingNumbers, htake, if_neg hne, if_pos rfl, ← numericParts, ih]

/-- A text begins with the components that are read of it. -/
lemma leading_numericParts (s : List Char) : Leading (numericParts s) s := by
  obtain ⟨parts, h⟩ := exists_leading s
  rw [h.numericParts_eq]
  exact h

/-- Components are digits. -/
lemma Leading.isDigits (h : Leading parts s) : ∀ d ∈ parts, IsDigits d := by
  induction h with
  | none => exact List.forall_mem_nil _
  | last hd => exact List.forall_mem_singleton.2 hd
  | more hd _ ih => exact List.forall_mem_cons.2 ⟨hd, ih⟩

/-- Digits joined by dots have the digits as their components. -/
lemma leading_joinWith (h : ∀ d ∈ parts, IsDigits d) : Leading parts (joinWith ['.'] parts) := by
  induction parts with
  | nil => exact .none nofun
  | cons d parts ih =>
    have hd := h d List.mem_cons_self
    have hrest := ih fun e he => h e (List.mem_cons_of_mem _ he)
    by_cases hparts : parts = []
    · have hlast := Leading.last (s := []) hd nofun
      rw [List.append_nil] at hlast
      rw [hparts]
      exact hlast
    · rw [joinWith_cons d hparts]
      exact .more hd hrest

/-- A text begins with its first components joined by dots. -/
lemma Leading.joinWith_take_prefix (h : Leading parts s) (n : Nat) :
    joinWith ['.'] (parts.take n) <+: s := by
  cases n with
  | zero => exact List.nil_prefix
  | succ n =>
    induction h generalizing n with
    | none => exact List.nil_prefix
    | last hd =>
      rw [List.take_succ_cons, List.take_nil]
      exact List.prefix_append _ _
    | @more parts d s hd _ ih =>
      rw [List.take_succ_cons]
      by_cases htake : parts.take n = []
      · rw [htake]
        exact List.prefix_append _ _
      · obtain ⟨n, rfl⟩ : ∃ m, n = m + 1 := by
          refine Nat.exists_eq_succ_of_ne_zero fun hn => htake ?_
          rw [hn, List.take_zero]
        rw [joinWith_cons d htake, List.prefix_append_right_inj, List.cons_prefix_cons]
        exact ⟨rfl, ih n⟩

/-- What is no digit and no dot ends the components, and so does anything after it. -/
lemma Leading.append_cons (h : Leading parts s) {c : Char} (hc : isAsciiDigit c = false)
    (hdot : c ≠ '.') (t : List Char) : Leading parts (s ++ c :: t) := by
  have hhead : ∀ {p : Char → Prop} {s : List Char}, (∀ a ∈ s.head?, p a) → p c →
      ∀ a ∈ (s ++ c :: t).head?, p a := by
    intro p s hs hp a ha
    cases s with
    | nil =>
      obtain rfl := Option.some.inj ha
      exact hp
    | cons b s => exact hs a ha
  induction h with
  | none hs => exact .none (hhead hs hc)
  | last hd hs =>
    rw [List.append_assoc]
    exact .last hd (hhead hs ⟨hc, hdot⟩)
  | more hd _ ih =>
    rw [List.append_assoc]
    exact .more hd ih

/-! ## The longest numeral -/

/-- Digits with which a text begins are the beginning of the digits at its start. -/
lemma prefix_of_digits {e : List Char} (he : ∀ c ∈ e, isAsciiDigit c = true)
    (hd : ∀ c ∈ d, isAsciiDigit c = true) (hs : ∀ c ∈ s.head?, isAsciiDigit c = false)
    (h : e <+: d ++ s) : e <+: d := by
  obtain ⟨rest, hrest⟩ := h
  have htake := congrArg (List.takeWhile isAsciiDigit) hrest
  rw [List.takeWhile_append_of_pos he, takeWhile_digits_append hd hs] at htake
  exact ⟨_, htake⟩

/-- Digits and a dot with which a text begins are the digits at its start and the dot after
them. -/
lemma eq_of_dotted_prefix {e : List Char} (he : ∀ c ∈ e, isAsciiDigit c = true)
    (hd : ∀ c ∈ d, isAsciiDigit c = true) (hs : ∀ c ∈ s.head?, isAsciiDigit c = false)
    (h : e ++ '.' :: t <+: d ++ s) : e = d ∧ '.' :: t <+: s := by
  obtain ⟨rest, hrest⟩ := h
  have htake := congrArg (List.takeWhile isAsciiDigit) hrest
  rw [List.append_assoc, takeWhile_digits_append hd hs] at htake
  rw [takeWhile_digits_append he fun c hc => by cases hc; decide] at htake
  subst htake
  rw [List.append_assoc] at hrest
  exact ⟨rfl, rest, List.append_cancel_left hrest⟩

/-- Every numeral with which a text begins is a beginning of its components joined by dots. -/
lemma Leading.prefix_joinWith (h : Leading parts s) (ht : IsNumeral t) (hts : t <+: s) :
    t <+: joinWith ['.'] parts := by
  induction h generalizing t with
  | none hs =>
    obtain ⟨c, rest, rfl, hc⟩ := ht.exists_cons
    obtain ⟨more, rfl⟩ := hts
    rw [hs c rfl] at hc
    cases hc
  | last hd hs =>
    have hdigit := fun c hc => (hs c hc).1
    cases ht with
    | digits he => exact prefix_of_digits he.digit hd.digit hdigit hts
    | dotted he _ =>
      obtain ⟨-, more, rfl⟩ := eq_of_dotted_prefix he.digit hd.digit hdigit hts
      exact absurd rfl (hs '.' rfl).2
  | @more parts d s hd _ ih =>
    have hdot : ∀ c ∈ ('.' :: s).head?, isAsciiDigit c = false := by
      intro c hc
      obtain rfl := Option.some.inj hc
      rfl
    cases ht with
    | digits he =>
      have hbegin := prefix_of_digits he.digit hd.digit hdot hts
      exact hbegin.trans (prefix_joinWith_cons d parts)
    | dotted he ht' =>
      obtain ⟨rfl, hrest⟩ := eq_of_dotted_prefix he.digit hd.digit hdot hts
      have hbegin := ih ht' (List.cons_prefix_cons.1 hrest).2
      have hparts : parts ≠ [] := by
        rintro rfl
        obtain ⟨c, rest, rfl, -⟩ := ht'.exists_cons
        exact List.cons_ne_nil _ _ (List.prefix_nil.1 hbegin)
      rw [joinWith_cons _ hparts, List.prefix_append_right_inj, List.cons_prefix_cons]
      exact ⟨rfl, hbegin⟩

/-- The components with which a text begins are, joined by dots, its longest numeral. -/
lemma Leading.longest (h : Leading parts s) : IsLongestNumeral s (joinWith ['.'] parts) := by
  by_cases hparts : parts = []
  · refine .inr ⟨by rw [hparts]; rfl, fun u hu hus => ?_⟩
    have hbegin := h.prefix_joinWith hu hus
    obtain ⟨c, rest, rfl, -⟩ := hu.exists_cons
    rw [hparts] at hbegin
    exact List.cons_ne_nil _ _ (List.prefix_nil.1 hbegin)
  · have hbegin := h.joinWith_take_prefix parts.length
    rw [List.take_length] at hbegin
    exact .inl ⟨isNumeral_joinWith hparts h.isDigits, hbegin,
      fun u hu hus => (h.prefix_joinWith hu hus).length_le⟩

/-! ## The methods that take components -/

namespace Method

/-- The first components of a text begin it, and are the first components of what they are joined
to. -/
lemma exists_of_firstParts? {n : Nat} (h : firstParts? n s = some t) :
    t <+: s ∧ n ≤ (numericParts s).length ∧ numericParts t = (numericParts s).take n := by
  have hs := leading_numericParts s
  unfold firstParts? at h
  dsimp only at h
  split at h
  · next hn =>
    obtain rfl := Option.some.inj h
    have hdigits : ∀ d ∈ (numericParts s).take n, IsDigits d := fun d hd =>
      hs.isDigits d (List.mem_of_mem_take hd)
    exact ⟨hs.joinWith_take_prefix n, hn, (leading_joinWith hdigits).numericParts_eq⟩
  · cases h

/-- The first components of a text, up to a number, are those of its beginning with as many. -/
lemma firstParts?_of_firstParts? {m n : Nat} (hmn : m ≤ n) (h : firstParts? n s = some t) :
    firstParts? m t = firstParts? m s := by
  obtain ⟨-, hn, ht⟩ := exists_of_firstParts? h
  have hm : m ≤ ((numericParts s).take n).length := by
    rw [List.length_take]
    omega
  have htake : ((numericParts s).take n).take m = (numericParts s).take m := by
    rw [List.take_take, Nat.min_eq_left hmn]
  rw [firstParts?, ht, if_pos hm, htake, firstParts?, if_pos (Nat.le_trans hmn hn)]

/-- A component of a text is that of its beginning with more components. -/
lemma numericParts_getElem?_of_firstParts? {m n : Nat} (hmn : m < n)
    (h : firstParts? n s = some t) : (numericParts t)[m]? = (numericParts s)[m]? := by
  obtain ⟨-, -, ht⟩ := exists_of_firstParts? h
  rw [ht, List.getElem?_take_of_lt hmn]

/-- A method after another is applied to what the other gives. -/
lemma applyAll_pair {k : Method} (h : k.apply s = some t) (m : Method) :
    applyAll [k, m] s = m.apply t := by
  rw [applyAll, h, Option.bind_some, applyAll]
  cases m.apply t <;> rfl

end Method

open Method in
/-- The numeric components of a text are, joined by dots, the longest numeral with which it begins.
The methods for one component have a value exactly if this numeral has as many; those for several
give a beginning of the text, and the methods for fewer give the same after them. -/
theorem numeric_methods_by_prefix (s : List Char) :
    IsLongestNumeral s (joinWith ['.'] (numericParts s)) ∧
    ((∃ t, major.apply s = some t) ↔
      1 ≤ (components (joinWith ['.'] (numericParts s))).length) ∧
    ((∃ t, minor.apply s = some t) ↔
      2 ≤ (components (joinWith ['.'] (numericParts s))).length) ∧
    ((∃ t, patch.apply s = some t) ↔
      3 ≤ (components (joinWith ['.'] (numericParts s))).length) ∧
    (∀ t, majorMinor.apply s = some t → t <+: s ∧
      ∀ m ∈ [major, minor, majorMinor], applyAll [majorMinor, m] s = m.apply s) ∧
    ∀ t, majorMinorPatch.apply s = some t → t <+: s ∧
      ∀ m ∈ [major, minor, majorMinor, patch, majorMinorPatch],
        applyAll [majorMinorPatch, m] s = m.apply s := by
  have hs := leading_numericParts s
  have hcomponents := components_joinWith hs.isDigits
  have hget : ∀ n, (∃ t, (numericParts s)[n]? = some t) ↔
      n + 1 ≤ (components (joinWith ['.'] (numericParts s))).length := by
    intro n
    rw [hcomponents, ← Option.isSome_iff_exists, isSome_getElem?, Nat.succ_le_iff]
  refine ⟨hs.longest, hget 0, hget 1, hget 2, fun t ht => ?_, fun t ht => ?_⟩
  · refine ⟨(exists_of_firstParts? ht).1, fun m hm => ?_⟩
    rw [applyAll_pair ht]
    simp only [List.mem_cons, List.not_mem_nil, or_false] at hm
    rcases hm with rfl | rfl | rfl
    · exact numericParts_getElem?_of_firstParts? (by decide) ht
    · exact numericParts_getElem?_of_firstParts? (by decide) ht
    · exact firstParts?_of_firstParts? (by decide) ht
  · refine ⟨(exists_of_firstParts? ht).1, fun m hm => ?_⟩
    rw [applyAll_pair ht]
    simp only [List.mem_cons, List.not_mem_nil, or_false] at hm
    rcases hm with rfl | rfl | rfl | rfl | rfl
    · exact numericParts_getElem?_of_firstParts? (by decide) ht
    · exact numericParts_getElem?_of_firstParts? (by decide) ht
    · exact firstParts?_of_firstParts? (by decide) ht
    · exact numericParts_getElem?_of_firstParts? (by decide) ht
    · exact firstParts?_of_firstParts? (by decide) ht

open Method in
/-- Two components, of which the second goes on with other characters. -/
theorem numeric_methods_by_prefix_beta :
    IsLongestNumeral "10.2b3.4".toList "10.2".toList ∧
    patch.apply "10.2b3.4".toList = none ∧
    majorMinor.apply "10.2b3.4".toList = some "10.2".toList ∧
    "10.2".toList <+: "10.2b3.4".toList ∧
    applyAll [majorMinor, minor] "10.2b3.4".toList = some ['2'] := by
  obtain ⟨hlongest, -, -, hpatch, hpair, -⟩ := numeric_methods_by_prefix "10.2b3.4".toList
  have happly : majorMinor.apply "10.2b3.4".toList = some "10.2".toList := by decide
  obtain ⟨hbegin, hchain⟩ := hpair _ happly
  have hminor := hchain minor (by decide)
  refine ⟨hlongest, ?_, happly, hbegin, hminor⟩
  rw [Option.eq_none_iff_forall_ne_some]
  intro t ht
  exact absurd (hpatch.1 ⟨t, ht⟩) (by decide)

end CaskAudit
