import CaskAudit.Proofs.Text.Cutting
import CaskAudit.Release

/-!
# Looking a release up

A text denotes a release by its symbolic name or by its version number. A version number is told by
its key: what follows the key after a dot does not change it (`numberKey?_append`), and nothing else
can follow (`eq_or_exists_of_numberKey?`). The numbers of the releases are keys themselves, so a
version number denotes the release whose number it goes on from, if it goes on at all.

Names begin with letters and numbers with digits. So no text is both (`ofToken?_or_ofVersion?`), and
the first character tells which of the two a text may be (`ofText?_eq_some_iff`).
-/

namespace CaskAudit.Release

open Text

variable {s key : List Char} {text : String} {r : Release}

/-! ## Names and numbers -/

/-- Every release is listed. -/
lemma mem_all (r : Release) : r ∈ all := List.mem_of_getElem? (all_getElem?_rank r)

/-- A text that distinguishes the releases is that of the release found by it. -/
lemma find?_all_eq_some_iff {f : Release → String}
    (hf : ∀ q ∈ all, all.find? (fun p => (f p).toList = (f q).toList) = some q) :
    all.find? (fun p => (f p).toList = s) = some r ↔ s = (f r).toList := by
  constructor
  · intro h
    have hname := List.find?_some h
    exact (of_decide_eq_true hname).symm
  · rintro rfl
    exact hf r (mem_all r)

/-- A symbolic name is that of the release found by it. -/
lemma ofName?_eq_some_iff : ofName? s = some r ↔ s = r.name.toList :=
  find?_all_eq_some_iff (by decide +kernel)

/-- A version number is that of the release found by it. -/
lemma ofNumber?_eq_some_iff : ofNumber? s = some r ↔ s = r.number.toList :=
  find?_all_eq_some_iff (by decide +kernel)

/-- No name begins with a digit. -/
lemma isAsciiDigit_head?_name (r : Release) : r.name.toList.head?.any isAsciiDigit = false := by
  have hall : ∀ q ∈ all, q.name.toList.head?.any isAsciiDigit = false := by decide +kernel
  exact hall r (mem_all r)

/-- Every number begins with a digit. -/
lemma isAsciiDigit_head?_number (r : Release) : r.number.toList.head?.any isAsciiDigit = true := by
  have hall : ∀ q ∈ all, q.number.toList.head?.any isAsciiDigit = true := by decide +kernel
  exact hall r (mem_all r)

/-! ## Keys of version numbers -/

/-- What follows a version number after a dot does not change its key. -/
lemma numberKey?_append (h : numberKey? s = some key) (rest : List Char) :
    numberKey? (s ++ '.' :: rest) = some key := by
  unfold numberKey? at h ⊢
  rw [splitOn_append]
  cases hs : splitOn '.' s with
  | nil => exact absurd hs (splitOn_ne_nil '.' s)
  | cons major parts =>
    rw [hs] at h
    simp only [List.cons_append] at h ⊢
    by_cases hmajor : major = "10".toList
    · rw [if_pos hmajor] at h ⊢
      cases parts with
      | nil => cases h
      | cons minor parts => exact h
    · rw [if_neg hmajor] at h ⊢
      exact h

/-- A version number is its key, or goes on after it with a dot. -/
lemma eq_or_exists_of_numberKey? (h : numberKey? s = some key) :
    s = key ∨ ∃ rest, s = key ++ '.' :: rest := by
  have hjoin := joinWith_splitOn '.' s
  unfold numberKey? at h
  cases hs : splitOn '.' s with
  | nil => exact absurd hs (splitOn_ne_nil '.' s)
  | cons major parts =>
    rw [hs] at h hjoin
    simp only at h
    by_cases hmajor : major = "10".toList
    · rw [if_pos hmajor] at h
      cases parts with
      | nil => cases h
      | cons minor parts =>
        obtain rfl : "10.".toList ++ minor = key := Option.some.inj h
        have hten : "10.".toList = "10".toList ++ ['.'] := by decide
        rw [joinWith_cons major (List.cons_ne_nil _ _), hmajor] at hjoin
        by_cases hparts : parts = []
        · rw [hparts, joinWith] at hjoin
          exact .inl (by rw [hten, ← hjoin, List.append_assoc, List.singleton_append])
        · rw [joinWith_cons minor hparts] at hjoin
          refine .inr ⟨joinWith ['.'] parts, ?_⟩
          rw [hten, ← hjoin]
          simp only [List.append_assoc, List.cons_append, List.nil_append]
    · rw [if_neg hmajor] at h
      obtain rfl : major = key := Option.some.inj h
      by_cases hparts : parts = []
      · rw [hparts, joinWith] at hjoin
        exact .inl hjoin.symm
      · rw [joinWith_cons major hparts] at hjoin
        exact .inr ⟨_, hjoin.symm⟩

/-- The number of a release is a key. -/
lemma numberKey?_number (r : Release) : numberKey? r.number.toList = some r.number.toList := by
  have hall : ∀ q ∈ all, numberKey? q.number.toList = some q.number.toList := by decide +kernel
  exact hall r (mem_all r)

/-- Two components of which the first is ten are a key. -/
lemma numberKey?_ten {minor : List Char} (h : '.' ∉ minor) :
    numberKey? ("10.".toList ++ minor) = some ("10.".toList ++ minor) := by
  have hten : "10.".toList ++ minor = "10".toList ++ '.' :: minor := by
    have hdot : "10.".toList = "10".toList ++ ['.'] := by decide
    rw [hdot, List.append_assoc, List.singleton_append]
  have hmajor : splitOn '.' "10".toList = ["10".toList] := splitOn_of_notMem (by decide)
  have hsplit : splitOn '.' ("10".toList ++ '.' :: minor) = ["10".toList, minor] := by
    rw [splitOn_append, hmajor, splitOn_of_notMem h]
    rfl
  rw [hten, numberKey?, hsplit, ← hten]
  rfl

/-- A version number has the number of a release as its key exactly if it goes on from it. -/
lemma numberKey?_eq_some_number_iff : numberKey? s = some r.number.toList ↔
    s = r.number.toList ∨ ∃ rest, s = r.number.toList ++ '.' :: rest := by
  constructor
  · exact eq_or_exists_of_numberKey?
  · rintro (rfl | ⟨rest, rfl⟩)
    · exact numberKey?_number r
    · exact numberKey?_append (numberKey?_number r) rest

/-! ## The two lookups -/

/-- A text denotes a release by the name that it is without blanks and colons. -/
lemma ofToken?_eq_some_iff :
    ofToken? text = some r ↔ dropAll ':' (trim text.toList) = r.name.toList :=
  ofName?_eq_some_iff

/-- A text denotes the release whose number is the key of the text. -/
lemma ofVersion?_eq_some_iff :
    ofVersion? text = some r ↔ numberKey? (trim text.toList) = some r.number.toList := by
  rw [ofVersion?]
  cases numberKey? (trim text.toList) with
  | none => simp
  | some key => rw [Option.some.injEq, ← ofNumber?_eq_some_iff]

/-- A text that denotes a release by its name does not begin with a digit. -/
lemma isAsciiDigit_head?_of_ofToken? (h : ofToken? text = some r) :
    (trim text.toList).head?.any isAsciiDigit = false := by
  rw [ofToken?_eq_some_iff] at h
  cases htext : trim text.toList with
  | nil => rfl
  | cons c rest =>
    rw [htext, dropAll] at h
    by_cases hc : c = ':'
    · rw [hc]
      rfl
    · rw [List.dropWhile_cons_of_neg (by simpa using hc)] at h
      rw [h]
      exact isAsciiDigit_head?_name r

/-- A text that denotes a release by its number begins with a digit. -/
lemma isAsciiDigit_head?_of_ofVersion? (h : ofVersion? text = some r) :
    (trim text.toList).head?.any isAsciiDigit = true := by
  rw [ofVersion?_eq_some_iff, numberKey?_eq_some_number_iff] at h
  have hdigit := isAsciiDigit_head?_number r
  rcases h with h | ⟨rest, h⟩
  · rw [h]
    exact hdigit
  · obtain ⟨c, hc, hdigit⟩ := (Option.any_eq_true _ _).1 hdigit
    rw [h, List.head?_append, hc]
    exact hdigit

/-- No text denotes releases in both ways. -/
lemma ofToken?_or_ofVersion? (text : String) : ofToken? text = none ∨ ofVersion? text = none := by
  cases htoken : ofToken? text with
  | none => exact .inl rfl
  | some r =>
    cases hversion : ofVersion? text with
    | none => exact .inr rfl
    | some q =>
      have hletter := isAsciiDigit_head?_of_ofToken? htoken
      rw [isAsciiDigit_head?_of_ofVersion? hversion] at hletter
      cases hletter

/-- A text is looked up by number if it begins with a digit, and by name otherwise. -/
lemma ofText?_eq (text : String) : ofText? text =
    if (trim text.toList).head?.any isAsciiDigit then ofVersion? text else ofToken? text := by
  rw [ofText?]
  cases trim text.toList with
  | nil => rfl
  | cons c rest => rfl

/-- A text denotes the releases that it denotes in one of the two ways. -/
lemma ofText?_eq_some_iff :
    ofText? text = some r ↔ ofToken? text = some r ∨ ofVersion? text = some r := by
  rw [ofText?_eq]
  split
  · next hdigit =>
    refine ⟨.inr, ?_⟩
    rintro (h | h)
    · rw [isAsciiDigit_head?_of_ofToken? h] at hdigit
      cases hdigit
    · exact h
  · next hdigit =>
    refine ⟨.inl, ?_⟩
    rintro (h | h)
    · exact h
    · exact absurd (isAsciiDigit_head?_of_ofVersion? h) hdigit

/-- A text denotes a release exactly if it does so by name or by number, and no text does both. By
name it denotes the release whose name is left of it without the blanks around it and the colons
before it; by number the release whose number, up to the blanks around it, it is or goes on from
with a dot. So `10` alone and `10` with a minor number of no release are refused, whatever follows
after a dot, and `10.10` is not taken for `10.1`. -/
theorem lookup_by_name_or_number (text : String) :
    (∀ r, ofText? text = some r ↔ ofToken? text = some r ∨ ofVersion? text = some r) ∧
    (ofToken? text = none ∨ ofVersion? text = none) ∧
    (∀ r, ofToken? text = some r ↔ dropAll ':' (trim text.toList) = r.name.toList) ∧
    (∀ r, ofVersion? text = some r ↔ trim text.toList = r.number.toList ∨
      ∃ rest, trim text.toList = r.number.toList ++ '.' :: rest) ∧
    (trim text.toList = "10".toList → ofVersion? text = none) ∧
    (∀ minor, '.' ∉ minor → (∀ r : Release, r.number.toList ≠ "10.".toList ++ minor) →
      (trim text.toList = "10.".toList ++ minor ∨
        ∃ rest, trim text.toList = "10.".toList ++ minor ++ '.' :: rest) →
      ofVersion? text = none) ∧
    ("10.10".toList <+: trim text.toList → ofVersion? text ≠ some puma) := by
  refine ⟨fun r => ofText?_eq_some_iff, ofToken?_or_ofVersion? text, fun r => ofToken?_eq_some_iff,
    fun r => ofVersion?_eq_some_iff.trans numberKey?_eq_some_number_iff, ?_, ?_, ?_⟩
  · intro hten
    have hkey : numberKey? "10".toList = none := by decide +kernel
    rw [ofVersion?, hten, hkey]
  · intro minor hdot hunknown htext
    have hkey : numberKey? (trim text.toList) = some ("10.".toList ++ minor) := by
      rcases htext with h | ⟨rest, h⟩
      · rw [h]
        exact numberKey?_ten hdot
      · rw [h]
        exact numberKey?_append (numberKey?_ten hdot) rest
    rw [Option.eq_none_iff_forall_ne_some]
    intro r hr
    rw [ofVersion?_eq_some_iff, hkey, Option.some.injEq] at hr
    exact hunknown r hr.symm
  · rintro ⟨rest, hrest⟩ hpuma
    rw [ofVersion?_eq_some_iff, numberKey?_eq_some_number_iff, ← hrest] at hpuma
    rcases hpuma with h | ⟨after, h⟩
    · cases h
    · cases h

/-- Blanks and colons around a name, a number that goes on, and numbers of no release. -/
theorem lookup_by_name_or_number_capitan :
    ofText? " ::el_capitan\n" = some elCapitan ∧ ofText? "\t10.10.5 beta " = some yosemite ∧
    ofVersion? "10.10.5" ≠ some puma ∧ ofVersion? " 10 " = none ∧ ofVersion? "10.16.1" = none := by
  obtain ⟨hname, -, htoken, -⟩ := lookup_by_name_or_number " ::el_capitan\n"
  obtain ⟨hnumber, -, -, hversion, -⟩ := lookup_by_name_or_number "\t10.10.5 beta "
  obtain ⟨-, -, -, -, -, -, hten⟩ := lookup_by_name_or_number "10.10.5"
  obtain ⟨-, -, -, -, halone, -⟩ := lookup_by_name_or_number " 10 "
  obtain ⟨-, -, -, -, -, hunknown, -⟩ := lookup_by_name_or_number "10.16.1"
  refine ⟨(hname elCapitan).2 (.inl ((htoken elCapitan).2 (by decide +kernel))),
    (hnumber yosemite).2 (.inr ((hversion yosemite).2 (.inr ⟨"5 beta".toList, by decide +kernel⟩))),
    hten ⟨".5".toList, by decide +kernel⟩, halone (by decide +kernel), ?_⟩
  have hnone : ∀ r ∈ all, r.number.toList ≠ "10.".toList ++ "16".toList := by decide +kernel
  exact hunknown "16".toList (by decide) (fun r => hnone r (mem_all r))
    (.inr ⟨"1".toList, by decide +kernel⟩)

end CaskAudit.Release
