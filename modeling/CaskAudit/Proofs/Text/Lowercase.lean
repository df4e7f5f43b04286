import CaskAudit.Proofs.Text.Trimming
import CaskAudit.Text.Lowercase

/-!
# Lower case

The small letters of the runs of capitals lie apart from the capitals and from the blanks, as the
bounds and parities of the runs show. So what casing gives for a character is in lower case, and it
is blank where the character is (`exists_lowercaseFrom_cons`). Casing a text again changes nothing
(`lowercase_lowercase`), and a text has no blank at its ends exactly if its lower case has none
(`trimmed_lowercase_iff`).
-/

namespace CaskAudit.Text

/-! ## Runs -/

/-- The values from a first to a last one in steps of a given width. -/
structure Steps where
  first : Nat
  last : Nat
  width : Nat

namespace Steps

/-- A value is one of the steps. -/
def Has (p : Steps) (n : Nat) : Prop := p.first ≤ n ∧ n ≤ p.last ∧ (n - p.first) % p.width = 0

instance (p : Steps) (n : Nat) : Decidable (p.Has n) := inferInstanceAs (Decidable (_ ∧ _))

/-- The bounds of two runs, or the parities of their values, show that they have none in common. -/
def apart (p q : Steps) : Bool :=
  Nat.blt p.last q.first || Nat.blt q.last p.first ||
    (q.width == 2 && (p.width == 2 || p.first == p.last) && (p.first + q.first) % 2 == 1)

/-- No value is in two runs that are apart. -/
lemma not_has_of_apart {p q : Steps} (h : p.apart q = true) {n : Nat} (hp : p.Has n) :
    ¬q.Has n := by
  rintro ⟨hq₁, hq₂, hq₃⟩
  obtain ⟨hp₁, hp₂, hp₃⟩ := hp
  simp only [apart, Bool.or_eq_true, Bool.and_eq_true, Nat.blt_eq, beq_iff_eq] at h
  rcases h with (h | h) | ⟨⟨hq, hp⟩, hparity⟩
  · omega
  · omega
  · rw [hq] at hq₃
    rcases hp with hp | hp
    · rw [hp] at hp₃
      omega
    · omega

end Steps

/-- The capitals of a run. -/
def capitals (r : Nat × Nat × Nat × Int) : Steps := ⟨r.1, r.2.1, r.2.2.1⟩

/-- The small letters of a run. -/
def smallLetters (r : Nat × Nat × Nat × Int) : Steps :=
  ⟨(r.1 + r.2.2.2).toNat, (r.2.1 + r.2.2.2).toNat, r.2.2.1⟩

/-- The blanks. -/
def blanks : List Steps :=
  [⟨0x9, 0xD, 1⟩, ⟨0x20, 0x20, 1⟩, ⟨0x85, 0x85, 1⟩, ⟨0xA0, 0xA0, 1⟩, ⟨0x1680, 0x1680, 1⟩,
    ⟨0x2000, 0x200A, 1⟩, ⟨0x2028, 0x2029, 1⟩, ⟨0x202F, 0x202F, 1⟩, ⟨0x205F, 0x205F, 1⟩,
    ⟨0x3000, 0x3000, 1⟩]

/-- A value is looked up in the first run that has it. -/
lemma lowercaseIn_cases (n : Nat) (runs : List (Nat × Nat × Nat × Int)) :
    lowercaseIn n runs = n ∧ (∀ r ∈ runs, ¬(capitals r).Has n) ∨
      ∃ r ∈ runs, (capitals r).Has n ∧ lowercaseIn n runs = (n + r.2.2.2).toNat := by
  induction runs with
  | nil => exact .inl ⟨rfl, List.forall_mem_nil _⟩
  | cons r runs ih =>
    obtain ⟨lo, hi, stride, offset⟩ := r
    rw [lowercaseIn]
    split
    · next h => exact .inr ⟨_, List.mem_cons_self, h, rfl⟩
    · next h =>
      rcases ih with ⟨heq, hnone⟩ | ⟨r, hr, hn, heq⟩
      · refine .inl ⟨heq, ?_⟩
        rintro r (_ | ⟨_, hr⟩)
        · exact h
        · exact hnone r hr
      · exact .inr ⟨r, List.mem_cons_of_mem _ hr, hn, heq⟩

/-- The small letter of a capital is one of the small letters of its run. -/
lemma has_smallLetters {r : Nat × Nat × Nat × Int} {n : Nat} (h : (capitals r).Has n)
    (hr : 0 ≤ r.1 + r.2.2.2) : (smallLetters r).Has (n + r.2.2.2).toNat := by
  obtain ⟨lo, hi, stride, offset⟩ := r
  obtain ⟨h₁, h₂, h₃⟩ := h
  have hdiff : (n + offset).toNat - (lo + offset).toNat = n - lo := by
    simp only at hr
    simp only [capitals] at h₁ h₂
    omega
  simp only [capitals] at h₁ h₂ h₃
  simp only at hr
  refine ⟨?_, ?_, ?_⟩ <;> simp only [smallLetters]
  · omega
  · omega
  · rw [hdiff, h₃]

/-- The small letters of a run are apart from all capitals. -/
lemma smallLetters_apart : (lowercaseRuns.all fun r =>
    lowercaseRuns.all fun q => (smallLetters r).apart (capitals q)) = true := by
  decide +kernel

/-- The small letters of a run are apart from the dotted capital I and, with the capitals, from the
blanks; those in ASCII are from a to z. -/
lemma runs_bounds : ∀ r ∈ lowercaseRuns, 0 ≤ r.1 + r.2.2.2 ∧
    (128 ≤ (smallLetters r).first ∨ 97 ≤ (smallLetters r).first ∧ (smallLetters r).last ≤ 122) ∧
    (smallLetters r).apart ⟨0x130, 0x130, 1⟩ = true ∧
    ∀ b ∈ blanks, (smallLetters r).apart b = true ∧ (capitals r).apart b = true := by
  decide +kernel

/-- A character is a blank exactly if its value is one of the blanks. -/
lemma isBlank_iff (c : Char) : isBlank c = true ↔ ∃ b ∈ blanks, b.Has c.toNat := by
  simp only [isBlank, blanks, Steps.Has, List.mem_cons, List.not_mem_nil, or_false,
    exists_eq_or_imp, exists_eq_left, Nat.mod_one, and_true, Bool.or_eq_true, Bool.and_eq_true,
    decide_eq_true_eq, beq_iff_eq]
  omega

/-! ## Characters -/

/-- A character is in lower case wherever it stands. -/
def IsSmall (c : Char) : Prop := c ≠ 'Σ' ∧ lowercaseChar c = [c]

instance (c : Char) : Decidable (IsSmall c) := inferInstanceAs (Decidable (_ ∧ _))

/-- A character may stand for another in its lower case: it is in lower case, and it is a blank
if the other is one, and only then. -/
def Lowers (c d : Char) : Prop := IsSmall d ∧ isBlank d = isBlank c

instance (c d : Char) : Decidable (Lowers c d) := inferInstanceAs (Decidable (_ ∧ _))

/-- What holds of all small values holds of the characters with such values. -/
lemma of_toNat_lt {p : Char → Prop} {n : Nat} (h : ∀ k < n, p (Char.ofNat k)) {c : Char}
    (hc : c.toNat < n) : p c := by
  have hp := h c.toNat hc
  rwa [Char.ofNat_toNat] at hp

/-- ASCII characters have their lower case in ASCII. -/
lemma lowers_toLower {c : Char} (hc : c.toNat < 128) : Lowers c c.toLower :=
  of_toNat_lt (p := fun c => Lowers c c.toLower) (by decide +kernel) hc

/-- A value that is apart from the blanks is that of no blank. -/
lemma isBlank_eq_false {p : Steps} (hp : ∀ b ∈ blanks, p.apart b = true) {c : Char}
    (h : p.Has c.toNat) : isBlank c = false := by
  refine Bool.eq_false_iff.2 fun hblank => ?_
  obtain ⟨b, hb, hhas⟩ := (isBlank_iff c).1 hblank
  exact Steps.not_has_of_apart (hp b hb) h hhas

/-- A character outside ASCII that is no capital is in lower case. -/
lemma isSmall_of_not_has {d : Char} (hd : ¬d.toNat < 128) (hdotted : d ≠ 'İ')
    (h : ∀ q ∈ lowercaseRuns, ¬(capitals q).Has d.toNat) : IsSmall d := by
  refine ⟨?_, ?_⟩
  · rintro rfl
    exact h (0x3A3, 0x3AB, 1, 32) (by decide +kernel) (by decide)
  · rw [lowercaseChar, if_neg hd, if_neg hdotted]
    rcases lowercaseIn_cases d.toNat lowercaseRuns with ⟨heq, -⟩ | ⟨q, hq, hhas, -⟩
    · rw [heq, Char.ofNat_toNat]
    · exact absurd hhas (h q hq)

/-- A small letter of a run is in lower case. -/
lemma isSmall_of_has {r : Nat × Nat × Nat × Int} (hr : r ∈ lowercaseRuns) {d : Char}
    (h : (smallLetters r).Has d.toNat) : IsSmall d := by
  obtain ⟨-, hascii, hdotted, -⟩ := runs_bounds r hr
  by_cases hd : d.toNat < 128
  · have hletters : ∀ k < 128, 97 ≤ k → k ≤ 122 → IsSmall (Char.ofNat k) := by decide +kernel
    have hbounds : 97 ≤ d.toNat ∧ d.toNat ≤ 122 := by
      obtain ⟨hfirst, hlast, -⟩ := h
      omega
    have hletter := hletters d.toNat hd hbounds.1 hbounds.2
    rwa [Char.ofNat_toNat] at hletter
  · refine isSmall_of_not_has hd ?_ fun q hq => ?_
    · rintro rfl
      exact Steps.not_has_of_apart hdotted h (by decide)
    · have hapart := List.all_eq_true.1 (List.all_eq_true.1 smallLetters_apart r hr) q hq
      exact Steps.not_has_of_apart hapart h

/-- The letters that the rules for single capitals give are in lower case. -/
lemma isSmall_special : IsSmall 'σ' ∧ IsSmall 'ς' ∧ IsSmall '\u0307' := by
  have hnone : ∀ n ∈ [0x3C3, 0x3C2, 0x307],
      (lowercaseRuns.all fun q => !decide ((capitals q).Has n)) = true := by
    decide +kernel
  have hsmall : ∀ d : Char, d.toNat ∈ [0x3C3, 0x3C2, 0x307] → ¬d.toNat < 128 → d ≠ 'İ' →
      IsSmall d := by
    intro d hd hascii hdotted
    refine isSmall_of_not_has hascii hdotted fun q hq => ?_
    simpa using List.all_eq_true.1 (hnone d.toNat hd) q hq
  exact ⟨hsmall _ (by decide) (by decide) (by decide), hsmall _ (by decide) (by decide) (by decide),
    hsmall _ (by decide) (by decide) (by decide)⟩

/-- A character that is made of a value has the value, or is the null character. -/
lemma toNat_ofNat_eq_or (n : Nat) : (Char.ofNat n).toNat = n ∨ Char.ofNat n = '\x00' := by
  by_cases h : n.isValidChar
  · have hchar : Char.ofNat n = Char.ofNatAux n h := dif_pos h
    rw [hchar]
    exact .inl UInt32.toNat_ofNatLT
  · exact .inr (dif_neg h)

/-- The small letter of a capital from a run stands for the capital. -/
lemma lowers_of_has {r : Nat × Nat × Nat × Int} (hr : r ∈ lowercaseRuns) {c : Char}
    (h : (capitals r).Has c.toNat) : Lowers c (Char.ofNat (c.toNat + r.2.2.2).toNat) := by
  obtain ⟨hnonneg, -, -, hblanks⟩ := runs_bounds r hr
  have hc : isBlank c = false := isBlank_eq_false (fun b hb => (hblanks b hb).2) h
  have hsmall := has_smallLetters h hnonneg
  rw [Lowers, hc]
  rcases toNat_ofNat_eq_or (c.toNat + r.2.2.2).toNat with hvalue | hnull
  · rw [← hvalue] at hsmall
    exact ⟨isSmall_of_has hr hsmall, isBlank_eq_false (fun b hb => (hblanks b hb).1) hsmall⟩
  · rw [hnull]
    decide

/-- The lower case of a character, away from the sigma rule, stands for the character. -/
lemma lowers_lowercaseChar {c : Char} (hc : c ≠ 'Σ') :
    lowercaseChar c ≠ [] ∧ ∀ d ∈ lowercaseChar c, Lowers c d := by
  unfold lowercaseChar
  split
  · next h => simpa using lowers_toLower h
  · next h =>
    split
    · next hdotted =>
      subst hdotted
      have hi : IsSmall 'i' := by decide
      refine ⟨List.cons_ne_nil _ _, ?_⟩
      rw [List.forall_mem_cons, List.forall_mem_singleton]
      exact ⟨⟨hi, by decide⟩, isSmall_special.2.2, by decide⟩
    · next hdotted =>
      refine ⟨List.cons_ne_nil _ _, ?_⟩
      rintro d (_ | ⟨_, hd⟩)
      · rcases lowercaseIn_cases c.toNat lowercaseRuns with ⟨heq, hnone⟩ | ⟨r, hr, hhas, heq⟩
        · rw [heq, Char.ofNat_toNat]
          refine ⟨⟨hc, ?_⟩, rfl⟩
          rw [lowercaseChar, if_neg h, if_neg hdotted, heq, Char.ofNat_toNat]
        · rw [heq]
          exact lowers_of_has hr hhas
      · cases hd

/-! ## Texts -/

variable {s before : List Char}

/-- Casing gives for the first character of a text, wherever it stands, what stands for it. -/
lemma exists_lowercaseFrom_cons (before : List Char) (c : Char) (s : List Char) :
    ∃ here, lowercaseFrom before (c :: s) = here ++ lowercaseFrom (c :: before) s ∧ here ≠ [] ∧
      ∀ d ∈ here, Lowers c d := by
  rw [lowercaseFrom]
  refine ⟨_, rfl, ?_⟩
  split
  · next hc =>
    subst hc
    split
    · exact ⟨List.cons_ne_nil _ _, List.forall_mem_singleton.2 ⟨isSmall_special.2.1, by decide⟩⟩
    · exact ⟨List.cons_ne_nil _ _, List.forall_mem_singleton.2 ⟨isSmall_special.1, by decide⟩⟩
  · next hc => exact lowers_lowercaseChar hc

/-- Every character that casing gives is in lower case. -/
lemma isSmall_of_mem_lowercaseFrom {d : Char} (h : d ∈ lowercaseFrom before s) : IsSmall d := by
  induction s generalizing before with
  | nil => cases h
  | cons c s ih =>
    obtain ⟨here, heq, -, hhere⟩ := exists_lowercaseFrom_cons before c s
    rw [heq] at h
    rcases List.mem_append.1 h with h | h
    · exact (hhere d h).1
    · exact ih h

/-- Casing leaves a text that is in lower case as it is. -/
lemma lowercaseFrom_of_isSmall (h : ∀ c ∈ s, IsSmall c) : lowercaseFrom before s = s := by
  induction s generalizing before with
  | nil => rfl
  | cons c s ih =>
    obtain ⟨hc, heq⟩ := h c List.mem_cons_self
    rw [lowercaseFrom, if_neg hc, heq, ih fun d hd => h d (List.mem_cons_of_mem _ hd)]
    rfl

/-- Casing a text again changes nothing. -/
theorem lowercase_lowercase (s : List Char) : lowercase (lowercase s) = lowercase s :=
  lowercaseFrom_of_isSmall fun _ hc => isSmall_of_mem_lowercaseFrom hc

/-- Casing keeps a blank at the beginning of a text and makes none. -/
lemma head?_lowercaseFrom (before s : List Char) :
    (lowercaseFrom before s).head?.map isBlank = s.head?.map isBlank := by
  cases s with
  | nil => rfl
  | cons c s =>
    obtain ⟨here, heq, hne, hhere⟩ := exists_lowercaseFrom_cons before c s
    obtain ⟨d, here, rfl⟩ := List.exists_cons_of_ne_nil hne
    rw [heq]
    exact congrArg some (hhere d List.mem_cons_self).2

/-- Casing keeps a blank at the end of a text and makes none. -/
lemma getLast?_lowercaseFrom (before s : List Char) :
    (lowercaseFrom before s).getLast?.map isBlank = s.getLast?.map isBlank := by
  induction s generalizing before with
  | nil => rfl
  | cons c s ih =>
    obtain ⟨here, heq, hne, hhere⟩ := exists_lowercaseFrom_cons before c s
    have hlast : here.getLast?.map isBlank = [c].getLast?.map isBlank := by
      rw [List.getLast?_eq_some_getLast hne]
      exact congrArg some (hhere _ (List.getLast_mem hne)).2
    calc (lowercaseFrom before (c :: s)).getLast?.map isBlank
        = ((lowercaseFrom (c :: before) s).getLast?.map isBlank).or
            (here.getLast?.map isBlank) := by
          rw [heq, List.getLast?_append, Option.map_or]
      _ = (s.getLast?.map isBlank).or ([c].getLast?.map isBlank) := by rw [ih, hlast]
      _ = (c :: s).getLast?.map isBlank := by
          rw [← Option.map_or, ← List.getLast?_append, List.singleton_append]

/-- No blank is at the end of an option exactly if no blank is what it holds. -/
lemma forall_mem_iff_map {o : Option Char} :
    (∀ c ∈ o, isBlank c = false) ↔ o.map isBlank ≠ some true := by
  cases o <;> simp

/-- A text has no blank at its ends exactly if its lower case has none. -/
theorem trimmed_lowercase_iff (s : List Char) : Trimmed (lowercase s) ↔ Trimmed s := by
  have hends : ∀ t : List Char,
      Trimmed t ↔ t.head?.map isBlank ≠ some true ∧ t.getLast?.map isBlank ≠ some true := by
    intro t
    rw [← forall_mem_iff_map, ← forall_mem_iff_map]
    exact ⟨fun h => ⟨h.first, h.last⟩, fun h => ⟨h.1, h.2⟩⟩
  rw [hends, hends, lowercase, head?_lowercaseFrom, getLast?_lowercaseFrom]

end CaskAudit.Text
