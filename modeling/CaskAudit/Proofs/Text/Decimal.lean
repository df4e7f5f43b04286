import CaskAudit.Proofs.Text.Trimming
import CaskAudit.Text.Decimal

/-!
# Numbers in texts

A text writes a number with digits, after at most one plus sign, and perhaps with blanks on both
sides (`Writes`). These are the texts that are read as numbers once they have been trimmed
(`readBelow?_trim_eq_some_iff`), as long as the number is below the bound.
-/

namespace CaskAudit

open Text

/-- One digit or more. -/
structure IsDigits (d : List Char) : Prop where
  ne_nil : d ≠ []
  digit : ∀ c ∈ d, isAsciiDigit c = true

namespace Text

variable {s sign digits : List Char} {bound n : Nat}

/-- At most one plus sign. -/
def IsSign (s : List Char) : Prop := s = [] ∨ s = ['+']

/-- A text writes a number, perhaps with blanks around it. -/
inductive Writes : List Char → Nat → Prop
  | intro {before sign digits after : List Char} (hb : AllBlank before) (hs : IsSign sign)
      (hd : IsDigits digits) (ha : AllBlank after) :
      Writes (before ++ (sign ++ digits ++ after)) (ofDigits digits)

/-- A digit is no blank. -/
lemma isBlank_of_isAsciiDigit {c : Char} (h : isAsciiDigit c = true) : isBlank c = false := by
  simp only [isAsciiDigit, Bool.and_eq_true, decide_eq_true_eq, Char.le_def, UInt32.le_iff_toNat_le]
    at h
  have hlow : 0x30 ≤ c.toNat := h.1
  have hhigh : c.toNat ≤ 0x39 := h.2
  simp only [isBlank, Bool.or_eq_false_iff, Bool.and_eq_false_iff, decide_eq_false_iff_not,
    beq_eq_false_iff_ne]
  omega

/-- There are no blanks in a number. -/
lemma trim_sign_digits (hs : IsSign sign) (hd : IsDigits digits) :
    trim (sign ++ digits) = sign ++ digits := by
  apply trim_of_forall
  intro c hc
  rcases List.mem_append.1 hc with hc | hc
  · rcases hs with rfl | rfl
    · cases hc
    · rw [List.mem_singleton.1 hc]
      decide
  · exact isBlank_of_isAsciiDigit (hd.digit c hc)

/-- A plus sign is dropped from the text that it begins. -/
lemma exists_sign (s : List Char) : ∃ sign, IsSign sign ∧ s = sign ++ dropPlus s := by
  unfold dropPlus
  split
  · exact ⟨['+'], .inr rfl, rfl⟩
  · exact ⟨[], .inl rfl, rfl⟩

/-- The sign of a number is dropped. -/
lemma dropPlus_sign_digits (hs : IsSign sign) (hd : IsDigits digits) :
    dropPlus (sign ++ digits) = digits := by
  rcases hs with rfl | rfl
  · rw [List.nil_append]
    unfold dropPlus
    split
    · exact absurd (hd.digit _ List.mem_cons_self) (by decide)
    · rfl
  · rfl

/-- A text is read as a number below a bound exactly if it consists of digits that write one, with
at most one plus sign before them. -/
lemma readBelow?_eq_some_iff :
    readBelow? bound s = some n ↔
      ∃ sign digits, IsSign sign ∧ IsDigits digits ∧ s = sign ++ digits ∧ ofDigits digits = n ∧
        n < bound := by
  constructor
  · intro h
    obtain ⟨sign, hs, heq⟩ := exists_sign s
    have hbound := lt_of_readBelow? h
    unfold readBelow? at h
    simp only [Bool.or_eq_true, List.isEmpty_iff, Bool.not_eq_true', ← Bool.not_eq_true] at h
    split at h
    · cases h
    · next hdigits =>
      rw [not_or, not_not, List.all_eq_true] at hdigits
      split at h
      · exact ⟨sign, dropPlus s, hs, ⟨hdigits.1, hdigits.2⟩, heq, Option.some.inj h, hbound⟩
      · cases h
  · rintro ⟨sign, digits, hs, hd, rfl, rfl, hn⟩
    have hall : digits.all isAsciiDigit = true := List.all_eq_true.2 hd.digit
    have hempty : digits.isEmpty = false := by
      rw [← Bool.not_eq_true, List.isEmpty_iff]
      exact hd.ne_nil
    unfold readBelow?
    simp only [dropPlus_sign_digits hs hd, hall, hempty, Bool.not_true, Bool.or_false, if_pos hn]
    rfl

/-- A trimmed text is read as a number below a bound exactly if the text writes one. -/
lemma readBelow?_trim_eq_some_iff :
    readBelow? bound (trim s) = some n ↔ Writes s n ∧ n < bound := by
  rw [readBelow?_eq_some_iff]
  constructor
  · rintro ⟨sign, digits, hs, hd, htrim, rfl, hn⟩
    obtain ⟨before, after, hb, ha, heq⟩ := exists_trim s
    rw [htrim] at heq
    rw [heq]
    exact ⟨.intro hb hs hd ha, hn⟩
  · rintro ⟨⟨hb, hs, hd, ha⟩, hn⟩
    refine ⟨_, _, hs, hd, ?_, rfl, hn⟩
    rw [trim_append hb ha, trim_sign_digits hs hd]

end Text

end CaskAudit
