import CaskAudit.Json.Cask
import CaskAudit.Proofs.Results
import CaskAudit.Proofs.Text.Cutting
import CaskAudit.Proofs.Text.Trimming

/-!
# Versions that are read again

The JSON form of a version is read by its text, so a version is read back from it, or from its text
alone, exactly if reading its text gives the version again. Reading takes away the blanks around a
text and then one colon. What is left ends with no blank, so it is changed by a second reading only
at its start, where the first one left a colon or a blank behind a colon (`ofText_raw_iff`). A text
from which nothing is taken is settled, and every other one gets shorter (`ofText_raw_cases`).
-/

namespace CaskAudit.Version

open Text

variable {text : String} {v : Version}

/-- The text of a version begins with neither a colon nor a blank. -/
def Settled (v : Version) : Prop := ∀ c ∈ v.raw.toList.head?, c ≠ ':' ∧ isBlank c = false

/-! ## One reading -/

/-- The version that a text writes is the text without the blanks around it and one colon before
it, unless nothing is left. -/
lemma ofText_eq_ok_iff :
    ofText text = .ok v ↔ v.raw.toList = dropOne ':' (trim text.toList) ∧ v.raw.toList ≠ [] := by
  obtain ⟨raw⟩ := v
  rw [ofText]
  simp only [List.isEmpty_iff]
  split
  · next hempty =>
    refine ⟨nofun, ?_⟩
    rintro ⟨hraw, hne⟩
    exact absurd (hraw.trans hempty) hne
  · next hne =>
    rw [Except.ok.injEq, Version.mk.injEq]
    constructor
    · rintro rfl
      rw [String.toList_ofList]
      exact ⟨rfl, hne⟩
    · rintro ⟨hraw, -⟩
      rw [← hraw, String.ofList_toList]

/-- A text that writes no version has nothing left. -/
lemma eq_empty_of_ofText {e : VersionError} (h : ofText text = .error e) : e = .empty := by
  unfold ofText at h
  simp only at h
  split at h
  · exact (Except.error.inj h).symm
  · cases h

/-! ## Reading again -/

/-- The JSON form of a version is read by its text. -/
lemma ofJson?_toJson (v : Version) : ofJson? v.toJson = (ofText v.raw).toOption := rfl

/-- A version is read from a JSON string as from a text. -/
lemma ofJson?_string (t : String) : ofJson? (.string t) = (ofText t).toOption := rfl

/-- The text of a version that was read does not end with a blank. -/
lemma isBlank_getLast?_raw (h : ofText text = .ok v) {c : Char} (hc : c ∈ v.raw.toList.getLast?) :
    isBlank c = false := by
  obtain ⟨hraw, -⟩ := ofText_eq_ok_iff.1 h
  rw [hraw] at hc
  exact isBlank_getLast?_of_suffix (dropOne_suffix ':' _) (trimmed_trim text.toList).last hc

/-- What is read of the text of a version is an end of it. -/
lemma dropOne_trim_raw_suffix (h : ofText text = .ok v) :
    dropOne ':' (trim v.raw.toList) <:+ v.raw.toList :=
  (dropOne_suffix ':' _).trans (trim_suffix fun _ hc => isBlank_getLast?_raw h hc)

/-- A version that was read is read again from its text exactly if it is settled. -/
lemma ofText_raw_iff (h : ofText text = .ok v) : ofText v.raw = .ok v ↔ Settled v := by
  obtain ⟨-, hne⟩ := ofText_eq_ok_iff.1 h
  have hlast : ∀ c ∈ v.raw.toList.getLast?, isBlank c = false :=
    fun _ hc => isBlank_getLast?_raw h hc
  rw [ofText_eq_ok_iff]
  constructor
  · rintro ⟨hraw, -⟩ c hc
    -- The text is as long as what is read of it, so neither a blank nor a colon was taken away.
    have htrim : trim v.raw.toList = v.raw.toList := by
      refine (trim_suffix hlast).eq_of_length_le ?_
      have hlength := (dropOne_suffix ':' (trim v.raw.toList)).length_le
      rwa [← hraw] at hlength
    refine ⟨?_, (htrim ▸ trimmed_trim v.raw.toList).first c hc⟩
    rintro rfl
    obtain ⟨rest, hrest⟩ := List.head?_eq_some_iff.1 hc
    rw [htrim, hrest, dropOne, if_pos rfl] at hraw
    exact List.cons_ne_self _ _ hraw
  · intro hsettled
    have htrim := trim_of_trimmed ⟨fun c hc => (hsettled c hc).2, hlast⟩
    rw [htrim, dropOne_of_head? fun c hc => (hsettled c hc).1]
    exact ⟨rfl, hne⟩

/-- The version that a text writes is settled unless the text begins, after blanks, with a colon and
then another one or a blank. -/
lemma settled_iff (h : ofText text = .ok v) : Settled v ↔
    ¬∃ c rest, trim text.toList = ':' :: c :: rest ∧ (c = ':' ∨ isBlank c = true) := by
  obtain ⟨hraw, hne⟩ := ofText_eq_ok_iff.1 h
  have htrim := trimmed_trim text.toList
  cases htext : trim text.toList with
  | nil =>
    rw [htext] at hraw
    exact absurd hraw hne
  | cons d rest =>
    rw [htext, dropOne] at hraw
    rw [htext] at htrim
    rw [Settled, hraw]
    by_cases hd : d = ':'
    · rw [if_pos hd]
      constructor
      · rintro hsettled ⟨c, after, heq, hc⟩
        obtain ⟨-, rfl⟩ := List.cons.inj heq
        obtain ⟨hcolon, hblank⟩ := hsettled c rfl
        rcases hc with hc | hc
        · exact hcolon hc
        · rw [hblank] at hc
          cases hc
      · intro hnone c hc
        obtain ⟨after, rfl⟩ := List.head?_eq_some_iff.1 hc
        refine ⟨fun hcolon => hnone ⟨c, after, by rw [hd], .inl hcolon⟩, ?_⟩
        exact Bool.eq_false_iff.2 fun hblank => hnone ⟨c, after, by rw [hd], .inr hblank⟩
    · rw [if_neg hd]
      constructor
      · rintro - ⟨c, after, heq, -⟩
        exact hd (List.cons.inj heq).1
      · intro _ c hc
        obtain rfl : d = c := Option.some.inj hc
        exact ⟨hd, htrim.first d rfl⟩

/-- Reading the text of a version again gives the version, or refuses it as empty, or gives a
version with a shorter end of the text. -/
lemma ofText_raw_cases (h : ofText text = .ok v) :
    ofText v.raw = .ok v ∨ ofText v.raw = .error .empty ∨
      ∃ w, ofText v.raw = .ok w ∧ w.raw.toList <:+ v.raw.toList ∧
        w.raw.toList.length < v.raw.toList.length := by
  have hsuffix := dropOne_trim_raw_suffix h
  cases hread : ofText v.raw with
  | error e =>
    rw [eq_empty_of_ofText hread]
    exact .inr (.inl rfl)
  | ok w =>
    obtain ⟨hraw, -⟩ := ofText_eq_ok_iff.1 hread
    rw [← hraw] at hsuffix
    by_cases hlength : v.raw.toList.length ≤ w.raw.toList.length
    · have hsame : w.raw = v.raw := String.toList_inj.1 (hsuffix.eq_of_length_le hlength)
      obtain ⟨raw⟩ := v
      obtain ⟨raw'⟩ := w
      obtain rfl : raw' = raw := hsame
      exact .inl rfl
    · exact .inr (.inr ⟨w, rfl, hsuffix, Nat.lt_of_not_le hlength⟩)

/-- A version is read from its JSON form and from its text alone as from any text, and in both ways
it is read back exactly if its text begins with neither a colon nor a blank; that is, unless the
text from which it was read begins, after blanks, with a colon and then with another one or with a
blank. Otherwise what is read is a shorter end of its text, or refused because nothing is left. -/
theorem reread_iff_settled (text : String) (v : Version) (h : ofText text = .ok v) :
    ofJson? v.toJson = (ofText v.raw).toOption ∧
    ofJson? (.string v.raw) = (ofText v.raw).toOption ∧
    (ofText v.raw = .ok v ↔ Settled v) ∧
    (ofJson? v.toJson = some v ↔ Settled v) ∧
    (ofJson? (.string v.raw) = some v ↔ Settled v) ∧
    (Settled v ↔
      ¬∃ c rest, trim text.toList = ':' :: c :: rest ∧ (c = ':' ∨ isBlank c = true)) ∧
    (ofText v.raw = .ok v ∨ ofText v.raw = .error .empty ∨
      ∃ w, ofText v.raw = .ok w ∧ w.raw.toList <:+ v.raw.toList ∧
        w.raw.toList.length < v.raw.toList.length) := by
  have hread : (ofText v.raw).toOption = some v ↔ Settled v := by
    rw [toOption_eq_some_iff, ofText_raw_iff h]
  refine ⟨ofJson?_toJson v, ofJson?_string v.raw, ofText_raw_iff h, ?_, ?_, settled_iff h,
    ofText_raw_cases h⟩
  · rwa [ofJson?_toJson]
  · rwa [ofJson?_string]

/-- A version with a colon and blanks in it, written with a colon before it, is read back. -/
theorem reread_iff_settled_compound :
    ofText " :1.2.3, 1000:400 " = .ok ⟨"1.2.3, 1000:400"⟩ ∧
      Settled ⟨"1.2.3, 1000:400"⟩ ∧
      ofJson? (toJson ⟨"1.2.3, 1000:400"⟩) = some ⟨"1.2.3, 1000:400"⟩ ∧
      ofJson? (.string "1.2.3, 1000:400") = some ⟨"1.2.3, 1000:400"⟩ := by
  have h : ofText " :1.2.3, 1000:400 " = .ok ⟨"1.2.3, 1000:400"⟩ := by decide +kernel
  have hsettled : Settled ⟨"1.2.3, 1000:400"⟩ := by
    intro c hc
    obtain rfl : '1' = c := Option.some.inj hc
    decide
  obtain ⟨-, -, -, hstructured, hplain, -⟩ := reread_iff_settled _ _ h
  exact ⟨h, hsettled, hstructured.2 hsettled, hplain.2 hsettled⟩

/-- A version that was written with two colons before it is not read back: what is read from its
JSON form, and from its text, is the version without a colon. -/
theorem reread_two_colons :
    ofText "::1.0" = .ok ⟨":1.0"⟩ ∧ ofJson? (toJson ⟨":1.0"⟩) = some ⟨"1.0"⟩ ∧
      ofJson? (.string ":1.0") = some ⟨"1.0"⟩ ∧ (⟨"1.0"⟩ : Version) ≠ ⟨":1.0"⟩ := by
  decide +kernel

end CaskAudit.Version
