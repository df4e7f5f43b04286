import CaskAudit.Text.Blank
import Mathlib.Data.List.TakeWhile

/-!
# Trimming

A text is its trimmed form with blanks on both sides (`exists_trim`), and blanks put on both sides
of a text are trimmed away with its own (`trim_append`). The trimmed form has no blank at either end
(`trimmed_trim`), and trimming changes nothing else (`trim_of_trimmed`).
-/

namespace CaskAudit.Text

variable {s b a : List Char}

/-- Every character is a blank. -/
def AllBlank (s : List Char) : Prop := ∀ c ∈ s, isBlank c = true

instance : DecidablePred AllBlank := fun s =>
  decidable_of_iff (s.all isBlank = true) List.all_eq_true

/-- In the empty text nothing else stands than blanks. -/
lemma allBlank_nil : AllBlank [] := List.forall_mem_nil _

/-- Neither the first nor the last character is a blank. -/
structure Trimmed (s : List Char) : Prop where
  first : ∀ c ∈ s.head?, isBlank c = false
  last : ∀ c ∈ s.getLast?, isBlank c = false

/-- No blank is dropped from a text that begins with none. -/
lemma dropWhile_isBlank (h : ∀ c ∈ s.head?, isBlank c = false) : s.dropWhile isBlank = s := by
  cases s with
  | nil => rfl
  | cons c s => rw [List.dropWhile_cons_of_neg (by simp [h c rfl])]

/-- What is left of a text without the characters at its start that pass a test begins with one
that fails it. -/
lemma eq_false_of_mem_head?_dropWhile {p : Char → Bool} {c : Char}
    (h : c ∈ (s.dropWhile p).head?) : p c = false := by
  have hhead := List.head?_dropWhile_not p s
  rwa [Option.mem_def.1 h] at hhead

/-- Trimming leaves a text with no blank at its ends as it is. -/
lemma trim_of_trimmed (h : Trimmed s) : trim s = s := by
  have hlast : ∀ c ∈ s.reverse.head?, isBlank c = false := by simpa using h.last
  have hstart : trimStart s = s := dropWhile_isBlank h.first
  rw [trim, hstart, trimEnd, dropWhile_isBlank hlast, List.reverse_reverse]

/-- Trimming leaves a text without blanks as it is. -/
lemma trim_of_forall (h : ∀ c ∈ s, isBlank c = false) : trim s = s :=
  trim_of_trimmed
    ⟨fun c hc => h c (List.mem_of_mem_head? hc), fun c hc => h c (List.mem_of_mem_getLast? hc)⟩

/-- The end of a text that ends with no blank ends with none. -/
lemma isBlank_getLast?_of_suffix {t : List Char} (hs : s <:+ t) {c : Char}
    (ht : ∀ c ∈ t.getLast?, isBlank c = false) (hc : c ∈ s.getLast?) : isBlank c = false := by
  obtain ⟨before, rfl⟩ := hs
  refine ht c ?_
  rw [List.getLast?_append, Option.mem_def.1 hc]
  rfl

/-- Trimming leaves an end of a text that ends with no blank. -/
lemma trim_suffix (h : ∀ c ∈ s.getLast?, isBlank c = false) : trim s <:+ s := by
  have hstart : trimStart s <:+ s := List.dropWhile_suffix isBlank
  have hend : trimEnd (trimStart s) = trimStart s := by
    rw [trimEnd, dropWhile_isBlank, List.reverse_reverse]
    intro c hc
    rw [List.head?_reverse] at hc
    exact isBlank_getLast?_of_suffix hstart h hc
  rw [trim, hend]
  exact hstart

/-- A text is what is left of it after its leading blanks, with these. -/
lemma exists_trimStart (s : List Char) : ∃ b, AllBlank b ∧ s = b ++ trimStart s :=
  ⟨s.takeWhile isBlank, fun _ hc => List.mem_takeWhile_imp hc,
    List.takeWhile_append_dropWhile.symm⟩

/-- Leading blanks are trimmed away up to a character that is none. -/
lemma trimStart_append_cons {c : Char} (hb : AllBlank b) (hc : isBlank c = false) (s : List Char) :
    trimStart (b ++ c :: s) = c :: s := by
  rw [trimStart, List.dropWhile_append_of_pos hb, List.dropWhile_cons_of_neg (by simp [hc])]

/-- Trimming the start of a text goes no further than a character that is no blank. -/
lemma trimStart_append {c : Char} (hc : isBlank c = false) (s t : List Char) :
    trimStart (s ++ c :: t) = trimStart s ++ c :: t := by
  rw [trimStart, List.dropWhile_append, List.dropWhile_cons_of_neg (by simp [hc]), trimStart]
  split
  · next hs => rw [List.isEmpty_iff.1 hs, List.nil_append]
  · rfl

/-- Leading blanks are trimmed away. -/
lemma trim_append_left (hb : AllBlank b) (s : List Char) : trim (b ++ s) = trim s := by
  have hstart : trimStart (b ++ s) = trimStart s := List.dropWhile_append_of_pos hb
  rw [trim, hstart, trim]

/-- Trailing blanks are trimmed away from the end of a text. -/
lemma trimEnd_append (ha : AllBlank a) (s : List Char) : trimEnd (s ++ a) = trimEnd s := by
  have hrev : ∀ c ∈ a.reverse, isBlank c = true := fun c hc => ha c (List.mem_reverse.1 hc)
  rw [trimEnd, List.reverse_append, List.dropWhile_append_of_pos hrev, ← trimEnd]

/-- A text is its trimmed form with blanks on both sides. -/
lemma exists_trim (s : List Char) :
    ∃ b a, AllBlank b ∧ AllBlank a ∧ s = b ++ (trim s ++ a) := by
  refine ⟨s.takeWhile isBlank, ((trimStart s).reverse.takeWhile isBlank).reverse, ?_, ?_, ?_⟩
  · exact fun c hc => List.mem_takeWhile_imp hc
  · exact fun c hc => List.mem_takeWhile_imp (List.mem_reverse.1 hc)
  · have hend : trim s ++ ((trimStart s).reverse.takeWhile isBlank).reverse = trimStart s := by
      rw [trim, trimEnd, ← List.reverse_append, List.takeWhile_append_dropWhile,
        List.reverse_reverse]
    rw [hend, trimStart, List.takeWhile_append_dropWhile]

/-- What is left of a text without its trailing blanks is its beginning. -/
lemma trimEnd_prefix (s : List Char) : trimEnd s <+: s := by
  refine ⟨(s.reverse.takeWhile isBlank).reverse, ?_⟩
  rw [trimEnd, ← List.reverse_append, List.takeWhile_append_dropWhile, List.reverse_reverse]

/-- The trimmed form of a text has no blank at its ends. -/
lemma trimmed_trim (s : List Char) : Trimmed (trim s) where
  first := by
    intro c hc
    obtain ⟨after, hafter⟩ := trimEnd_prefix (trimStart s)
    refine eq_false_of_mem_head?_dropWhile (s := s) ?_
    rw [← trimStart, ← hafter, ← trim, List.head?_append, Option.mem_def.1 hc]
    rfl
  last := by
    intro c hc
    rw [trim, trimEnd, List.getLast?_reverse] at hc
    exact eq_false_of_mem_head?_dropWhile hc

/-- A text has no blanks at its ends exactly if trimming leaves it as it is. -/
lemma trimmed_iff : Trimmed s ↔ trim s = s := by
  constructor
  · exact trim_of_trimmed
  · intro h
    rw [← h]
    exact trimmed_trim s

/-- Blanks on both sides of a text are trimmed away with its own. -/
lemma trim_append (hb : AllBlank b) (ha : AllBlank a) (s : List Char) :
    trim (b ++ (s ++ a)) = trim s := by
  have hnil : a.dropWhile isBlank = [] := List.dropWhile_eq_nil_iff.2 ha
  rw [trim_append_left hb, trim, trimStart, List.dropWhile_append]
  split
  · next hs => rw [hnil, trim, trimStart, List.isEmpty_iff.1 hs]
  · rw [trimEnd_append ha, ← trimStart, ← trim]

/-- Blanks before a character that is none are told from what follows. -/
lemma AllBlank.append_cancel {b b' t t' : List Char} (hb : AllBlank b) (hb' : AllBlank b')
    (ht : ∀ c ∈ t.head?, isBlank c = false) (ht' : ∀ c ∈ t'.head?, isBlank c = false)
    (h : b ++ t = b' ++ t') : b = b' ∧ t = t' := by
  have hdrop := congrArg (List.dropWhile isBlank) h
  rw [List.dropWhile_append_of_pos hb, List.dropWhile_append_of_pos hb', dropWhile_isBlank ht,
    dropWhile_isBlank ht'] at hdrop
  subst hdrop
  exact ⟨List.append_cancel_right h, rfl⟩

end CaskAudit.Text
