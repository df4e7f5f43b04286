import CaskAudit.Text.Pieces
import Mathlib.Tactic.Lemma

/-!
# Where texts are cut

A text is cut at the first occurrence of a character (`splitFirst?_eq_some_iff`) or of a pattern
(`breakOn?_eq_some_iff`), and is left whole where there is none. A pattern whose first character
does not come again in it cannot overlap with what stands before an occurrence, so the occurrences
in a text that is put together can be told one by one.
-/

namespace CaskAudit.Text

variable {d : Char} {p s before after : List Char}

/-! ## Characters -/

/-- The text before the first occurrence of a character is cut off whatever it is. -/
lemma splitFirst?_append (h : d ∉ before) (after : List Char) :
    splitFirst? d (before ++ d :: after) = some (before, after) := by
  induction before with
  | nil => simp [splitFirst?]
  | cons c before ih =>
    obtain ⟨hc, hbefore⟩ : d ≠ c ∧ d ∉ before := by simpa using h
    rw [List.cons_append, splitFirst?, if_neg (Ne.symm hc), ih hbefore]
    rfl

/-- A text is cut at the first occurrence of a character. -/
lemma splitFirst?_eq_some_iff :
    splitFirst? d s = some (before, after) ↔ s = before ++ d :: after ∧ d ∉ before := by
  constructor
  · exact fun h => ⟨eq_append_of_splitFirst? h, notMem_of_splitFirst? h⟩
  · rintro ⟨rfl, h⟩
    exact splitFirst?_append h after

/-- Several parts joined with a character are the first one, the character and the others. -/
lemma joinWith_cons {parts : List (List Char)} (t : List Char) (hne : parts ≠ []) :
    joinWith [d] (t :: parts) = t ++ d :: joinWith [d] parts := by
  rw [joinWith, List.append_assoc, List.singleton_append]
  exact hne

/-- Parts without a character are what a text splits into that joins them with the character. -/
lemma splitOn_joinWith {parts : List (List Char)} (hne : parts ≠ []) (h : ∀ t ∈ parts, d ∉ t) :
    splitOn d (joinWith [d] parts) = parts := by
  induction parts with
  | nil => exact absurd rfl hne
  | cons t parts ih =>
    have ht := splitOn_of_notMem (h t List.mem_cons_self)
    cases parts with
    | nil => exact ht
    | cons u parts =>
      have hrest := ih (List.cons_ne_nil _ _) fun v hv => h v (List.mem_cons_of_mem _ hv)
      rw [joinWith_cons t (List.cons_ne_nil _ _), splitOn_append, ht, hrest]
      rfl

/-- A character of joined parts is one of a part or of what is written between them. -/
lemma mem_joinWith {sep : List Char} {parts : List (List Char)} {c : Char}
    (h : c ∈ joinWith sep parts) : c ∈ sep ∨ ∃ t ∈ parts, c ∈ t := by
  induction parts with
  | nil => cases h
  | cons t parts ih =>
    cases parts with
    | nil => exact .inr ⟨t, List.mem_cons_self, h⟩
    | cons u parts =>
      rw [joinWith, List.append_assoc, List.mem_append, List.mem_append] at h
      · rcases h with h | h | h
        · exact .inr ⟨t, List.mem_cons_self, h⟩
        · exact .inl h
        · rcases ih h with h | ⟨v, hv, hc⟩
          · exact .inl h
          · exact .inr ⟨v, List.mem_cons_of_mem _ hv, hc⟩
      · exact List.cons_ne_nil _ _

/-- A text without one leading character is its end. -/
lemma dropOne_suffix (d : Char) (s : List Char) : dropOne d s <:+ s := by
  cases s with
  | nil => exact List.suffix_refl _
  | cons c s =>
    rw [dropOne]
    split
    · exact List.suffix_cons c s
    · exact List.suffix_refl _

/-- A text that does not begin with a character has none to lose. -/
lemma dropOne_of_head? (h : ∀ c ∈ s.head?, c ≠ d) : dropOne d s = s := by
  cases s with
  | nil => rfl
  | cons c s => rw [dropOne, if_neg (h c rfl)]

/-! ## Patterns -/

/-- Nothing follows a pattern with which a text does not begin. -/
lemma dropLeading?_eq_none_iff : dropLeading? p s = none ↔ ¬p <+: s := by
  rw [Option.eq_none_iff_forall_ne_some]
  constructor
  · rintro h ⟨rest, hrest⟩
    exact h rest (dropLeading?_eq_some_iff.2 hrest.symm)
  · intro h rest hrest
    exact h ⟨rest, (dropLeading?_eq_some_iff.1 hrest).symm⟩

/-- A pattern without a character stands at the start of a text only if it does so before the first
such character. -/
lemma prefix_of_prefix_append_cons {t : List Char} (hp : d ∉ p) (h : p <+: s ++ d :: t) :
    p <+: s := by
  refine Decidable.byContradiction fun hnot => ?_
  have hnone := dropLeading?_append hp s t
  rw [dropLeading?_eq_none_iff.2 hnot] at hnone
  exact dropLeading?_eq_none_iff.1 hnone h

/-- A text is left whole exactly if the pattern stands nowhere in it. -/
lemma breakOn?_eq_none_iff : breakOn? p s = none ↔ ¬p <:+: s := by
  induction s with
  | nil =>
    rw [breakOn?, List.infix_nil]
    cases p <;> simp
  | cons c s ih =>
    rw [breakOn?, List.infix_cons_iff, not_or, ← dropLeading?_eq_none_iff, ← ih]
    cases dropLeading? p (c :: s) with
    | some rest => simp
    | none => simp

/-- A pattern occurs in a text exactly if it stands somewhere in it. -/
lemma occursIn_iff : occursIn p s = true ↔ p <:+: s := by
  have hnone : breakOn? p s ≠ none ↔ p <:+: s := by
    rw [Ne, breakOn?_eq_none_iff, Classical.not_not]
  rw [occursIn, Option.isSome_iff_ne_none, hnone]

/-- The pattern does not stand in the text before its first occurrence. -/
lemma not_infix_of_breakOn? (hp : p ≠ []) (h : breakOn? p s = some (before, after)) :
    ¬p <:+: before := by
  have hs := eq_append_of_breakOn? h
  induction s generalizing before with
  | nil =>
    obtain ⟨-, rfl, -⟩ : before = [] ∧ p = [] ∧ after = [] := by simpa using hs.symm
    exact absurd rfl hp
  | cons c s ih =>
    rw [breakOn?] at h
    cases hlead : dropLeading? p (c :: s) with
    | some rest =>
      rw [hlead] at h
      obtain ⟨rfl, -⟩ : [] = before ∧ rest = after := by simpa using h
      rwa [List.infix_nil]
    | none =>
      rw [hlead] at h
      obtain ⟨⟨b, a⟩, hb, heq⟩ := Option.map_eq_some_iff.1 h
      obtain ⟨rfl, rfl⟩ : c :: b = before ∧ a = after := by simpa using heq
      rw [List.infix_cons_iff, not_or]
      refine ⟨fun hprefix => ?_, ih hb (eq_append_of_breakOn? hb)⟩
      -- What stands at the start of the text before the cut stands at the start of the text.
      rw [List.append_assoc] at hs
      exact dropLeading?_eq_none_iff.1 hlead (hs ▸ hprefix.trans (List.prefix_append _ _))

/-- What follows a pattern does not depend on a part of the text before it in which its first
character does not stand. -/
lemma map_snd_breakOn?_append (h : d ∉ s) (t : List Char) :
    (breakOn? (d :: p) (s ++ t)).map (·.2) = (breakOn? (d :: p) t).map (·.2) := by
  induction s with
  | nil => rw [List.nil_append]
  | cons c s ih =>
    obtain ⟨hc, hs⟩ : d ≠ c ∧ d ∉ s := by simpa using h
    have hlead : dropLeading? (d :: p) (c :: (s ++ t)) = none := if_neg hc
    rw [List.cons_append, breakOn?, hlead, Option.map_map, ← ih hs]
    rfl

/-- A pattern whose first character does not come again in it is found where a text without it
ends, whatever the text is. -/
lemma breakOn?_append (hd : d ∉ p) (h : ¬(d :: p) <:+: before) (after : List Char) :
    breakOn? (d :: p) (before ++ (d :: p ++ after)) = some (before, after) := by
  induction before with
  | nil =>
    rw [List.nil_append, List.cons_append, breakOn?, ← List.cons_append,
      dropLeading?_eq_some_iff.2 rfl]
  | cons c before ih =>
    rw [List.infix_cons_iff, not_or, ← dropLeading?_eq_none_iff] at h
    have hlead : dropLeading? (d :: p) (c :: (before ++ (d :: p ++ after))) = none := by
      have happend := dropLeading?_append_of_ne_nil (p := d :: p) hd (List.cons_ne_nil c before)
        (p ++ after)
      rwa [h.1, Option.map_none] at happend
    rw [List.cons_append, breakOn?, hlead, ih h.2]
    rfl

/-- A text is cut at the first occurrence of such a pattern. -/
lemma breakOn?_eq_some_iff (hd : d ∉ p) : breakOn? (d :: p) s = some (before, after) ↔
    s = before ++ (d :: p ++ after) ∧ ¬(d :: p) <:+: before := by
  constructor
  · intro h
    refine ⟨?_, not_infix_of_breakOn? (List.cons_ne_nil _ _) h⟩
    rw [← List.append_assoc]
    exact eq_append_of_breakOn? h
  · rintro ⟨rfl, h⟩
    exact breakOn?_append hd h after

end CaskAudit.Text
