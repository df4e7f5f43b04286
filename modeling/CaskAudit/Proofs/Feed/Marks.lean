import CaskAudit.Feed.Markup
import CaskAudit.Proofs.Text.Cutting
import CaskAudit.Proofs.Text.Trimming
import Mathlib.Data.List.Infix

/-!
# Texts made of marks

A text is a row of marks if it ends with one: each mark lies between two angle brackets, with some
text before it. What a feed is searched for begins with an opening bracket, so a search is decided
at one mark after the other. A mark is found if it has the name that is looked for, and is passed
over otherwise (`afterOpening?_of_opens`, `tag?_of_isTag`, `tag?_of_not_isTag`). Marks are also kept
when the marks of comments are taken out (`uncomment_flatMap`), of which only blanks are left
(`uncomment_joint`).
-/

namespace CaskAudit.Markup

open Text

/-- A mark without its brackets, and the text before it. -/
structure Mark where
  lead : List Char
  inside : List Char
  opening_notMem_lead : '<' ∉ lead
  closing_notMem_lead : '>' ∉ lead
  opening_notMem : '<' ∉ inside
  closing_notMem : '>' ∉ inside

/-- The text of a mark, from where the text before it begins. -/
def Mark.text (m : Mark) : List Char := m.lead ++ '<' :: (m.inside ++ ['>'])

variable {m : Mark} {ms : List Mark} {n p s t : List Char}

/-- A mark is followed by what is written after its closing bracket. -/
lemma Mark.text_append (m : Mark) (t : List Char) :
    m.text ++ t = m.lead ++ '<' :: (m.inside ++ '>' :: t) := by
  simp [Mark.text]

/-! ## Where a pattern is found -/

/-- What follows the first place where an opening bracket and a pattern stand. -/
def afterBracket? (p s : List Char) : Option (List Char) := (breakOn? ('<' :: p) s).map (·.2)

/-- What follows a pattern is found where the text is cut at it. -/
lemma afterBracket?_eq_some_iff {after : List Char} :
    afterBracket? p s = some after ↔ ∃ before, breakOn? ('<' :: p) s = some (before, after) := by
  rw [afterBracket?, Option.map_eq_some_iff]
  constructor
  · rintro ⟨⟨before, after⟩, hcut, rfl⟩
    exact ⟨before, hcut⟩
  · rintro ⟨before, hcut⟩
    exact ⟨(before, after), hcut, rfl⟩

/-- Nothing is found before the first opening bracket. -/
lemma afterBracket?_append (h : '<' ∉ s) : afterBracket? p (s ++ t) = afterBracket? p t :=
  map_snd_breakOn?_append h t

/-- A pattern is not found at a mark that does not begin with it. -/
lemma afterBracket?_of_not_prefix (h : ¬p <+: m.inside ++ '>' :: t) :
    afterBracket? p (m.text ++ t) = afterBracket? p t := by
  have hclose : '<' ∉ m.inside ++ ['>'] := by simpa using m.opening_notMem
  have hlead : dropLeading? ('<' :: p) ('<' :: (m.inside ++ '>' :: t)) = none := by
    rw [dropLeading?_eq_none_iff, List.cons_prefix_cons]
    exact fun hstart => h hstart.2
  have hrest := afterBracket?_append (p := p) (t := t) hclose
  rw [List.append_assoc, List.singleton_append] at hrest
  have hskip : afterBracket? p ('<' :: (m.inside ++ '>' :: t)) =
      afterBracket? p (m.inside ++ '>' :: t) := by
    rw [afterBracket?, breakOn?, hlead, Option.map_map]
    rfl
  rw [Mark.text_append, afterBracket?_append m.opening_notMem_lead, hskip, hrest]

/-- A pattern is found at a mark that begins with it. -/
lemma afterBracket?_of_eq {rest : List Char} (h : m.inside = n ++ rest) :
    afterBracket? n (m.text ++ t) = some (rest ++ '>' :: t) := by
  have hn : '<' ∉ n := fun hmem => m.opening_notMem (by rw [h]; exact List.mem_append_left _ hmem)
  have hlead : ¬('<' :: n) <:+: m.lead := fun hwithin =>
    m.opening_notMem_lead (hwithin.subset List.mem_cons_self)
  have hfound := breakOn?_append hn hlead (rest ++ '>' :: t)
  have htext : m.text ++ t = m.lead ++ ('<' :: n ++ (rest ++ '>' :: t)) := by
    rw [Mark.text_append, h, List.append_assoc, List.cons_append]
  rw [afterBracket?, htext, hfound]
  rfl

/-! ## Elements -/

/-- A mark opens an element: after the name come blanks or nothing. -/
def Opens (n : List Char) (m : Mark) : Prop :=
  ∃ rest, m.inside = n ++ rest ∧ ∀ c ∈ rest.head?, isBlank c = true

/-- An element is looked for from bracket to bracket. -/
lemma afterOpening?_eq (n s : List Char) : afterOpening? n s =
    match afterBracket? n s with
    | some (c :: rest) =>
      if c = '>' then some rest
      else if isBlank c then (splitFirst? '>' rest).map (·.2)
      else afterOpening? n (c :: rest)
    | _ => none := by
  rw [afterOpening?]
  split
  · next before c rest hopen =>
    rw [afterBracket?_eq_some_iff.2 ⟨before, hopen⟩]
  · next hother =>
    rcases hafter : afterBracket? n s with _ | _ | ⟨c, rest⟩
    · rfl
    · rfl
    · obtain ⟨before, hopen⟩ := afterBracket?_eq_some_iff.1 hafter
      exact absurd hopen (hother before c rest)

/-- No element opens before the first opening bracket. -/
lemma afterOpening?_append_of_notMem (h : '<' ∉ s) :
    afterOpening? n (s ++ t) = afterOpening? n t := by
  rw [afterOpening?_eq, afterBracket?_append h, ← afterOpening?_eq]

/-- What follows a mark that opens an element is found. -/
lemma afterOpening?_of_opens (h : Opens n m) : afterOpening? n (m.text ++ t) = some t := by
  obtain ⟨rest, hinside, hblank⟩ := h
  have hclose : '>' ∉ rest := fun hmem =>
    m.closing_notMem (by rw [hinside]; exact List.mem_append_right n hmem)
  rw [afterOpening?_eq, afterBracket?_of_eq hinside]
  cases rest with
  | nil => rfl
  | cons c rest =>
    obtain ⟨hc, hrest⟩ : '>' ≠ c ∧ '>' ∉ rest := by simpa using hclose
    have hcut := splitFirst?_append hrest t
    simp [Ne.symm hc, hblank c rfl, hcut]

/-- A mark that does not open an element is passed over. -/
lemma afterOpening?_of_not_opens (hn : '>' ∉ n) (h : ¬Opens n m) :
    afterOpening? n (m.text ++ t) = afterOpening? n t := by
  by_cases hstart : n <+: m.inside
  · obtain ⟨rest, hinside⟩ := hstart
    cases rest with
    | nil => exact absurd ⟨[], hinside.symm, by simp⟩ h
    | cons c rest =>
      have hc : isBlank c = false := by
        refine Bool.eq_false_iff.2 fun hblank => h ⟨c :: rest, hinside.symm, ?_⟩
        simpa using hblank
      have hmem : ∀ d ∈ c :: rest, d ∈ m.inside := fun d hd => by
        rw [← hinside]
        exact List.mem_append_right n hd
      have hclose : c ≠ '>' := fun heq => m.closing_notMem (heq ▸ hmem c List.mem_cons_self)
      have hopen : '<' ∉ c :: rest ++ ['>'] := by
        have hd : '<' ∉ c :: rest := fun hd => m.opening_notMem (hmem _ hd)
        simpa using hd
      have hskip := afterOpening?_append_of_notMem (n := n) (t := t) hopen
      rw [afterOpening?_eq, afterBracket?_of_eq hinside.symm]
      simpa [hclose, hc] using hskip
  · have hskip := afterBracket?_of_not_prefix (t := t) fun h =>
      hstart (prefix_of_prefix_append_cons hn h)
    rw [afterOpening?_eq, hskip, ← afterOpening?_eq]

/-- Marks that do not open an element are passed over. -/
lemma afterOpening?_flatMap (hn : '>' ∉ n) (h : ∀ m ∈ ms, ¬Opens n m) :
    afterOpening? n (ms.flatMap Mark.text ++ t) = afterOpening? n t := by
  induction ms with
  | nil => rfl
  | cons m ms ih =>
    obtain ⟨hm, hms⟩ := List.forall_mem_cons.1 h
    rw [List.flatMap_cons, List.append_assoc, afterOpening?_of_not_opens hn hm, ih hms]

/-- No element is found in a text that is a row of marks none of which opens it. -/
lemma element?_eq_none {name : String} (hn : '>' ∉ name.toList)
    (h : ∀ m ∈ ms, ¬Opens name.toList m) : element? name (ms.flatMap Mark.text) = none := by
  have hskip := afterOpening?_flatMap (t := []) hn h
  have hnil : afterOpening? name.toList [] = none := by
    rw [afterOpening?_eq]
    rfl
  rw [List.append_nil, hnil] at hskip
  rw [element?, hskip]

/-- An element is found at the first mark that opens it, and its contents end at the mark that
closes it. -/
lemma element?_eq {name : String} {before after : List Mark} {opening closing : Mark}
    (hn : '>' ∉ name.toList) (hbefore : ∀ m ∈ before, ¬Opens name.toList m)
    (hopening : Opens name.toList opening) (hclosing : closing.inside = '/' :: name.toList) :
    element? name ((before ++ opening :: closing :: after).flatMap Mark.text) =
      (nonBlank? closing.lead).map String.ofList := by
  have hopen : afterOpening? name.toList
      ((before ++ opening :: closing :: after).flatMap Mark.text) =
        some (closing.text ++ after.flatMap Mark.text) := by
    rw [List.flatMap_append, afterOpening?_flatMap hn hbefore, List.flatMap_cons,
      afterOpening?_of_opens hopening, List.flatMap_cons]
  have hslash : '<' ∉ '/' :: (name.toList ++ ['>']) := by
    have hinside := closing.opening_notMem
    rw [hclosing] at hinside
    simpa using hinside
  have hlead : ¬('<' :: '/' :: (name.toList ++ ['>'])) <:+: closing.lead := fun hwithin =>
    closing.opening_notMem_lead (hwithin.subset List.mem_cons_self)
  have hcut := breakOn?_append hslash hlead (after.flatMap Mark.text)
  have htext : closing.text ++ after.flatMap Mark.text = closing.lead ++
      ('<' :: '/' :: (name.toList ++ ['>']) ++ after.flatMap Mark.text) := by
    simp [Mark.text, hclosing]
  have hpattern : "</".toList ++ name.toList ++ ['>'] = '<' :: '/' :: (name.toList ++ ['>']) := rfl
  rw [element?, hopen, htext, hpattern]
  simp only [hcut]

/-! ## Tags with attributes -/

/-- A mark is a tag that may have attributes: after the name comes a blank. -/
def IsTag (n : List Char) (m : Mark) : Prop :=
  ∃ c rest, m.inside = n ++ c :: rest ∧ isBlank c = true

/-- A tag with attributes opens an element. -/
lemma opens_of_isTag (h : IsTag n m) : Opens n m := by
  obtain ⟨c, rest, hinside, hblank⟩ := h
  refine ⟨c :: rest, hinside, fun d hd => ?_⟩
  obtain rfl : c = d := by simpa using hd
  exact hblank

/-- A tag is looked for from bracket to bracket. -/
lemma tag?_eq (n s : List Char) : tag? n s =
    match afterBracket? n s with
    | some (c :: rest) =>
      if isBlank c then (splitFirst? '>' rest).map fun (inner, _) => '<' :: n ++ c :: inner ++ ['>']
      else tag? n (c :: rest)
    | _ => none := by
  rw [tag?]
  split
  · next before c rest hopen =>
    rw [afterBracket?_eq_some_iff.2 ⟨before, hopen⟩]
  · next hother =>
    rcases hafter : afterBracket? n s with _ | _ | ⟨c, rest⟩
    · rfl
    · rfl
    · obtain ⟨before, hopen⟩ := afterBracket?_eq_some_iff.1 hafter
      exact absurd hopen (hother before c rest)

/-- No tag begins before the first opening bracket. -/
lemma tag?_append_of_notMem (h : '<' ∉ s) : tag? n (s ++ t) = tag? n t := by
  rw [tag?_eq, afterBracket?_append h, ← tag?_eq]

/-- A tag with a name is found, without the text before it. -/
lemma tag?_of_isTag (h : IsTag n m) :
    tag? n (m.text ++ t) = some ('<' :: (m.inside ++ ['>'])) := by
  obtain ⟨c, rest, hinside, hblank⟩ := h
  have hclose : '>' ∉ rest := fun hmem => m.closing_notMem (by rw [hinside]; simp [hmem])
  have hcut := splitFirst?_append hclose t
  rw [tag?_eq, afterBracket?_of_eq hinside]
  simp [hblank, hcut, hinside]

/-- A mark that is no tag with a name is passed over. -/
lemma tag?_of_not_isTag (hn : '>' ∉ n) (h : ¬IsTag n m) : tag? n (m.text ++ t) = tag? n t := by
  by_cases hstart : n <+: m.inside
  · obtain ⟨rest, hinside⟩ := hstart
    have hopen : '<' ∉ rest ++ ['>'] := by
      have hmem : '<' ∉ rest := fun hd =>
        m.opening_notMem (by rw [← hinside]; exact List.mem_append_right n hd)
      simpa using hmem
    have hskip := tag?_append_of_notMem (n := n) (t := t) hopen
    rw [List.append_assoc, List.singleton_append] at hskip
    rw [tag?_eq, afterBracket?_of_eq hinside.symm]
    cases rest with
    | nil =>
      have hc : isBlank '>' = false := by decide
      simpa [hc] using hskip
    | cons c rest =>
      have hc : isBlank c = false := by
        exact Bool.eq_false_iff.2 fun hblank => h ⟨c, rest, hinside.symm, hblank⟩
      simpa [hc] using hskip
  · have hskip := afterBracket?_of_not_prefix (t := t) fun h =>
      hstart (prefix_of_prefix_append_cons hn h)
    rw [tag?_eq, hskip, ← tag?_eq]

/-- Marks that are no tag with a name are passed over. -/
lemma tag?_flatMap (hn : '>' ∉ n) (h : ∀ m ∈ ms, ¬IsTag n m) :
    tag? n (ms.flatMap Mark.text ++ t) = tag? n t := by
  induction ms with
  | nil => rfl
  | cons m ms ih =>
    obtain ⟨hm, hms⟩ := List.forall_mem_cons.1 h
    rw [List.flatMap_cons, List.append_assoc, tag?_of_not_isTag hn hm, ih hms]

/-! ## Comments -/

/-- A mark of a comment begins a text exactly if the opening one does, or the closing one after
blanks. -/
lemma afterCommentMark?_eq_none_iff : afterCommentMark? s = none ↔
    ¬commentOpening <+: s ∧ ¬commentClosing <+: trimStart s := by
  have hopening : afterCommentOpening? s = none ↔ ¬commentOpening <+: s := by
    rw [afterCommentOpening?, Option.map_eq_none_iff, dropLeading?_eq_none_iff]
  have hclosing : afterCommentClosing? s = none ↔ ¬commentClosing <+: trimStart s := by
    rw [afterCommentClosing?, dropLeading?_eq_none_iff]
  rw [afterCommentMark?, Option.or_eq_none_iff, hopening, hclosing]

/-- What follows a mark of a comment is read on. -/
lemma uncomment_of_some {after : List Char} (h : afterCommentMark? s = some after) :
    uncomment s = uncomment after := by
  cases s with
  | nil => cases h
  | cons c s =>
    rw [uncomment]
    split
    · next after' heq =>
      obtain rfl : after = after' := Option.some.inj (h.symm.trans heq)
      rfl
    · next heq =>
      rw [h] at heq
      cases heq

/-- A character is kept where no mark of a comment begins. -/
lemma uncomment_cons {c : Char} (h : afterCommentMark? (c :: s) = none) :
    uncomment (c :: s) = c :: uncomment s := by
  rw [uncomment]
  split
  · next heq =>
    rw [h] at heq
    cases heq
  · rfl

/-- A part of a text is kept if no mark of a comment begins in it. -/
lemma uncomment_append (h : ∀ s, s ≠ [] → s <:+ p → afterCommentMark? (s ++ t) = none) :
    uncomment (p ++ t) = p ++ uncomment t := by
  induction p with
  | nil => rfl
  | cons c p ih =>
    have hhere : afterCommentMark? (c :: (p ++ t)) = none :=
      h (c :: p) (List.cons_ne_nil c p) (List.suffix_refl _)
    have hlater := ih fun s hne hs => h s hne (hs.trans (List.suffix_cons c p))
    rw [List.cons_append, uncomment_cons hhere, hlater, List.cons_append]

/-- A mark is kept when comments are taken out: it is not like one of theirs. -/
structure Mark.Kept (m : Mark) : Prop where
  first : m.inside.head? ≠ some '!'
  last : m.inside.getLast? ≠ some '-'

/-- The mark that opens a comment begins nowhere in a mark that is kept. -/
lemma Mark.Kept.not_opening (h : m.Kept) (hs : s <:+ m.lead ++ '<' :: m.inside) :
    ¬commentOpening <+: s ++ '>' :: t := by
  intro hstart
  obtain ⟨rest, rfl⟩ := prefix_of_prefix_append_cons (by decide) hstart
  obtain ⟨before, heq⟩ := hs
  -- The only opening bracket is the one of the mark.
  have hbracket : m.lead = before ∧ '<' = '<' ∧ m.inside = '!' :: '-' :: '-' :: rest :=
    (List.append_cons_inj_of_notMem m.opening_notMem_lead m.opening_notMem).1 heq.symm
  exact h.first (by rw [hbracket.2.2]; rfl)

/-- The mark that closes a comment begins nowhere in a mark that is kept. -/
lemma Mark.Kept.not_closing (h : m.Kept) (hs : s <:+ m.lead ++ '<' :: m.inside) :
    ¬commentClosing <+: trimStart (s ++ '>' :: t) := by
  rintro ⟨rest, hrest⟩
  have hbefore : '>' ∉ trimStart s := by
    have hall : '>' ∉ m.lead ++ '<' :: m.inside := by
      simpa using ⟨m.closing_notMem_lead, m.closing_notMem⟩
    exact fun hmem => hall (hs.subset ((List.dropWhile_suffix isBlank).subset hmem))
  -- The only closing bracket is the one of the mark, so two hyphens would stand before it.
  rw [trimStart_append (by decide)] at hrest
  have hcut : splitFirst? '>' (['-', '-'] ++ '>' :: rest) = some (['-', '-'], rest) :=
    splitFirst?_append (by decide) rest
  have hcut' := splitFirst?_append hbefore t
  rw [← hrest] at hcut'
  have hhyphens : ['-', '-'] = trimStart s :=
    (Prod.mk.inj (Option.some.inj (hcut.symm.trans hcut'))).1
  have hend : ['-', '-'] <:+ m.lead ++ '<' :: m.inside := by
    rw [hhyphens]
    exact (List.dropWhile_suffix isBlank).trans hs
  obtain ⟨before, heq⟩ := hend
  have hlast : some '-' = some (m.inside.getLast?.getD '<') := by
    simpa [List.getLast?_append, List.getLast?_cons] using congrArg List.getLast? heq
  cases hinside : m.inside.getLast? with
  | none => simp [hinside] at hlast
  | some c =>
    obtain rfl : '-' = c := by simpa [hinside] using hlast
    exact h.last hinside

/-- A mark is kept, with the text before it. -/
lemma uncomment_text (h : m.Kept) : uncomment (m.text ++ t) = m.text ++ uncomment t := by
  refine uncomment_append fun s hne hs => ?_
  have htext : m.text = m.lead ++ '<' :: m.inside ++ ['>'] := by simp [Mark.text]
  rw [htext, List.suffix_concat_iff] at hs
  obtain ⟨s, rfl, hs'⟩ := hs.resolve_left hne
  rw [afterCommentMark?_eq_none_iff, List.append_assoc, List.singleton_append]
  exact ⟨h.not_opening hs', h.not_closing hs'⟩

/-- A row of marks is kept. -/
lemma uncomment_flatMap (h : ∀ m ∈ ms, m.Kept) :
    uncomment (ms.flatMap Mark.text ++ t) = ms.flatMap Mark.text ++ uncomment t := by
  induction ms with
  | nil => rfl
  | cons m ms ih =>
    obtain ⟨hm, hms⟩ := List.forall_mem_cons.1 h
    rw [List.flatMap_cons, List.append_assoc, uncomment_text hm, ih hms, List.append_assoc]

/-- What may stand between items: blanks, and marks that open or close comments. -/
inductive Joint : List Char → Prop
  | nil : Joint []
  | blank {c : Char} {s : List Char} (hc : isBlank c = true) (hs : Joint s) : Joint (c :: s)
  | opening {s : List Char} (hs : Joint s) : Joint (commentOpening ++ s)
  | closing {s : List Char} (hs : Joint s) : Joint (commentClosing ++ s)

/-- No blank is trimmed away before a mark of a comment. -/
lemma trimStart_of_mark (hs : commentOpening <+: s ∨ commentClosing <+: s) : trimStart s = s := by
  refine dropWhile_isBlank fun c hc => ?_
  rcases hs with ⟨t, rfl⟩ | ⟨t, rfl⟩
  · cases hc
    decide
  · cases hc
    decide

/-- The mark that opens a comment is taken out with the blanks after it. -/
lemma uncomment_opening (s : List Char) :
    uncomment (commentOpening ++ s) = uncomment (trimStart s) := by
  have hlead : dropLeading? commentOpening (commentOpening ++ s) = some s :=
    dropLeading?_eq_some_iff.2 rfl
  refine uncomment_of_some ?_
  rw [afterCommentMark?, afterCommentOpening?, hlead]
  rfl

/-- The mark that closes a comment is taken out with the blanks before it. -/
lemma uncomment_closing (hs : trimStart s = commentClosing ++ t) : uncomment s = uncomment t := by
  have hopen : dropLeading? commentOpening s = none := by
    refine dropLeading?_eq_none_iff.2 fun hstart => ?_
    rw [trimStart_of_mark (.inl hstart)] at hs
    obtain ⟨after, rfl⟩ := hstart
    exact absurd (List.cons.inj hs).1 (by decide)
  have hclose : dropLeading? commentClosing (trimStart s) = some t :=
    dropLeading?_eq_some_iff.2 hs
  refine uncomment_of_some ?_
  rw [afterCommentMark?, afterCommentOpening?, hopen, afterCommentClosing?, hclose]
  rfl

/-- Between items only blanks are left when comments are taken out, before a text that does not
begin with one; also if the blanks at the start have gone before. -/
lemma exists_uncomment_joint (ht : ∀ c ∈ t.head?, isBlank c = false) (hs : Joint s) :
    (∃ b, AllBlank b ∧ uncomment (s ++ t) = b ++ uncomment t) ∧
      ∃ b, AllBlank b ∧ uncomment (trimStart (s ++ t)) = b ++ uncomment t := by
  induction hs with
  | nil =>
    refine ⟨⟨[], allBlank_nil, rfl⟩, [], allBlank_nil, ?_⟩
    rw [List.nil_append, trimStart, dropWhile_isBlank ht]
    rfl
  | @blank c s hc hs ih =>
    obtain ⟨⟨b, hb, hkept⟩, htrimmed⟩ := ih
    have htrim : trimStart (c :: (s ++ t)) = trimStart (s ++ t) := by
      rw [trimStart, List.dropWhile_cons_of_pos hc, ← trimStart]
    rw [List.cons_append, htrim]
    refine ⟨?_, htrimmed⟩
    by_cases hclose : commentClosing <+: trimStart (s ++ t)
    · -- The blanks are taken out with a mark that closes a comment.
      obtain ⟨after, hafter⟩ := hclose
      have hfirst : uncomment (c :: (s ++ t)) = uncomment after :=
        uncomment_closing (htrim.trans hafter.symm)
      have hlater : uncomment (trimStart (s ++ t)) = uncomment after := by
        rw [← hafter]
        exact uncomment_closing (trimStart_of_mark (.inr (List.prefix_append _ _)))
      rwa [hfirst, ← hlater]
    · have hmark : afterCommentMark? (c :: (s ++ t)) = none := by
        refine afterCommentMark?_eq_none_iff.2 ⟨fun hopen => ?_, by rwa [htrim]⟩
        have hbracket := (List.cons_prefix_cons.1 hopen).1
        rw [← hbracket] at hc
        exact absurd hc (by decide)
      refine ⟨c :: b, List.forall_mem_cons.2 ⟨hc, hb⟩, ?_⟩
      rw [uncomment_cons hmark, hkept, List.cons_append]
  | @opening s hs ih =>
    have hfirst : uncomment (commentOpening ++ (s ++ t)) = uncomment (trimStart (s ++ t)) :=
      uncomment_opening _
    have htrim := trimStart_of_mark (.inl (List.prefix_append commentOpening (s ++ t)))
    rw [List.append_assoc, htrim, hfirst]
    exact ⟨ih.2, ih.2⟩
  | @closing s hs ih =>
    have htrim := trimStart_of_mark (.inr (List.prefix_append commentClosing (s ++ t)))
    have hfirst : uncomment (commentClosing ++ (s ++ t)) = uncomment (s ++ t) :=
      uncomment_closing htrim
    rw [List.append_assoc, htrim, hfirst]
    exact ⟨ih.1, ih.1⟩

/-! ## Items -/

/-- Nothing closes an item in a row of marks none of which does, nor in the text after it. -/
lemma not_infix_flatMap (h : ∀ m ∈ ms, m.inside ≠ "/item".toList) (hs : '<' ∉ s) :
    ¬itemClosing <:+: ms.flatMap Mark.text ++ s := by
  have hclosing : itemClosing = '<' :: "/item>".toList := rfl
  rw [← breakOn?_eq_none_iff, hclosing, ← Option.map_eq_none_iff, ← afterBracket?]
  induction ms with
  | nil =>
    have hnil := afterBracket?_append (p := "/item>".toList) (t := []) hs
    rw [List.append_nil] at hnil
    rw [List.flatMap_nil, List.nil_append, hnil]
    rfl
  | cons m ms ih =>
    obtain ⟨hm, hms⟩ := List.forall_mem_cons.1 h
    have hnone : ¬"/item>".toList <+: m.inside ++ '>' :: (ms.flatMap Mark.text ++ s) := by
      rintro ⟨rest, hrest⟩
      have hname : '>' ∉ "/item".toList := by decide
      have hcut := splitFirst?_append m.closing_notMem (ms.flatMap Mark.text ++ s)
      rw [← hrest] at hcut
      have hcut' := splitFirst?_append hname rest
      exact hm (Prod.mk.inj (Option.some.inj (hcut.symm.trans hcut'))).1
    rw [List.flatMap_cons, List.append_assoc, afterBracket?_of_not_prefix hnone, ih hms]

/-- There are no items in a text without opening brackets. -/
lemma items_of_notMem (h : '<' ∉ s) : items s = [] := by
  have hnone : breakOn? itemOpening s = none :=
    breakOn?_eq_none_iff.2 fun hwithin => h (hwithin.subset List.mem_cons_self)
  rw [items]
  split
  · next hopen =>
    rw [hnone] at hopen
    cases hopen
  · rfl

/-- The first item is read up to the mark that closes it. -/
lemma items_append {inner : List Char} (hs : '<' ∉ s) (hinner : ¬itemClosing <:+: inner) :
    items (s ++ (itemOpening ++ '>' :: (inner ++ (itemClosing ++ t)))) =
      (itemOpening ++ '>' :: inner ++ itemClosing) :: items t := by
  have hnone : ¬itemOpening <:+: s := fun hwithin => hs (hwithin.subset List.mem_cons_self)
  have hopen : breakOn? itemOpening (s ++ (itemOpening ++ '>' :: (inner ++ (itemClosing ++ t)))) =
      some (s, '>' :: (inner ++ (itemClosing ++ t))) :=
    breakOn?_append (by decide) hnone _
  have hclose : breakOn? itemClosing (inner ++ (itemClosing ++ t)) = some (inner, t) :=
    breakOn?_append (by decide) hinner t
  have hends : endsName '>' = true := by decide
  rw [items]
  split
  · next before c rest heq =>
    obtain ⟨rfl, rfl, rfl⟩ : s = before ∧ '>' = c ∧ inner ++ (itemClosing ++ t) = rest := by
      simpa [hopen] using heq
    rw [if_pos hends]
    split
    · next inner' after heq' =>
      obtain ⟨rfl, rfl⟩ : inner = inner' ∧ t = after := by simpa [hclose] using heq'
      rfl
    · next heq' =>
      rw [hclose] at heq'
      cases heq'
  · next hother => exact absurd hopen (hother s '>' _)

end CaskAudit.Markup
