import CaskAudit.Feed.Markup
import CaskAudit.Proofs.Text.Cutting
import CaskAudit.Proofs.Text.Lowercase
import CaskAudit.Text.Alphanumeric
import Mathlib.Data.List.Infix

/-!
# Attributes of a tag

A tag is searched for a name, an equals sign and a quoted value, wherever they stand in it. The
name is found at the end of every name that ends in it, and inside every value that mentions it with
an equals sign and a quote; it is found nowhere else (`firstAttribute?_of_passes`). So the value of
an attribute is found if the attributes before it have other endings and do not mention it, and
otherwise the first attribute that does not pass decides (`firstAttribute?_of_gives`).
-/

namespace CaskAudit.Markup

open Text

/-! ## Names -/

/-- Whether a character may stand in a name: letters, digits and four marks may. -/
def isNameChar (c : Char) : Bool :=
  isAlphanumeric c || c == '-' || c == '_' || c == '.' || c == ':'

/-- A name has at least one character, and only those that may stand in names. -/
def IsName (s : List Char) : Prop := s ≠ [] ∧ ∀ c ∈ s, isNameChar c = true

instance : DecidablePred IsName := fun s =>
  decidable_of_iff (s ≠ [] ∧ s.all isNameChar = true) (and_congr_right' List.all_eq_true)

/-- Letters and digits are no blanks. -/
lemma isBlank_of_isAlphanumeric {c : Char} (h : isAlphanumeric c = true) : isBlank c = false := by
  have hascii : ∀ k < 128, (Char.ofNat k).isAlphanum = true → isBlank (Char.ofNat k) = false := by
    decide +kernel
  have hapart : ∀ r ∈ alphanumericRanges, ∀ b ∈ blanks,
      Steps.apart ⟨r.1, r.2, 1⟩ b = true := by
    decide +kernel
  rw [isAlphanumeric] at h
  split at h
  · next hc =>
    have hblank := hascii c.toNat hc
    rw [Char.ofNat_toNat] at hblank
    exact hblank h
  · obtain ⟨r, hr, hlow, hhigh⟩ := exists_of_inRanges h
    exact isBlank_eq_false (hapart r hr) ⟨hlow, hhigh, Nat.mod_one _⟩

/-- No blank may stand in a name. -/
lemma isNameChar_of_isBlank {c : Char} (h : isBlank c = true) : isNameChar c = false := by
  refine Bool.eq_false_iff.2 fun hname => ?_
  have hmarks : isBlank '-' = false ∧ isBlank '_' = false ∧ isBlank '.' = false ∧
      isBlank ':' = false := by
    decide
  simp only [isNameChar, Bool.or_eq_true, beq_iff_eq] at hname
  rcases hname with (((hname | rfl) | rfl) | rfl) | rfl
  · rw [isBlank_of_isAlphanumeric hname] at h
    cases h
  · exact absurd (h.symm.trans hmarks.1) (by decide)
  · exact absurd (h.symm.trans hmarks.2.1) (by decide)
  · exact absurd (h.symm.trans hmarks.2.2.1) (by decide)
  · exact absurd (h.symm.trans hmarks.2.2.2) (by decide)

/-- A character that may not stand in names stands in no name. -/
lemma IsName.notMem {n : List Char} {d : Char} (hn : IsName n) (hd : isNameChar d = false) :
    d ∉ n := by
  intro hmem
  have hname := hn.2 d hmem
  rw [hd] at hname
  cases hname

/-! ## Tags -/

/-- An attribute as it is written: blanks, a name, an equals sign and a value between two quotes. -/
structure Attribute where
  gap : List Char
  name : List Char
  quote : Char
  value : List Char
  gap_ne_nil : gap ≠ []
  allBlank_gap : AllBlank gap
  isName : IsName name
  quote_eq : quote = '"' ∨ quote = '\''
  quote_notMem : quote ∉ value
  closing_notMem : '>' ∉ value

/-- The text of an attribute. -/
def Attribute.text (a : Attribute) : List Char :=
  a.gap ++ (a.name ++ '=' :: a.quote :: (a.value ++ [a.quote]))

/-- A tag as it is written: a name, attributes and an end, which is blank up to a slash. -/
structure Tag where
  name : List Char
  attributes : List Attribute
  trail : List Char
  slash : Bool
  isName : IsName name
  allBlank_trail : AllBlank trail

/-- The end of a tag after its attributes. -/
def Tag.ending (t : Tag) : List Char := t.trail ++ if t.slash then ['/', '>'] else ['>']

/-- The text of a tag. -/
def Tag.text (t : Tag) : List Char :=
  '<' :: (t.name ++ (t.attributes.flatMap Attribute.text ++ t.ending))

/-- A quote may not stand in names. -/
lemma Attribute.isNameChar_quote (a : Attribute) : isNameChar a.quote = false := by
  rcases a.quote_eq with h | h <;> rw [h] <;> decide

/-! ## Where a name is found -/

/-- A quote stands at the start of a text, perhaps after blanks. -/
def QuoteHere (s : List Char) : Prop :=
  ∃ blanks quote after, AllBlank blanks ∧ (quote = '"' ∨ quote = '\'') ∧
    s = blanks ++ quote :: after

/-- A name, an equals sign and a quote stand at the start of a text, perhaps with blanks between
them. -/
def NamedHere (n s : List Char) : Prop :=
  ∃ blanks after, AllBlank blanks ∧ QuoteHere after ∧ s = n ++ (blanks ++ '=' :: after)

/-- A text names an attribute somewhere. -/
def Mentions (n s : List Char) : Prop := ∃ t, t <:+ s ∧ NamedHere n t

variable {n s t p : List Char} {d : Char}

/-- A text without an equals sign names no attribute. -/
lemma not_mentions_of_notMem (h : '=' ∉ s) : ¬Mentions n s := by
  rintro ⟨t, ht, blanks, after, -, -, rfl⟩
  exact h (ht.subset (by simp))

/-- What begins with a quote follows a name and an equals sign. -/
lemma afterEquals?_quote {blanks blanks' : List Char} (hblanks : AllBlank blanks)
    (hblanks' : AllBlank blanks') (hd : d = '"' ∨ d = '\'') (after : List Char) :
    afterEquals? n (n ++ (blanks ++ '=' :: (blanks' ++ d :: after))) = some (d :: after) := by
  have hquote : isBlank d = false := by rcases hd with rfl | rfl <;> decide
  have hname : trimStart (blanks ++ '=' :: (blanks' ++ d :: after)) =
      '=' :: (blanks' ++ d :: after) :=
    trimStart_append_cons hblanks (by decide) _
  have hopen := trimStart_append_cons hblanks' hquote after
  have hlead : dropLeading? n (n ++ (blanks ++ '=' :: (blanks' ++ d :: after))) =
      some (blanks ++ '=' :: (blanks' ++ d :: after)) :=
    dropLeading?_eq_some_iff.2 rfl
  simp only [afterEquals?, hlead, hname, hopen]

/-- A name, an equals sign and a quote stand where a quote follows the first two. -/
lemma namedHere_iff : NamedHere n s ↔
    ∃ quote after, (quote = '"' ∨ quote = '\'') ∧ afterEquals? n s = some (quote :: after) := by
  constructor
  · rintro ⟨blanks, _, hblanks, ⟨blanks', quote, after, hblanks', hquote, rfl⟩, rfl⟩
    exact ⟨quote, after, hquote, afterEquals?_quote hblanks hblanks' hquote after⟩
  · rintro ⟨quote, after, hquote, hafter⟩
    rw [afterEquals?] at hafter
    split at hafter
    · cases hafter
    · next rest hlead =>
      split at hafter
      · next value htrim =>
        obtain ⟨blanks, hblanks, hrest⟩ := exists_trimStart rest
        obtain ⟨blanks', hblanks', hvalue⟩ := exists_trimStart value
        rw [Option.some.inj hafter] at hvalue
        rw [htrim] at hrest
        refine ⟨blanks, value, hblanks, ⟨blanks', quote, after, hblanks', hquote, hvalue⟩, ?_⟩
        rw [← hrest]
        exact dropLeading?_eq_some_iff.1 hlead
      · cases hafter

instance : Decidable (NamedHere n s) :=
  match h : afterEquals? n s with
  | some (d :: after) => decidable_of_iff (d = '"' ∨ d = '\'') (by simp [namedHere_iff, h])
  | some [] => isFalse (by simp [namedHere_iff, h])
  | none => isFalse (by simp [namedHere_iff, h])

instance : Decidable (Mentions n s) :=
  decidable_of_iff (∃ t ∈ s.tails, NamedHere n t) (by simp [Mentions])

/-- An attribute is read only where its name stands. -/
lemma attributeHere?_eq_none (h : ¬NamedHere n s) : attributeHere? n s = none := by
  rw [attributeHere?]
  split
  · next hafter => exact absurd (namedHere_iff.2 ⟨_, _, .inl rfl, hafter⟩) h
  · next hafter => exact absurd (namedHere_iff.2 ⟨_, _, .inr rfl, hafter⟩) h
  · rfl

/-- A quoted value is read after a name and an equals sign. -/
lemma attributeHere?_quoted {blanks blanks' value : List Char} (hblanks : AllBlank blanks)
    (hblanks' : AllBlank blanks') (hd : d = '"' ∨ d = '\'') (hvalue : d ∉ value)
    (after : List Char) :
    attributeHere? n (n ++ (blanks ++ '=' :: (blanks' ++ d :: (value ++ d :: after)))) =
      some value := by
  have hafter := afterEquals?_quote (n := n) hblanks hblanks' hd (value ++ d :: after)
  have hcut := splitFirst?_append hvalue after
  rcases hd with rfl | rfl
  · simp only [attributeHere?, hafter, hcut, Option.map_some]
  · simp only [attributeHere?, hafter, hcut, Option.map_some]

/-- What is read at the start of a text is found first. -/
lemma firstAttribute?_of_attributeHere? {value : List Char} (hs : s ≠ [])
    (h : attributeHere? n s = some value) : firstAttribute? n s = some value := by
  obtain ⟨c, rest, rfl⟩ := List.exists_cons_of_ne_nil hs
  rw [firstAttribute?, h]

/-- A part of a text where no name stands is passed over. -/
lemma firstAttribute?_append (h : ∀ s, s ≠ [] → s <:+ p → ¬NamedHere n (s ++ t)) :
    firstAttribute? n (p ++ t) = firstAttribute? n t := by
  induction p with
  | nil => rw [List.nil_append]
  | cons c p ih =>
    have hhere : attributeHere? n (c :: p ++ t) = none :=
      attributeHere?_eq_none (h (c :: p) (List.cons_ne_nil c p) (List.suffix_refl _))
    have hlater := ih fun s hne hs => h s hne (hs.trans (List.suffix_cons c p))
    rw [List.cons_append] at hhere
    rw [List.cons_append, firstAttribute?, hhere, hlater]

/-- No name begins with a character that may not stand in names. -/
lemma not_namedHere_cons (hn : IsName n) (hd : isNameChar d = false) : ¬NamedHere n (d :: t) := by
  rintro ⟨blanks, after, -, -, heq⟩
  obtain ⟨c, m, rfl⟩ := List.exists_cons_of_ne_nil hn.1
  obtain ⟨rfl, -⟩ := List.cons.inj heq
  exact hn.notMem hd List.mem_cons_self

/-- Characters that may not stand in names are passed over. -/
lemma firstAttribute?_append_of_forall (hn : IsName n) (hp : ∀ c ∈ p, isNameChar c = false) :
    firstAttribute? n (p ++ t) = firstAttribute? n t := by
  refine firstAttribute?_append fun s hne hs => ?_
  obtain ⟨c, rest, rfl⟩ := List.exists_cons_of_ne_nil hne
  exact not_namedHere_cons hn (hp c (hs.subset List.mem_cons_self))

/-- A quote that stands before a name stands before it in full. -/
lemma QuoteHere.of_append (hn : IsName n) (h : QuoteHere (s ++ (n ++ t))) : QuoteHere s := by
  obtain ⟨blanks, quote, after, hblanks, hquote, heq⟩ := h
  obtain ⟨c, m, rfl⟩ := List.exists_cons_of_ne_nil hn.1
  have hc : isNameChar c = true := hn.2 c List.mem_cons_self
  have hsign : c ≠ quote := by
    rintro rfl
    rcases hquote with rfl | rfl <;> exact absurd hc (by decide)
  rcases List.append_eq_append_iff.1 heq with ⟨k, rfl, hrest⟩ | ⟨k, rfl, hrest⟩
  · cases k with
    | nil => exact absurd (List.cons.inj hrest).1 hsign
    | cons b k =>
      obtain rfl : c = b := (List.cons.inj hrest).1
      have hblank : isBlank c = true := hblanks c (by simp)
      rw [isNameChar_of_isBlank hblank] at hc
      cases hc
  · cases k with
    | nil => exact absurd (List.cons.inj hrest).1.symm hsign
    | cons b k =>
      obtain rfl : quote = b := (List.cons.inj hrest).1
      exact ⟨blanks, quote, k, hblanks, hquote, rfl⟩

/-- A name that stands before a sign, or up to it, stands there whatever follows. -/
lemma NamedHere.of_append (hn : IsName n) (hd : isNameChar d = false) (hblank : isBlank d = false)
    (hequals : d ≠ '=') (h : NamedHere n (s ++ d :: t)) : NamedHere n (s ++ [d]) := by
  obtain ⟨blanks, _, hblanks, ⟨blanks', quote, after, hblanks', hquote, rfl⟩, heq⟩ := h
  have hnone : ∀ b, AllBlank b → d ∉ b := by
    intro b hb hmem
    rw [hb d hmem] at hblank
    cases hblank
  have hnotMem : d ∉ n ++ (blanks ++ '=' :: blanks') := by
    simp [hn.notMem hd, hnone blanks hblanks, hnone blanks' hblanks', hequals]
  have hhere : ∀ rest, NamedHere n (n ++ (blanks ++ '=' :: blanks') ++ quote :: rest) := by
    intro rest
    exact ⟨blanks, _, hblanks, ⟨blanks', quote, rest, hblanks', hquote, rfl⟩, by simp⟩
  have heq' : s ++ d :: t = n ++ (blanks ++ '=' :: blanks') ++ quote :: after := by simpa using heq
  rcases List.append_eq_append_iff.1 heq' with ⟨k, hk, hrest⟩ | ⟨k, rfl, hrest⟩
  · cases k with
    | nil =>
      rw [List.append_nil] at hk
      rw [← hk, (List.cons.inj hrest).1]
      exact hhere []
    | cons b k =>
      obtain rfl : d = b := (List.cons.inj hrest).1
      exact absurd (hk ▸ by simp) hnotMem
  · cases k with
    | nil =>
      rw [List.append_nil, ← (List.cons.inj hrest).1]
      exact hhere []
    | cons b k =>
      obtain rfl : quote = b := (List.cons.inj hrest).1
      rw [List.append_assoc]
      exact hhere (k ++ [d])

/-- A name and blanks stand before the first equals sign of a text, and a quote after it, if it
begins with a name, an equals sign and a quote. -/
lemma NamedHere.exists_eq (hn : IsName n) (hs : '=' ∉ s) (h : NamedHere n (s ++ '=' :: t)) :
    ∃ blanks, AllBlank blanks ∧ QuoteHere t ∧ s = n ++ blanks := by
  obtain ⟨blanks, after, hblanks, hquote, heq⟩ := h
  have hnotMem : '=' ∉ n ++ blanks := by
    have hb : '=' ∉ blanks := fun hmem => absurd (hblanks _ hmem) (by decide)
    simp [hn.notMem (d := '=') (by decide), hb]
  have hcut := splitFirst?_append hnotMem after
  rw [List.append_assoc, ← heq, splitFirst?_append hs] at hcut
  obtain ⟨rfl, rfl⟩ := Prod.mk.inj (Option.some.inj hcut)
  exact ⟨blanks, hblanks, hquote, rfl⟩

/-- Before an equals sign only the name itself is found. -/
lemma NamedHere.eq_of_isName (hn : IsName n) (hs : ∀ c ∈ s, isNameChar c = true)
    (h : NamedHere n (s ++ '=' :: t)) : s = n := by
  have hequals : '=' ∉ s := fun hmem => absurd (hs _ hmem) (by decide)
  obtain ⟨blanks, hblanks, -, rfl⟩ := h.exists_eq hn hequals
  have hnil : blanks = [] := by
    rw [List.eq_nil_iff_forall_not_mem]
    intro c hc
    have hname := hs c (List.mem_append_right n hc)
    rw [isNameChar_of_isBlank (hblanks c hc)] at hname
    cases hname
  rw [hnil, List.append_nil]

/-- A text that does not mention a name is passed over, up to a sign. -/
lemma firstAttribute?_append_of_not_mentions (hn : IsName n) (hd : isNameChar d = false)
    (hblank : isBlank d = false) (hequals : d ≠ '=') (h : ¬Mentions n (p ++ [d])) :
    firstAttribute? n (p ++ d :: t) = firstAttribute? n (d :: t) := by
  refine firstAttribute?_append fun s _ hs hnamed => ?_
  have hsuffix : s ++ [d] <:+ p ++ [d] := by
    obtain ⟨before, rfl⟩ := hs
    exact ⟨before, by rw [List.append_assoc]⟩
  exact h ⟨s ++ [d], hsuffix, hnamed.of_append hn hd hblank hequals⟩

/-! ## Attributes -/

/-- An attribute with another ending, of which the value, up to the quote that closes it, does not
mention a name. -/
def Passes (n : List Char) (a : Attribute) : Prop :=
  ¬n <:+ a.name ∧ ¬Mentions n (a.value ++ [a.quote])

/-- An attribute with another ending and a value without equals signs passes. -/
lemma passes_of_notMem {a : Attribute} (hname : ¬n <:+ a.name) (hvalue : '=' ∉ a.value) :
    Passes n a := by
  have hequals : '=' ≠ a.quote := by rcases a.quote_eq with hq | hq <;> rw [hq] <;> decide
  exact ⟨hname, not_mentions_of_notMem (by simp [hvalue, hequals])⟩

/-- What is found in an attribute that does not pass, before some text: its own value, if its name
ends in the name that is looked up, or else what stands between two quotes of one kind where its
value mentions this name first. The second of these quotes may stand in the text that follows. -/
inductive Gives (n : List Char) (a : Attribute) (t : List Char) : List Char → Prop
  | ending (h : n <:+ a.name) : Gives n a t a.value
  | mention {lead blanks blanks' inner value after : List Char} {quote : Char}
      (hname : ¬n <:+ a.name) (hlead : ¬Mentions n lead) (hblanks : AllBlank blanks)
      (hblanks' : AllBlank blanks') (hquote : quote = '"' ∨ quote = '\'')
      (hopen : a.value ++ [a.quote] =
        lead ++ (n ++ (blanks ++ '=' :: (blanks' ++ quote :: inner))))
      (hvalue : quote ∉ value) (hclose : inner ++ t = value ++ quote :: after) :
      Gives n a t value

/-- Only the name itself ends what stands before a mention and begins with it. -/
lemma not_namedHere_of_mention {blanks : List Char} (hn : IsName n) (hs : s ≠ [])
    (hblanks : AllBlank blanks) (h : ¬NamedHere n s) :
    ¬NamedHere n (s ++ (n ++ (blanks ++ '=' :: t))) := by
  intro hnamed
  by_cases hequals : '=' ∈ s
  · -- The name is found before the first equals sign, which stands in the text before the mention.
    obtain ⟨first, last, rfl, hfirst⟩ := List.eq_append_cons_of_mem hequals
    rw [List.append_assoc, List.cons_append] at hnamed
    obtain ⟨blanks', hblanks', hquote, rfl⟩ := hnamed.exists_eq hn hfirst
    exact h ⟨blanks', last, hblanks', hquote.of_append hn, by rw [List.append_assoc]⟩
  · -- The name is found at the beginning, so it would stand twice before the blanks.
    have hmiddle : '=' ∉ s ++ (n ++ blanks) := by
      have hb : '=' ∉ blanks := fun hmem => absurd (hblanks _ hmem) (by decide)
      simp [hequals, hn.notMem (d := '=') (by decide), hb]
    have hnamed' : NamedHere n (s ++ (n ++ blanks) ++ '=' :: t) := by simpa using hnamed
    obtain ⟨blanks', hblanks', -, heq⟩ := hnamed'.exists_eq hn hmiddle
    have hcount := congrArg (List.countP (!isBlank ·)) heq
    have hnone : ∀ b : List Char, AllBlank b → b.countP (!isBlank ·) = 0 := by
      intro b hb
      rw [List.countP_eq_zero]
      intro c hc
      simp [hb c hc]
    simp only [List.countP_append, hnone _ hblanks, hnone _ hblanks'] at hcount
    obtain ⟨c, rest, rfl⟩ := List.exists_cons_of_ne_nil hs
    obtain ⟨e, m, rfl⟩ := List.exists_cons_of_ne_nil hn.1
    obtain ⟨rfl, -⟩ := List.cons.inj heq
    have hc : isBlank c = false := by
      refine Bool.eq_false_iff.2 fun hblank => ?_
      exact hn.notMem (isNameChar_of_isBlank hblank) List.mem_cons_self
    rw [List.countP_cons_of_pos (by simp [hc])] at hcount
    omega

/-- Before an equals sign a name is found only where the name that stands there ends in it. -/
lemma firstAttribute?_append_name {m : List Char} (hn : IsName n) (hm : IsName m)
    (h : ¬n <:+ m) : firstAttribute? n (m ++ '=' :: t) = firstAttribute? n ('=' :: t) := by
  refine firstAttribute?_append fun s _ hs hnamed => ?_
  have hchars : ∀ c ∈ s, isNameChar c = true := fun c hc => hm.2 c (hs.subset hc)
  rw [hnamed.eq_of_isName hn hchars] at hs
  exact h hs

/-- A name that is the end of a longer one is not found before that. -/
lemma firstAttribute?_append_ending {lead : List Char} (hn : IsName n) (hm : IsName (lead ++ n)) :
    firstAttribute? n (lead ++ (n ++ '=' :: t)) = firstAttribute? n (n ++ '=' :: t) := by
  refine firstAttribute?_append fun s hne hs hnamed => ?_
  have hchars : ∀ c ∈ s ++ n, isNameChar c = true := by
    intro c hc
    refine hm.2 c ?_
    rw [List.mem_append] at hc ⊢
    exact hc.imp (fun hcs => hs.subset hcs) id
  rw [← List.append_assoc] at hnamed
  have heq := hnamed.eq_of_isName hn hchars
  exact hne (List.append_left_eq_self.1 heq)

/-- The blanks before an attribute are passed over. -/
lemma firstAttribute?_attribute (hn : IsName n) (a : Attribute) :
    firstAttribute? n (a.text ++ t) =
      firstAttribute? n (a.name ++ '=' :: a.quote :: (a.value ++ a.quote :: t)) := by
  have htext : a.text ++ t =
      a.gap ++ (a.name ++ '=' :: a.quote :: (a.value ++ a.quote :: t)) := by
    simp [Attribute.text]
  rw [htext]
  exact firstAttribute?_append_of_forall hn fun c hc => isNameChar_of_isBlank (a.allBlank_gap c hc)

/-- The name of an attribute that does not end in another name is passed over, with the sign and
the quote after it. -/
lemma firstAttribute?_of_not_suffix {a : Attribute} (hn : IsName n) (h : ¬n <:+ a.name) :
    firstAttribute? n (a.text ++ t) = firstAttribute? n (a.value ++ a.quote :: t) := by
  have hsigns : ∀ c ∈ ['=', a.quote], isNameChar c = false := by
    simpa using ⟨by decide, a.isNameChar_quote⟩
  have hskip := firstAttribute?_append_of_forall (t := a.value ++ a.quote :: t) hn hsigns
  rw [firstAttribute?_attribute hn, firstAttribute?_append_name hn a.isName h]
  exact hskip

/-- An attribute that passes is passed over. -/
lemma firstAttribute?_of_passes {a : Attribute} (hn : IsName n) (h : Passes n a) :
    firstAttribute? n (a.text ++ t) = firstAttribute? n t := by
  have hblank : isBlank a.quote = false := by rcases a.quote_eq with hq | hq <;> rw [hq] <;> decide
  have hequals : a.quote ≠ '=' := by rcases a.quote_eq with hq | hq <;> rw [hq] <;> decide
  have hquote : ∀ c ∈ [a.quote], isNameChar c = false := by simpa using a.isNameChar_quote
  rw [firstAttribute?_of_not_suffix hn h.1,
    firstAttribute?_append_of_not_mentions hn a.isNameChar_quote hblank hequals h.2]
  exact firstAttribute?_append_of_forall hn hquote

/-- What an attribute that does not pass gives is found. -/
lemma firstAttribute?_of_gives {a : Attribute} {value : List Char} (hn : IsName n)
    (h : Gives n a t value) : firstAttribute? n (a.text ++ t) = some value := by
  cases h with
  | ending hname =>
    obtain ⟨lead, hlead⟩ := hname
    have hm : IsName (lead ++ n) := by
      rw [hlead]
      exact a.isName
    have hhere : attributeHere? n (n ++ '=' :: a.quote :: (a.value ++ a.quote :: t)) =
        some a.value :=
      attributeHere?_quoted allBlank_nil allBlank_nil a.quote_eq a.quote_notMem t
    rw [firstAttribute?_attribute hn, ← hlead, List.append_assoc,
      firstAttribute?_append_ending hn hm]
    exact firstAttribute?_of_attributeHere? (by simp [hn.1]) hhere
  | @mention lead blanks blanks' inner value after quote hname hlead hblanks hblanks' hquote hopen
      hvalue hclose =>
    have hpass : ∀ s, s ≠ [] → s <:+ lead →
        ¬NamedHere n (s ++ (n ++ (blanks ++ '=' :: (blanks' ++ quote :: (value ++ quote ::
          after))))) := by
      intro s hne hs
      exact not_namedHere_of_mention hn hne hblanks fun hnamed => hlead ⟨s, hs, hnamed⟩
    have hhere := attributeHere?_quoted (n := n) hblanks hblanks' hquote hvalue after
    have htext : a.value ++ a.quote :: t = lead ++ (n ++ (blanks ++ '=' :: (blanks' ++ quote ::
        (value ++ quote :: after)))) := by
      rw [List.append_cons, hopen, ← hclose]
      simp
    rw [firstAttribute?_of_not_suffix hn hname, htext, firstAttribute?_append hpass]
    exact firstAttribute?_of_attributeHere? (by simp [hn.1]) hhere

/-! ## Lookups in a tag -/

/-- What follows the name of a tag. -/
def Tag.rest (tag : Tag) : List Char := tag.attributes.flatMap Attribute.text ++ tag.ending

/-- No character at the end of a tag may stand in names. -/
lemma Tag.isNameChar_of_mem_ending {tag : Tag} {c : Char} (h : c ∈ tag.ending) :
    isNameChar c = false := by
  rw [Tag.ending, List.mem_append] at h
  rcases h with h | h
  · exact isNameChar_of_isBlank (tag.allBlank_trail c h)
  · have hends : isNameChar '/' = false ∧ isNameChar '>' = false := by decide
    split at h
    · obtain rfl | rfl : c = '/' ∨ c = '>' := by simpa using h
      · exact hends.1
      · exact hends.2
    · obtain rfl := List.mem_singleton.1 h
      exact hends.2

/-- The name of a tag ends where what follows it begins. -/
lemma Tag.isNameChar_of_mem_head?_rest {tag : Tag} {c : Char} (h : c ∈ tag.rest.head?) :
    isNameChar c = false := by
  rw [Tag.rest] at h
  cases hattributes : tag.attributes with
  | nil =>
    rw [hattributes, List.flatMap_nil, List.nil_append] at h
    exact Tag.isNameChar_of_mem_ending (List.mem_of_mem_head? h)
  | cons a as =>
    obtain ⟨b, gap, hgap⟩ := List.exists_cons_of_ne_nil a.gap_ne_nil
    have hb : isBlank b = true := a.allBlank_gap b (by rw [hgap]; exact List.mem_cons_self)
    rw [hattributes, List.flatMap_cons, Attribute.text, hgap] at h
    obtain rfl : b = c := by simpa using h
    exact isNameChar_of_isBlank hb

/-- After the name of a tag and blanks comes no equals sign. -/
lemma Tag.ne_of_mem_head?_trimStart_rest {tag : Tag} {c : Char}
    (h : c ∈ (trimStart tag.rest).head?) : c ≠ '=' := by
  rw [Tag.rest] at h
  cases hattributes : tag.attributes with
  | nil =>
    have hends : ∀ d ∈ (if tag.slash then ['/', '>'] else ['>']).head?,
        isBlank d = false ∧ d ≠ '=' := by
      intro d hd
      have hsign : d = '/' ∨ d = '>' := by
        cases hslash : tag.slash with
        | true => exact .inl (by simpa [hslash, eq_comm] using hd)
        | false => exact .inr (by simpa [hslash, eq_comm] using hd)
      rcases hsign with rfl | rfl <;> decide
    have htrim : trimStart tag.ending = if tag.slash then ['/', '>'] else ['>'] := by
      rw [Tag.ending, trimStart, List.dropWhile_append_of_pos tag.allBlank_trail]
      exact dropWhile_isBlank fun d hd => (hends d hd).1
    rw [hattributes, List.flatMap_nil, List.nil_append, htrim] at h
    exact (hends c h).2
  | cons a as =>
    obtain ⟨d, name, hname⟩ := List.exists_cons_of_ne_nil a.isName.1
    have hd : isNameChar d = true := a.isName.2 d (by rw [hname]; exact List.mem_cons_self)
    have hblank : isBlank d = false := by
      refine Bool.eq_false_iff.2 fun hblank => ?_
      rw [isNameChar_of_isBlank hblank] at hd
      cases hd
    rw [hattributes, List.flatMap_cons, Attribute.text, hname] at h
    simp only [List.append_assoc, List.cons_append] at h
    rw [trimStart_append_cons a.allBlank_gap hblank] at h
    obtain rfl : d = c := by simpa using h
    rintro rfl
    exact absurd hd (by decide)

/-- The name of a tag is passed over. -/
lemma Tag.firstAttribute?_text (hn : IsName n) (tag : Tag) :
    firstAttribute? n tag.text = firstAttribute? n tag.rest := by
  have hopen : ∀ c ∈ ['<'], isNameChar c = false := List.forall_mem_singleton.2 (by decide)
  have hskip := firstAttribute?_append_of_forall (t := tag.name ++ tag.rest) hn hopen
  refine hskip.trans (firstAttribute?_append fun s hne hs => ?_)
  rintro ⟨blanks, after, hblanks, -, heq⟩
  have hequals : ∀ m r : List Char, m ++ r = blanks ++ '=' :: after → m ≠ [] →
      ∃ c ∈ m, isNameChar c = false := by
    intro m r hm hne
    obtain ⟨c, m, rfl⟩ := List.exists_cons_of_ne_nil hne
    refine ⟨c, List.mem_cons_self, ?_⟩
    cases blanks with
    | nil =>
      obtain ⟨rfl, -⟩ := List.cons.inj hm
      decide
    | cons b blanks =>
      obtain ⟨rfl, -⟩ := List.cons.inj hm
      exact isNameChar_of_isBlank (hblanks _ List.mem_cons_self)
  have hfull : tag.rest ≠ blanks ++ '=' :: after := by
    intro hrest
    have hhead : '=' ∈ (trimStart tag.rest).head? := by
      rw [hrest, trimStart_append_cons hblanks (by decide)]
      exact List.head?_cons
    exact Tag.ne_of_mem_head?_trimStart_rest hhead rfl
  rcases List.append_eq_append_iff.1 heq with ⟨m, hm, hrest⟩ | ⟨m, hm, hrest⟩
  · -- The name that is looked up goes on past the name of the tag.
    cases m with
    | nil => exact hfull hrest
    | cons c m =>
      have hc : isNameChar c = false := Tag.isNameChar_of_mem_head?_rest (by rw [hrest]; rfl)
      exact hn.notMem hc (by rw [hm]; simp)
  · -- The name that is looked up ends in the name of the tag.
    by_cases hnil : m = []
    · rw [hnil, List.nil_append] at hrest
      exact hfull hrest.symm
    · obtain ⟨c, hc, hsign⟩ := hequals m tag.rest hrest.symm hnil
      have hmem : c ∈ tag.name := hs.subset (by rw [hm]; exact List.mem_append_right n hc)
      exact tag.isName.notMem hsign hmem

/-- Attributes that pass are passed over. -/
lemma firstAttribute?_flatMap {as : List Attribute} (hn : IsName n) (h : ∀ a ∈ as, Passes n a) :
    firstAttribute? n (as.flatMap Attribute.text ++ t) = firstAttribute? n t := by
  induction as with
  | nil => rw [List.flatMap_nil, List.nil_append]
  | cons a as ih =>
    obtain ⟨ha, has⟩ := List.forall_mem_cons.1 h
    rw [List.flatMap_cons, List.append_assoc, firstAttribute?_of_passes hn ha, ih has]

/-- Nothing is found in a tag of which all attributes pass. -/
lemma Tag.attribute?_of_passes {name : String} {tag : Tag} (hn : IsName name.toList)
    (h : ∀ a ∈ tag.attributes, Passes name.toList a) : attribute? name tag.text = none := by
  have hsigns : ∀ c ∈ tag.ending, isNameChar c = false :=
    fun c hc => Tag.isNameChar_of_mem_ending hc
  have hending := firstAttribute?_append_of_forall (t := []) hn hsigns
  rw [List.append_nil] at hending
  rw [attribute?, Tag.firstAttribute?_text hn, Tag.rest, firstAttribute?_flatMap hn h, hending]
  rfl

/-- The first attribute of a tag that does not pass decides what is found. -/
lemma Tag.attribute?_of_gives {name : String} {tag : Tag} {before after : List Attribute}
    {a : Attribute} {value : List Char} (hn : IsName name.toList)
    (htag : tag.attributes = before ++ a :: after) (hbefore : ∀ b ∈ before, Passes name.toList b)
    (h : Gives name.toList a (after.flatMap Attribute.text ++ tag.ending) value) :
    attribute? name tag.text = (nonBlank? value).map String.ofList := by
  have hrest : tag.rest = before.flatMap Attribute.text ++
      (a.text ++ (after.flatMap Attribute.text ++ tag.ending)) := by
    rw [Tag.rest, htag, List.flatMap_append, List.flatMap_cons, List.append_assoc,
      List.append_assoc]
  have hfirst : firstAttribute? name.toList tag.text = some value := by
    rw [Tag.firstAttribute?_text hn, hrest, firstAttribute?_flatMap hn hbefore]
    exact firstAttribute?_of_gives hn h
  rw [attribute?, hfirst]
  rfl

/-- An attribute is found if the attributes before it pass, and nothing is found if there is none
with the name and all pass. -/
lemma Tag.attribute?_eq {name : String} {tag : Tag} (hn : IsName name.toList)
    (h : ∀ a ∈ tag.attributes.takeWhile (·.name ≠ name.toList), Passes name.toList a) :
    attribute? name tag.text = ((tag.attributes.find? (·.name = name.toList)).bind
      fun a => nonBlank? a.value).map String.ofList := by
  cases hfind : tag.attributes.find? (·.name = name.toList) with
  | none =>
    have hall : tag.attributes.takeWhile (·.name ≠ name.toList) = tag.attributes := by
      rw [List.takeWhile_eq_self_iff]
      intro a ha
      simpa using List.find?_eq_none.1 hfind a ha
    rw [hall] at h
    exact Tag.attribute?_of_passes hn h
  | some a =>
    obtain ⟨hname, before, after, htag, hbefore⟩ := List.find?_eq_some_iff_append.1 hfind
    have hothers : tag.attributes.takeWhile (·.name ≠ name.toList) = before := by
      rw [htag, List.takeWhile_append_of_pos (by simpa using hbefore),
        List.takeWhile_cons_of_neg (by simpa using hname), List.append_nil]
    rw [hothers] at h
    have hsuffix : name.toList <:+ a.name := ⟨[], (of_decide_eq_true hname).symm⟩
    exact Tag.attribute?_of_gives hn htag h (.ending hsuffix)

/-- An attribute of a tag is found by its name, and nothing is found if it is missing, provided that
no attribute before it has a longer name that ends in this one, or a value that mentions it with an
equals sign and a quote. The first attribute that is of this kind is found instead: its value, or
what is quoted after the place where its value mentions the name. -/
theorem attributes_by_ending (tag : Tag) {name : String} (hn : IsName name.toList) :
    ((∀ a ∈ tag.attributes.takeWhile (·.name ≠ name.toList), Passes name.toList a) →
      attribute? name tag.text = ((tag.attributes.find? (·.name = name.toList)).bind
        fun a => nonBlank? a.value).map String.ofList) ∧
    (∀ before a after value, tag.attributes = before ++ a :: after →
      (∀ b ∈ before, Passes name.toList b) →
      Gives name.toList a (after.flatMap Attribute.text ++ tag.ending) value →
      attribute? name tag.text = (nonBlank? value).map String.ofList) := by
  refine ⟨Tag.attribute?_eq hn, ?_⟩
  intro before a after value htag hbefore hgives
  exact Tag.attribute?_of_gives hn htag hbefore hgives

/-- An attribute with a value that mentions another with an equals sign, but without a quote. -/
def linkAttribute : Attribute :=
  ⟨[' '], "link".toList, '"', "https://e/?url=a.zip".toList, by decide, by decide,
    by decide +kernel, by decide, by decide, by decide⟩

/-- An attribute of which the name ends in that of another. -/
def deltaAttribute : Attribute :=
  ⟨[' '], "deltaurl".toList, '"', "https://e/d.delta".toList, by decide, by decide,
    by decide +kernel, by decide, by decide, by decide⟩

/-- An attribute of which the value mentions another with a quoted value. -/
def titleAttribute : Attribute :=
  ⟨[' '], "title".toList, '"', "was url = 'https://e/b.zip'".toList, by decide, by decide,
    by decide +kernel, by decide, by decide, by decide⟩

/-- The attribute that is looked up. -/
def urlAttribute : Attribute :=
  ⟨['\n', ' '], "url".toList, '\'', " https://e/a.zip ".toList, by decide, by decide,
    by decide +kernel, by decide, by decide, by decide⟩

/-- A tag with a link that has a URL for a part. -/
def linkedTag : Tag :=
  ⟨"enclosure".toList, [linkAttribute, urlAttribute], [' '], true, by decide +kernel, by decide⟩

/-- A tag that gives a URL for an update from an older release before the one of the release. -/
def updateTag : Tag :=
  ⟨"enclosure".toList, [linkAttribute, deltaAttribute, urlAttribute], [' '], true,
    by decide +kernel, by decide⟩

/-- A tag with a title that mentions a URL. -/
def titledTag : Tag :=
  ⟨"enclosure".toList, [titleAttribute, urlAttribute], [], false, by decide +kernel, by decide⟩

/-- A URL is found after an attribute that passes. It is found in a longer name before it, and in a
value before it that mentions it. -/
theorem attributes_by_ending_update :
    attribute? "url" linkedTag.text = some "https://e/a.zip" ∧
    attribute? "url" updateTag.text = some "https://e/d.delta" ∧
    attribute? "url" titledTag.text = some "https://e/b.zip" := by
  have hurl : IsName "url".toList := by decide +kernel
  have hlink : Passes "url".toList linkAttribute := ⟨by decide, by decide +kernel⟩
  have hpasses : ∀ b ∈ [linkAttribute], Passes "url".toList b := List.forall_mem_singleton.2 hlink
  refine ⟨?_, ?_, ?_⟩
  · have hfound := (attributes_by_ending linkedTag hurl).1 hpasses
    exact hfound.trans (by decide +kernel)
  · have hgives : Gives "url".toList deltaAttribute
        ([urlAttribute].flatMap Attribute.text ++ updateTag.ending) deltaAttribute.value :=
      .ending (by decide)
    have hfound := (attributes_by_ending updateTag hurl).2 [linkAttribute] deltaAttribute
      [urlAttribute] _ rfl hpasses hgives
    exact hfound.trans (by decide +kernel)
  · have hlead : ¬Mentions "url".toList "was ".toList := not_mentions_of_notMem (by decide)
    have hspace : AllBlank [' '] := by decide
    have hopen : titleAttribute.value ++ [titleAttribute.quote] = "was ".toList ++ ("url".toList ++
        ([' '] ++ '=' :: ([' '] ++ '\'' :: ("https://e/b.zip".toList ++ ['\'', '"'])))) := by
      decide +kernel
    have hgives : Gives "url".toList titleAttribute
        ([urlAttribute].flatMap Attribute.text ++ titledTag.ending) "https://e/b.zip".toList :=
      .mention (by decide) hlead hspace hspace (.inr rfl) hopen (by decide)
        (List.append_assoc _ ['\'', '"'] _)
    have hfound := (attributes_by_ending titledTag hurl).2 [] titleAttribute [urlAttribute] _ rfl
      (List.forall_mem_nil _) hgives
    exact hfound.trans (by decide +kernel)

/-- A value is returned that is not the one of the attribute with the name: that of an attribute
with a longer name, or text inside the value of another attribute. -/
theorem attributes_not_by_name :
    (updateTag.attributes.find? (·.name = "url".toList)).map (·.value) =
      some " https://e/a.zip ".toList ∧
    attribute? "url" updateTag.text = some "https://e/d.delta" ∧
    (titledTag.attributes.find? (·.name = "url".toList)).map (·.value) =
      some " https://e/a.zip ".toList ∧
    attribute? "url" titledTag.text = some "https://e/b.zip" := by
  decide +kernel

end CaskAudit.Markup
