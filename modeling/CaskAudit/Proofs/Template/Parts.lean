import CaskAudit.Proofs.Results
import CaskAudit.Proofs.Text.Cutting
import CaskAudit.Proofs.Text.Trimming
import CaskAudit.Template
import Mathlib.Data.List.Chain

/-!
# The parts of a template

A template is written as literals and references in turn. `WellFormed` says which sequences of parts
may be written so: the literals are not empty, none of them holds the opening of a reference, and no
two of them stand side by side. A text is read as a template exactly if it is such a sequence
written out (`segmentsOf_eq_ok_iff`), and it is so in one way only (`WellFormed.eq_of_write_eq`).
-/

namespace CaskAudit

open Text

/-! ## Chains of methods -/

/-- A method is found by its name and by no other text. -/
lemma Method.ofName_eq_ok_iff {name : List Char} {m : Method} :
    ofName name = .ok m ↔ name = m.name.toList := by
  unfold ofName
  constructor
  · intro h
    split at h
    · next found hfound =>
      cases h
      have hname : m.name.toList = name := by simpa using List.find?_some hfound
      exact hname.symm
    · cases h
  · rintro rfl
    cases m <;> rfl

namespace Template

/-- The words of a reference. -/
def words (ms : List Method) : List (List Char) :=
  "version".toList :: ms.map fun m => m.name.toList

/-- A reference is its words with dots between them. -/
lemma toList_reference (ms : List Method) : (reference ms).toList = joinWith ['.'] (words ms) := by
  have hfold : ∀ first : String,
      (ms.foldl (fun text m => text ++ "." ++ m.name) first).toList =
        joinWith ['.'] (first.toList :: ms.map fun m => m.name.toList) := by
    induction ms with
    | nil => exact fun _ => rfl
    | cons m ms ih =>
      intro first
      rw [List.foldl_cons, ih]
      cases ms <;> simp [joinWith]
  exact hfold "version"

/-- The words of a reference have neither blanks nor dots nor braces. -/
lemma plain_of_mem_words {ms : List Method} {t : List Char} (ht : t ∈ words ms) {c : Char}
    (hc : c ∈ t) : isBlank c = false ∧ c ≠ '.' ∧ c ≠ '\x7d' := by
  have hall : (t.all fun c => !isBlank c && c != '.' && c != '\x7d') = true := by
    rcases List.mem_cons.1 ht with rfl | ht
    · decide
    · obtain ⟨m, -, rfl⟩ := List.mem_map.1 ht
      cases m <;> decide
  simpa [and_assoc] using List.all_eq_true.1 hall c hc

/-- A reference has neither blanks nor braces. -/
lemma plain_of_mem_reference {ms : List Method} {c : Char} (hc : c ∈ (reference ms).toList) :
    isBlank c = false ∧ c ≠ '\x7d' := by
  rw [toList_reference] at hc
  rcases mem_joinWith hc with hc | ⟨t, ht, hc⟩
  · rw [List.mem_singleton.1 hc]
    decide
  · have hplain := plain_of_mem_words ht hc
    exact ⟨hplain.1, hplain.2.2⟩

/-- Trimming takes nothing from a reference. -/
lemma trim_reference (ms : List Method) : trim (reference ms).toList = (reference ms).toList :=
  trim_of_forall fun _ hc => (plain_of_mem_reference hc).1

/-- The names of methods are read as the methods. -/
lemma methodsOf_map (ms : List Method) : methodsOf (ms.map fun m => m.name.toList) = .ok ms := by
  induction ms with
  | nil => rfl
  | cons m ms ih => rw [List.map_cons, methodsOf, Method.ofName_eq_ok_iff.2 rfl, ih]; rfl

/-- Only the names of methods are read as methods. -/
lemma eq_map_of_methodsOf {names : List (List Char)} {ms : List Method}
    (h : methodsOf names = .ok ms) : names = ms.map fun m => m.name.toList := by
  induction names generalizing ms with
  | nil =>
    cases h
    rfl
  | cons name names ih =>
    rw [methodsOf] at h
    split at h
    · cases h
    · next m hm =>
      obtain ⟨ms', hms', rfl⟩ := map_eq_ok_iff.1 h
      rw [ih hms', Method.ofName_eq_ok_iff.1 hm]
      rfl

/-- The text between the braces is read as a chain of methods exactly if it is the reference with
blanks on both sides. -/
lemma readReference_eq_ok_iff {source : String} {expr : List Char} {ms : List Method} :
    readReference source expr = .ok ms ↔ trim expr = (reference ms).toList := by
  rw [toList_reference]
  unfold readReference
  constructor
  · intro h
    split at h
    · next head names hwords =>
      split at h
      · next hhead =>
        rw [← joinWith_splitOn '.' (trim expr), hwords, hhead, eq_map_of_methodsOf h, words]
      · cases h
    · cases h
  · intro h
    have hwords : splitOn '.' (trim expr) = words ms := by
      rw [h]
      refine splitOn_joinWith (List.cons_ne_nil _ _) fun t ht hdot => ?_
      exact (plain_of_mem_words ht hdot).2.1 rfl
    rw [hwords]
    exact methodsOf_map ms

/-! ## Parts -/

/-- A part of a template as it is written: a literal text, or a chain of methods with the blanks
before and after it. -/
inductive Part where
  | literal (text : List Char)
  | chain (before : List Char) (methods : List Method) (after : List Char)
  deriving DecidableEq, Repr

namespace Part

/-- The text of a part. -/
def write : Part → List Char
  | literal text => text
  | chain before ms after =>
    opening ++ (before ++ ((reference ms).toList ++ (after ++ ['\x7d'])))

/-- What is read for a part. -/
def segment : Part → Segment
  | literal text => .literal text
  | chain _ ms _ => .version ms

/-- A literal is not empty and holds no opening of a reference; a chain stands between blanks. -/
def Sound : Part → Prop
  | literal text => text ≠ [] ∧ ¬opening <:+: text
  | chain before _ after => AllBlank before ∧ AllBlank after

/-- Whether a part is a literal. -/
def isLiteral : Part → Bool
  | literal _ => true
  | chain _ _ _ => false

end Part

/-- Sound parts, of which no two literals stand side by side. -/
structure WellFormed (parts : List Part) : Prop where
  sound : ∀ p ∈ parts, p.Sound
  separate : parts.IsChain fun p q => ¬(p.isLiteral = true ∧ q.isLiteral = true)

/-- The text of parts. -/
def write (parts : List Part) : List Char := parts.flatMap Part.write

/-- A part is written before the parts after it. -/
lemma write_cons (p : Part) (parts : List Part) : write (p :: parts) = p.write ++ write parts :=
  List.flatMap_cons

variable {source : String} {parts parts' : List Part} {p : Part} {s lead : List Char}
  {segments : List Segment}

/-- No parts are well-formed. -/
lemma wellFormed_nil : WellFormed [] := ⟨List.forall_mem_nil _, .nil⟩

/-- The parts after the first one are well-formed. -/
lemma WellFormed.tail (h : WellFormed (p :: parts)) : WellFormed parts :=
  ⟨fun q hq => h.sound q (List.mem_cons_of_mem _ hq), h.separate.tail⟩

/-- A sound part may stand before well-formed ones, if it is no literal or the first of them is
none. -/
lemma WellFormed.cons (h : WellFormed parts) (hp : p.Sound)
    (hsep : ∀ q ∈ parts.head?, ¬(p.isLiteral = true ∧ q.isLiteral = true)) :
    WellFormed (p :: parts) :=
  ⟨List.forall_mem_cons.2 ⟨hp, h.sound⟩, List.isChain_cons.2 ⟨hsep, h.separate⟩⟩

/-! ## Reading -/

/-- A text without the opening of a reference is a literal. -/
lemma segmentsOf_of_not_infix (hs : ¬opening <:+: s) :
    segmentsOf source s = .ok (literalPart s) := by
  rw [segmentsOf]
  split
  · rfl
  · next hbreak =>
    rw [breakOn?_eq_none_iff.2 hs] at hbreak
    cases hbreak

/-- What stands before a reference is a literal, and what stands after it is read by itself. -/
lemma segmentsOf_append {expr : List Char} {ms : List Method} (hlead : ¬opening <:+: lead)
    (hexpr : '\x7d' ∉ expr) (hms : readReference source expr = .ok ms) (rest : List Char) :
    segmentsOf source (lead ++ (opening ++ (expr ++ '\x7d' :: rest))) =
      (segmentsOf source rest).map fun segments => literalPart lead ++ .version ms :: segments := by
  have hbreak : breakOn? opening (lead ++ (opening ++ (expr ++ '\x7d' :: rest))) =
      some (lead, expr ++ '\x7d' :: rest) :=
    breakOn?_append (by decide) hlead _
  have hsplit := splitFirst?_append hexpr rest
  rw [segmentsOf]
  split
  · next hnone =>
    rw [hbreak] at hnone
    cases hnone
  · next before after hsome =>
    obtain ⟨rfl, rfl⟩ : lead = before ∧ expr ++ '\x7d' :: rest = after := by
      simpa [hbreak] using hsome
    split
    · next hnone =>
      rw [hsplit] at hnone
      cases hnone
    · next expr' rest' hsome =>
      obtain ⟨rfl, rfl⟩ : expr = expr' ∧ rest = rest' := by
        simpa [hsplit] using hsome
      rw [hms]
      cases segmentsOf source rest <;> rfl

/-- A literal is a part, unless it is empty. -/
def literalParts (text : List Char) : List Part :=
  if text.isEmpty then [] else [.literal text]

/-- The text of a literal before parts. -/
lemma write_literalParts_append (text : List Char) (parts : List Part) :
    write (literalParts text ++ parts) = text ++ write parts := by
  cases text <;> rfl

/-- What is read for a literal before parts. -/
lemma map_literalParts_append (text : List Char) (parts : List Part) :
    (literalParts text ++ parts).map Part.segment = literalPart text ++ parts.map Part.segment := by
  cases text <;> rfl

/-- A literal may stand before parts that begin with none. -/
lemma WellFormed.literalParts_append (h : WellFormed parts) {text : List Char}
    (htext : ¬opening <:+: text) (hsep : ∀ q ∈ parts.head?, q.isLiteral = false) :
    WellFormed (literalParts text ++ parts) := by
  cases text with
  | nil => exact h
  | cons c text =>
    refine h.cons ⟨List.cons_ne_nil _ _, htext⟩ fun q hq hboth => ?_
    rw [hsep q hq] at hboth
    cases hboth.2

/-- A text that is read as a template is made of parts. -/
lemma exists_parts (h : segmentsOf source s = .ok segments) :
    ∃ parts, WellFormed parts ∧ write parts = s ∧ segments = parts.map Part.segment := by
  fun_induction segmentsOf source s generalizing segments with
  | case1 s hopen =>
    cases h
    refine ⟨literalParts s ++ [], ?_, ?_, ?_⟩
    · exact wellFormed_nil.literalParts_append (breakOn?_eq_none_iff.1 hopen) nofun
    · rw [write_literalParts_append]
      exact List.append_nil s
    · rw [map_literalParts_append]
      exact (List.append_nil _).symm
  | case2 => cases h
  | case3 => cases h
  | case4 => cases h
  | case5 s lead after hopen expr rest hclose methods hms _ segments' hrest ih =>
    cases h
    obtain ⟨parts, hparts, rfl, rfl⟩ := ih hrest
    obtain ⟨rfl, hlead⟩ := (breakOn?_eq_some_iff (by decide)).1 hopen
    obtain ⟨rfl, -⟩ := splitFirst?_eq_some_iff.1 hclose
    obtain ⟨before, after, hbefore, hafter, hexpr⟩ := exists_trim expr
    rw [readReference_eq_ok_iff.1 hms] at hexpr
    have hchain : WellFormed (.chain before methods after :: parts) :=
      hparts.cons ⟨hbefore, hafter⟩ fun _ _ hboth => nomatch hboth.1
    refine ⟨literalParts lead ++ .chain before methods after :: parts, ?_, ?_, ?_⟩
    · exact hchain.literalParts_append hlead fun _ hq => by cases hq; rfl
    · rw [write_literalParts_append, hexpr]
      simp [write, Part.write, opening]
    · rw [map_literalParts_append]
      rfl

/-- What stands between the braces of a sound part has no closing brace and is read as the chain. -/
lemma Part.Sound.expr {before after : List Char} {ms : List Method}
    (h : (Part.chain before ms after).Sound) (source : String) :
    '\x7d' ∉ before ++ ((reference ms).toList ++ after) ∧
      readReference source (before ++ ((reference ms).toList ++ after)) = .ok ms := by
  obtain ⟨hbefore, hafter⟩ := h
  constructor
  · have hblank : isBlank '\x7d' = false := by decide
    rw [List.mem_append, List.mem_append]
    rintro (hmem | hmem | hmem)
    · exact Bool.false_ne_true (hblank.symm.trans (hbefore _ hmem))
    · exact (plain_of_mem_reference hmem).2 rfl
    · exact Bool.false_ne_true (hblank.symm.trans (hafter _ hmem))
  · rw [readReference_eq_ok_iff, trim_append hbefore hafter, trim_reference]

/-- What parts write is read as the parts, after a literal that does not go on in the first of
them. -/
lemma segmentsOf_write (h : WellFormed parts) (hlead : ¬opening <:+: lead)
    (hsep : ∀ q ∈ parts.head?, q.isLiteral = true → lead = []) :
    segmentsOf source (lead ++ write parts) =
      .ok (literalPart lead ++ parts.map Part.segment) := by
  -- A literal is read only with what follows it, so it waits in front until the next reference.
  induction parts generalizing lead with
  | nil =>
    have hwrite : write [] = [] := rfl
    rw [hwrite, List.append_nil, segmentsOf_of_not_infix hlead, List.map_nil, List.append_nil]
  | cons p parts ih =>
    have hp := h.sound p List.mem_cons_self
    rw [write_cons]
    cases p with
    | literal text =>
      obtain rfl : lead = [] := hsep _ rfl rfl
      have hnext : ∀ q ∈ parts.head?, q.isLiteral = true → text = [] := fun q hq hliteral =>
        absurd ⟨rfl, hliteral⟩ ((List.isChain_cons.1 h.separate).1 q hq)
      have htext : literalPart text = [.literal text] := by
        simp [literalPart, hp.1]
      rw [List.nil_append, Part.write, ih h.tail hp.2 hnext, htext]
      rfl
    | chain before ms after =>
      have hnil : ¬opening <:+: [] := by decide
      have hrest := ih h.tail hnil fun _ _ _ => rfl
      obtain ⟨hbrace, hread⟩ := hp.expr source
      have happend := segmentsOf_append hlead hbrace hread (write parts)
      rw [List.nil_append] at hrest
      rw [hrest] at happend
      simpa [Part.write, Part.segment, literalPart, Except.map] using happend

/-- A text is read as a template exactly if it is written as well-formed parts, and then it is read
as the parts. -/
theorem segmentsOf_eq_ok_iff : segmentsOf source s = .ok segments ↔
    ∃ parts, WellFormed parts ∧ write parts = s ∧ segments = parts.map Part.segment := by
  constructor
  · exact exists_parts
  · rintro ⟨parts, hparts, rfl, rfl⟩
    have hnil : ¬opening <:+: [] := by decide
    exact segmentsOf_write hparts hnil fun _ _ _ => rfl

/-- A template is read from a text exactly if the text is written as well-formed parts. -/
theorem parse_eq_ok_iff {t : Template} : parse source = .ok t ↔ t.source = source ∧
    ∃ parts, WellFormed parts ∧ write parts = source.toList ∧
      t.segments = parts.map Part.segment := by
  rw [parse, map_eq_ok_iff]
  constructor
  · rintro ⟨segments, h, rfl⟩
    exact ⟨rfl, segmentsOf_eq_ok_iff.1 h⟩
  · rintro ⟨rfl, h⟩
    exact ⟨t.segments, segmentsOf_eq_ok_iff.2 h, rfl⟩

/-! ## Uniqueness -/

/-- A reference begins with no blank. -/
lemma head?_reference_append (ms : List Method) (t : List Char) :
    ∀ c ∈ ((reference ms).toList ++ t).head?, isBlank c = false := by
  intro c hc
  obtain ⟨rest, hrest⟩ : ∃ rest, (reference ms).toList = 'v' :: rest := by
    rw [toList_reference]
    cases ms <;> exact ⟨_, rfl⟩
  rw [hrest] at hc
  obtain rfl := Option.some.inj hc
  rfl

/-- Parts that are read alike and write the same are the same. -/
lemma eq_of_map_segment_eq (h : ∀ p ∈ parts, p.Sound) (h' : ∀ p ∈ parts', p.Sound)
    (hsegments : parts.map Part.segment = parts'.map Part.segment)
    (hwrite : write parts = write parts') : parts = parts' := by
  induction parts generalizing parts' with
  | nil => exact (List.map_eq_nil_iff.1 hsegments.symm).symm
  | cons p parts ih =>
    obtain ⟨p', parts', rfl⟩ : ∃ p' ps', parts' = p' :: ps' := by
      cases parts' with
      | nil => cases hsegments
      | cons p' parts' => exact ⟨p', parts', rfl⟩
    obtain ⟨hp, hparts⟩ := List.forall_mem_cons.1 h
    obtain ⟨hp', hparts'⟩ := List.forall_mem_cons.1 h'
    obtain ⟨hsegment, htail⟩ := List.cons.inj hsegments
    rw [write_cons, write_cons] at hwrite
    cases p with
    | literal text =>
      cases p' with
      | literal text' =>
        obtain rfl := Segment.literal.inj hsegment
        rw [ih hparts hparts' htail (List.append_cancel_left hwrite)]
      | chain _ _ _ => cases hsegment
    | chain before ms after =>
      cases p' with
      | literal _ => cases hsegment
      | chain before' ms' after' =>
        obtain rfl := Segment.version.inj hsegment
        have hbrace : ∀ w : List Char, ∀ c ∈ ('\x7d' :: w).head?, isBlank c = false := by
          rintro w c hc
          obtain rfl := Option.some.inj hc
          rfl
        simp only [Part.write, List.append_assoc, List.append_cancel_left_eq,
          List.singleton_append] at hwrite
        obtain ⟨rfl, hrest⟩ := AllBlank.append_cancel hp.1 hp'.1 (head?_reference_append ms _)
          (head?_reference_append ms _) hwrite
        obtain ⟨rfl, hclosed⟩ := AllBlank.append_cancel hp.2 hp'.2 (hbrace _) (hbrace _)
          (List.append_cancel_left hrest)
        rw [ih hparts hparts' htail (List.cons.inj hclosed).2]

/-- Well-formed parts can be told from their text. -/
theorem WellFormed.eq_of_write_eq (h : WellFormed parts) (h' : WellFormed parts')
    (hwrite : write parts = write parts') : parts = parts' := by
  have hread : segmentsOf "" (write parts) = .ok (parts.map Part.segment) :=
    segmentsOf_eq_ok_iff.2 ⟨parts, h, rfl, rfl⟩
  have hread' : segmentsOf "" (write parts') = .ok (parts'.map Part.segment) :=
    segmentsOf_eq_ok_iff.2 ⟨parts', h', rfl, rfl⟩
  rw [hwrite, hread'] at hread
  exact eq_of_map_segment_eq h.sound h'.sound (Except.ok.inj hread).symm hwrite

end Template

end CaskAudit
