import CaskAudit.Proofs.Lexeme.Printing
import CaskAudit.Proofs.Text.Trimming

/-!
# Where lexemes stand

A text is cut into pieces, each a gap of blanks and comments and the spelling of a lexeme after it
(`Cuts`). A scan finds the lexemes of the pieces and places each on the line of the first character
of its spelling, which is one more than the line breaks before that character (`located`); where it
stops, it tells the line of the character behind the pieces, which begins no spelling
(`told_scanFrom`).

The scan itself counts the line breaks of the lexemes, not those of the text. The counts agree
because a spelling has the line breaks of its lexeme (`Spells.count_newline`), although a string is
written with backslashes that are not part of it, and because gaps have none.
-/

namespace CaskAudit.Lexeme

open Text

/-! ## Spellings -/

/-- The text of a string as it is written between its quotes. -/
inductive Quotes (quote : Char) : List Char → List Char → Prop
  | nil : Quotes quote [] []
  | plain {c : Char} {body s : List Char} (hq : c ≠ quote) (hb : c ≠ '\\')
      (h : Quotes quote body s) : Quotes quote (c :: body) (c :: s)
  | escaped {c : Char} {body s : List Char} (h : Quotes quote body s) :
      Quotes quote ('\\' :: c :: body) (c :: s)

/-- A text is the spelling of a lexeme: a string between quotes, a line break, or what reports show
of another lexeme. -/
def Spells (w : List Char) : Lexeme → Prop
  | .text s => ∃ quote body, isQuote quote = true ∧ Quotes quote body s.toList ∧
      w = quote :: (body ++ [quote])
  | .newline => w = ['\n']
  | l => l.Legible ∧ w = l.describe.toList

variable {c quote : Char} {s t w rest after path : List Char} {l : Lexeme}

/-- Backslashes are no line breaks. -/
lemma Quotes.count_newline (h : Quotes quote s t) : s.count '\n' = t.count '\n' := by
  induction h with
  | nil => rfl
  | plain _ _ _ ih => rw [List.count_cons, List.count_cons, ih]
  | escaped _ ih =>
    rw [List.count_cons_of_ne (by decide), List.count_cons, List.count_cons, ih]

/-- What goes on with words is no line break. -/
lemma IsSegment.newline_notMem (h : IsSegment s) : '\n' ∉ s := fun hmem =>
  absurd (List.all_eq_true.1 h.2 _ hmem) (by decide)

/-- Paths have no line breaks. -/
lemma IsPath.newline_notMem (h : IsPath s) : '\n' ∉ s := by
  induction h with
  | segment hs => exact hs.newline_notMem
  | dot hs _ ih => simp [hs.newline_notMem, ih]
  | colons hs _ ih => simp [hs.newline_notMem, ih]

/-- Names have no line breaks. -/
lemma IsName.newline_notMem (h : IsName s) : '\n' ∉ s := by
  obtain ⟨p, hp, rfl | rfl⟩ := h
  · exact hp.newline_notMem
  · simp [hp.newline_notMem]

/-- Lexemes that are not strings are shown without line breaks. -/
lemma Legible.newline_notMem (h : l.Legible) (hl : ∀ s, l ≠ .text s) :
    '\n' ∉ l.describe.toList := by
  cases l with
  | text s => exact absurd rfl (hl s)
  | newline => exact h.elim
  | word path => exact IsName.newline_notMem h
  | key name =>
    have hname := IsName.newline_notMem h
    simp [describe, hname]
  | symbol name =>
    have hname := IsSegment.newline_notMem h
    simp [describe, hname]
  | number digits =>
    obtain ⟨c, cs, heq, hc, hcs⟩ := h
    have hne : '\n' ≠ c := by
      rintro rfl
      cases hc
    have hrest : '\n' ∉ cs := fun hmem => absurd (List.all_eq_true.1 hcs _ hmem) (by decide)
    simp [describe, heq, hne, hrest]
  | operator op => cases op <;> decide
  | punctuation d =>
    have hne : '\n' ≠ d := by
      rintro rfl
      have hmem : '\n' ∈ punctuationChars := h
      exact absurd hmem (by decide)
    simpa [describe] using hne
  | _ => decide

/-- A spelling has as many line breaks as its lexeme. -/
lemma Spells.count_newline (h : Spells w l) : w.count '\n' = l.lineBreaks := by
  cases l with
  | text s =>
    obtain ⟨quote, body, hquote, hbody, rfl⟩ := h
    have hne : quote ≠ '\n' := by
      rintro rfl
      cases hquote
    rw [List.count_cons_of_ne hne, List.count_append, hbody.count_newline,
      List.count_cons_of_ne hne]
    rfl
  | newline =>
    obtain rfl : w = ['\n'] := h
    rfl
  | _ =>
    obtain ⟨hl, rfl⟩ := h
    exact List.count_eq_zero.2 (hl.newline_notMem nofun)

/-! ## From texts to spellings -/

/-- Characters before a path are not lost. -/
lemma readPath_eq (s : List Char) : s = (readPath s).1 ++ (readPath s).2 := by
  fun_induction readPath s with
  | case1 => rfl
  | case2 c rest _ path after hp ih =>
    rw [hp] at ih
    exact congrArg (c :: ·) ih
  | case3 rest' _ path after hp _ ih =>
    rw [hp] at ih
    exact congrArg (':' :: ':' :: ·) ih
  | case4 => rfl
  | case5 => rfl

/-- A segment and what is read after it are a path; where a word starts, what is read is one. -/
lemma isPath_readPath (s : List Char) :
    (∀ begun, IsSegment begun → IsPath (begun ++ (readPath s).1)) ∧
      (startsWord s = true → IsPath (readPath s).1) := by
  have hnil : ∀ begun, IsSegment begun → IsPath (begun ++ []) := by
    intro begun hbegun
    rw [List.append_nil]
    exact .segment hbegun
  fun_induction readPath s with
  | case1 => exact ⟨hnil, fun h => by cases h⟩
  | case2 c rest h path after hp ih =>
    rw [hp] at ih
    rcases Bool.or_eq_true_iff.1 h with hpart | hdot
    · constructor
      · intro begun hbegun
        have hlonger : IsSegment (begun ++ [c]) := by
          obtain ⟨d, ds, rfl, hd, hds⟩ := hbegun.exists_cons
          exact ⟨hd, by simpa [isWordPart_of_isWordStart hd, hpart] using hds⟩
        have hpath := ih.1 _ hlonger
        rwa [List.append_assoc, List.singleton_append] at hpath
      · intro hstart
        exact ih.1 [c] ⟨hstart, by simp [hpart]⟩
    · obtain ⟨hc, hrest⟩ := Bool.and_eq_true_iff.1 hdot
      obtain rfl := eq_of_beq hc
      exact ⟨fun begun hbegun => .dot hbegun (ih.2 hrest), fun h => by cases h⟩
  | case3 rest' h path after hp _ ih =>
    rw [hp] at ih
    exact ⟨fun begun hbegun => .colons hbegun (ih.2 h), fun h => by cases h⟩
  | case4 => exact ⟨hnil, fun h => by cases h⟩
  | case5 c rest h _ =>
    refine ⟨hnil, fun hstart => ?_⟩
    rw [isWordPart_of_isWordStart hstart, Bool.true_or] at h
    exact absurd rfl h

/-- A question mark is moved to the path that it ends. -/
lemma withQuestionMark_eq (hpath : IsPath path) (s : List Char) :
    path ++ s = (withQuestionMark path s).1 ++ (withQuestionMark path s).2 ∧
      IsName (withQuestionMark path s).1 := by
  unfold withQuestionMark
  split
  · exact ⟨by simp, path, hpath, .inr rfl⟩
  · exact ⟨rfl, path, hpath, .inl rfl⟩

/-- A word or a key is spelled as it is shown. -/
lemma wordOrKey_spelling (hpath : IsName path) (s : List Char) :
    ∃ w, path ++ s = path ++ w ++ (wordOrKey path s).2 ∧
      Spells (path ++ w) (wordOrKey path s).1 := by
  have hname : IsName (String.ofList path).toList := by rwa [String.toList_ofList]
  unfold wordOrKey
  split
  · exact ⟨[], by simp, hname, by simp [describe]⟩
  · exact ⟨[':'], by simp, hname, by simp [describe]⟩
  · exact ⟨[], by simp, hname, by simp [describe]⟩

/-- A word or a key is read from its spelling. -/
lemma readWord_spelling (hc : isWordStart c = true) (rest : List Char) :
    ∃ w, c :: rest = w ++ (readWord c rest).2 ∧ Spells w (readWord c rest).1 := by
  have hbegun : IsSegment [c] := ⟨hc, by simp [isWordPart_of_isWordStart hc]⟩
  have hpath := (isPath_readPath rest).1 [c] hbegun
  obtain ⟨hmark, hname⟩ := withQuestionMark_eq hpath (readPath rest).2
  obtain ⟨w, hword, hspells⟩ := wordOrKey_spelling hname
    (withQuestionMark (c :: (readPath rest).1) (readPath rest).2).2
  refine ⟨_, ?_, hspells⟩
  calc c :: rest = (c :: (readPath rest).1) ++ (readPath rest).2 :=
        congrArg (c :: ·) (readPath_eq rest)
    _ = _ := hmark
    _ = _ := hword

/-- A string is read from the text that is written up to the next quote. -/
lemma exists_quotes (h : readString quote s = some (t, after)) :
    ∃ body, s = body ++ quote :: after ∧ Quotes quote body t := by
  fun_induction readString quote s generalizing t with
  | case1 => cases h
  | case2 rest =>
    obtain ⟨rfl, rfl⟩ : [] = t ∧ rest = after := by simpa using h
    exact ⟨[], rfl, .nil⟩
  | case3 => cases h
  | case4 d rest' _ ih =>
    obtain ⟨u, hu, rfl⟩ : ∃ u, readString quote rest' = some (u, after) ∧ d :: u = t := by
      simpa using h
    obtain ⟨body, rfl, hbody⟩ := ih hu
    exact ⟨'\\' :: d :: body, rfl, .escaped hbody⟩
  | case5 c rest hq hb ih =>
    obtain ⟨u, hu, rfl⟩ : ∃ u, readString quote rest = some (u, after) ∧ c :: u = t := by
      simpa using h
    obtain ⟨body, rfl, hbody⟩ := ih hu
    exact ⟨c :: body, rfl, .plain hq hb hbody⟩

/-- A sign is read from its spelling. -/
lemma readSign_spelling (h : readSign c rest = .ok (l, after)) :
    ∃ w, c :: rest = w ++ after ∧ Spells w l := by
  unfold readSign at h
  split at h
  · obtain ⟨rfl, rfl⟩ := Prod.mk.inj (Except.ok.inj h)
    exact ⟨['('], rfl, trivial, rfl⟩
  · obtain ⟨rfl, rfl⟩ := Prod.mk.inj (Except.ok.inj h)
    exact ⟨[')'], rfl, trivial, rfl⟩
  · obtain ⟨rfl, rfl⟩ := Prod.mk.inj (Except.ok.inj h)
    exact ⟨[','], rfl, trivial, rfl⟩
  · split at h
    · next op after' hop =>
      obtain ⟨rfl, rfl⟩ := Prod.mk.inj (Except.ok.inj h)
      exact ⟨op.symbol.toList, readOperator?_eq_some hop, trivial, rfl⟩
    · split at h
      · next hc =>
        obtain ⟨rfl, rfl⟩ := Prod.mk.inj (Except.ok.inj h)
        exact ⟨[c], rfl, List.contains_iff_mem.1 hc, by simp [describe]⟩
      · cases h

/-- The beginning of a text up to the end of its first word is a segment. -/
lemma isSegment_takeWhile (h : startsWord s = true) : IsSegment (s.takeWhile isWordPart) := by
  cases s with
  | nil => cases h
  | cons c s =>
    refine ⟨?_, List.all_takeWhile⟩
    rw [List.takeWhile_cons_of_pos (isWordPart_of_isWordStart h)]
    exact h

/-- A lexeme is read from its spelling. -/
lemma readLexeme_spelling (h : readLexeme c rest = .ok (l, after)) :
    ∃ w, c :: rest = w ++ after ∧ Spells w l := by
  unfold readLexeme at h
  split at h
  · next hquote =>
    split at h
    · cases h
    · next s after' hs =>
      obtain ⟨rfl, rfl⟩ := Prod.mk.inj (Except.ok.inj h)
      obtain ⟨body, rfl, hbody⟩ := exists_quotes hs
      refine ⟨c :: (body ++ [c]), by simp, c, body, hquote, ?_, rfl⟩
      rw [String.toList_ofList]
      exact hbody
  · split at h
    · next hcolon =>
      obtain ⟨rfl, rfl⟩ := Prod.mk.inj (Except.ok.inj h)
      obtain ⟨hc, hstart⟩ := Bool.and_eq_true_iff.1 hcolon
      obtain rfl := eq_of_beq hc
      have hname : IsSegment (String.ofList (rest.takeWhile isWordPart)).toList := by
        rw [String.toList_ofList]
        exact isSegment_takeWhile hstart
      refine ⟨':' :: rest.takeWhile isWordPart, ?_, hname, by simp [describe]⟩
      rw [List.cons_append, List.takeWhile_append_dropWhile]
    · split at h
      · next hdigit =>
        obtain ⟨rfl, rfl⟩ := Prod.mk.inj (Except.ok.inj h)
        have hnumber : IsNumber (String.ofList (c :: rest.takeWhile inNumber)).toList := by
          rw [String.toList_ofList]
          exact ⟨c, _, rfl, hdigit, List.all_takeWhile⟩
        refine ⟨c :: rest.takeWhile inNumber, ?_, hnumber, by simp [describe]⟩
        rw [List.cons_append, List.takeWhile_append_dropWhile]
      · split at h
        · next hstart =>
          have hword := readWord_spelling hstart rest
          rw [Except.ok.inj h] at hword
          exact hword
        · exact readSign_spelling h

/-- What a character begins is read from its spelling, which is not empty. -/
lemma exists_spelling (h : next c rest = .ok (some l, after)) :
    ∃ w, c :: rest = w ++ after ∧ Spells w l ∧ w ≠ [] := by
  have hspelling : ∃ w, c :: rest = w ++ after ∧ Spells w l := by
    unfold next at h
    split at h
    · next hc =>
      obtain ⟨rfl, rfl⟩ : .newline = l ∧ rest = after := by simpa using h
      exact ⟨['\n'], by rw [beq_iff_eq.1 hc]; rfl, rfl⟩
    · next hc =>
      split at h
      · simp at h
      · split at h
        · simp at h
        · split at h
          · cases h
          · next l' after' hread =>
            obtain ⟨rfl, rfl⟩ : l' = l ∧ after' = after := by simpa using h
            exact readLexeme_spelling hread
  obtain ⟨w, heq, hw⟩ := hspelling
  refine ⟨w, heq, hw, ?_⟩
  rintro rfl
  have hlen := next_length_le h
  rw [← List.nil_append after, ← heq, List.length_cons] at hlen
  omega

/-- What gives no lexeme is a blank in its line, or a comment up to the end of the line. -/
lemma skipped_of_next (h : next c rest = .ok (none, after)) :
    (c ≠ '\n' ∧ isBlank c = true ∧ after = rest) ∨
      c = '#' ∧ ∃ w, rest = w ++ after ∧ '\n' ∉ w ∧ (after = [] ∨ ∃ t, after = '\n' :: t) := by
  unfold next at h
  split at h
  · simp at h
  · next hc =>
    split at h
    · next hblank =>
      obtain rfl : rest = after := by simpa using h
      exact .inl ⟨by simpa using hc, hblank, rfl⟩
    · split at h
      · next hcomment =>
        obtain rfl : rest.dropWhile (· ≠ '\n') = after := by simpa using h
        refine .inr ⟨by simpa using hcomment, rest.takeWhile (· ≠ '\n'),
          List.takeWhile_append_dropWhile.symm,
          fun hmem => absurd (List.mem_takeWhile_imp hmem) (by decide), ?_⟩
        have hhead := List.head?_dropWhile_not (· ≠ '\n') rest
        cases hdrop : rest.dropWhile (· ≠ '\n') with
        | nil => exact .inl rfl
        | cons d t =>
          rw [hdrop] at hhead
          obtain rfl : d = '\n' := by simpa using hhead
          exact .inr ⟨t, rfl⟩
      · split at h <;> simp at h

/-- A string that is closed is read. -/
lemma Quotes.readString_eq (h : Quotes quote s t) (hq : isQuote quote = true) (after : List Char) :
    readString quote (s ++ quote :: after) = some (t, after) := by
  have hne : '\\' ≠ quote := by
    rintro rfl
    cases hq
  induction h with
  | nil => exact readString_quote quote after
  | plain hq' hb _ ih =>
    rw [List.cons_append, readString_of_ne hq' hb, ih]
    rfl
  | escaped _ ih =>
    rw [List.cons_append, List.cons_append, readString_escape hne, ih]
    rfl

/-- What begins with an operator, or with a character that stands for itself, is a sign. -/
lemma exists_readSign (h : (readOperator? (c :: rest)).isSome ∨ c ∈ punctuationChars) :
    ∃ found, readSign c rest = .ok found := by
  unfold readSign
  split
  · exact ⟨_, rfl⟩
  · exact ⟨_, rfl⟩
  · exact ⟨_, rfl⟩
  · split
    · exact ⟨_, rfl⟩
    · next hnone =>
      rw [hnone] at h
      have hc : c ∈ punctuationChars := h.resolve_left nofun
      rw [if_pos (List.contains_iff_mem.2 hc)]
      exact ⟨_, rfl⟩

/-- A sign is not refused, whatever else its first character may begin. -/
lemma exists_next_of_readSign (hq : isQuote c = false)
    (h : ∃ found, readSign c rest = .ok found) : ∃ found, next c rest = .ok found := by
  obtain ⟨found, hfound⟩ := h
  unfold next
  split
  · exact ⟨_, rfl⟩
  · split
    · exact ⟨_, rfl⟩
    · split
      · exact ⟨_, rfl⟩
      · unfold readLexeme
        rw [hq, if_neg Bool.false_ne_true, hfound]
        split_ifs
        · exact ⟨_, rfl⟩
        · exact ⟨_, rfl⟩
        · exact ⟨_, rfl⟩
        · exact ⟨_, rfl⟩

/-- An operator is not refused, whatever comes after it. -/
lemma exists_next_of_symbol (op : Operator) (h : c :: w = op.symbol.toList) (after : List Char) :
    ∃ found, next c (w ++ after) = .ok found := by
  have hq : isQuote c = false := by
    cases op <;> (obtain ⟨rfl, -⟩ := List.cons.inj h; rfl)
  have hop : dropLeading? op.symbol.toList (c :: (w ++ after)) = some after := by
    rw [← List.cons_append, h]
    exact dropLeading?_eq_some_iff.2 rfl
  have hread : (readOperator? (c :: (w ++ after))).isSome = true := by
    rw [readOperator?, List.findSome?_isSome_iff]
    exact ⟨op, by cases op <;> decide, by rw [hop]; rfl⟩
  exact exists_next_of_readSign hq (exists_readSign (.inl hread))

/-- A character that stands for itself is not refused. -/
lemma exists_next_of_punctuation (h : c ∈ punctuationChars) (rest : List Char) :
    ∃ found, next c rest = .ok found := by
  have hall : punctuationChars.all (!isQuote ·) = true := by decide
  have hq : isQuote c = false := by simpa using List.all_eq_true.1 hall c h
  exact exists_next_of_readSign hq (exists_readSign (.inr h))

/-- What a spelling begins with is not refused, whatever comes after the spelling. -/
lemma Spells.exists_next (h : Spells (c :: w) l) (after : List Char) :
    ∃ found, next c (w ++ after) = .ok found := by
  cases l with
  | text s =>
    obtain ⟨quote, body, hquote, hbody, heq⟩ := h
    obtain ⟨rfl, rfl⟩ := List.cons.inj heq
    rw [List.append_assoc, List.singleton_append]
    exact ⟨_, next_of_readString hquote (hbody.readString_eq hquote after)⟩
  | newline =>
    obtain ⟨rfl, rfl⟩ := List.cons.inj h
    exact ⟨_, rfl⟩
  | word path =>
    obtain ⟨hname, heq⟩ := h
    obtain ⟨d, ds, hpath, hd, -⟩ := IsName.exists_cons hname
    obtain ⟨rfl, rfl⟩ := List.cons.inj (heq.trans hpath)
    exact ⟨_, next_of_isWordStart hd _⟩
  | key name =>
    obtain ⟨hname, heq⟩ := h
    obtain ⟨d, ds, hpath, hd, -⟩ := IsName.exists_cons hname
    rw [describe, String.toList_append, hpath] at heq
    obtain ⟨rfl, -⟩ := List.cons.inj heq
    exact ⟨_, next_of_isWordStart hd _⟩
  | symbol name =>
    obtain ⟨hname, heq⟩ := h
    obtain ⟨d, ds, hsegment, hd, -⟩ := IsSegment.exists_cons hname
    rw [describe, String.toList_append, hsegment] at heq
    obtain ⟨rfl, rfl⟩ := List.cons.inj heq
    exact ⟨_, next_colon hd⟩
  | number digits =>
    obtain ⟨hnumber, heq⟩ := h
    obtain ⟨d, ds, hdigits, hd, -⟩ := hnumber
    obtain ⟨rfl, rfl⟩ := List.cons.inj (heq.trans hdigits)
    exact ⟨_, next_of_isAsciiDigit hd _⟩
  | operator op => exact exists_next_of_symbol op h.2 after
  | openParen =>
    obtain ⟨rfl, rfl⟩ := List.cons.inj h.2
    exact ⟨_, rfl⟩
  | closeParen =>
    obtain ⟨rfl, rfl⟩ := List.cons.inj h.2
    exact ⟨_, rfl⟩
  | comma =>
    obtain ⟨rfl, rfl⟩ := List.cons.inj h.2
    exact ⟨_, rfl⟩
  | punctuation d =>
    obtain ⟨hd, heq⟩ := h
    rw [describe, String.toList_singleton] at heq
    obtain ⟨rfl, rfl⟩ := List.cons.inj heq
    exact exists_next_of_punctuation hd _

/-- A character is where a scan stops: it is neither a blank nor the start of a comment, and begins
no spelling. A quote is the start of a string that is not closed. -/
structure Offends (c : Char) (rest : List Char) (fault : ScanFault) : Prop where
  visible : isBlank c = false ∧ c ≠ '#'
  unspelled : ∀ w after l, rest = w ++ after → ¬Spells (c :: w) l
  fault_eq : fault = if isQuote c then .unterminatedString else .unexpectedCharacter c

/-- The fault of a sign is that it is none. -/
lemma readSign_eq_error {fault : ScanFault} (h : readSign c rest = .error fault) :
    fault = .unexpectedCharacter c := by
  unfold readSign at h
  split at h
  · cases h
  · cases h
  · cases h
  · split at h
    · cases h
    · split at h
      · cases h
      · exact (Except.error.inj h).symm

/-- The fault of a quote is that the string is not closed, that of another character that it is
not expected. -/
lemma readLexeme_eq_error {fault : ScanFault} (h : readLexeme c rest = .error fault) :
    fault = if isQuote c then .unterminatedString else .unexpectedCharacter c := by
  unfold readLexeme at h
  split at h
  · next hquote =>
    rw [if_pos hquote]
    split at h
    · exact (Except.error.inj h).symm
    · cases h
  · next hquote =>
    rw [if_neg hquote]
    split at h
    · cases h
    · split at h
      · cases h
      · split at h
        · cases h
        · exact readSign_eq_error h

/-- A scan stops at a character that begins no lexeme. -/
lemma offends_of_next {fault : ScanFault} (h : next c rest = .error fault) :
    Offends c rest fault := by
  have hunspelled : ∀ w after l, rest = w ++ after → ¬Spells (c :: w) l := by
    rintro w after l rfl hw
    obtain ⟨found, hfound⟩ := hw.exists_next after
    rw [h] at hfound
    cases hfound
  unfold next at h
  split at h
  · cases h
  · split at h
    · cases h
    · next hblank =>
      split at h
      · cases h
      · next hcomment =>
        split at h
        · next hread =>
          obtain rfl := Except.error.inj h
          exact ⟨⟨by simpa using hblank, by simpa using hcomment⟩, hunspelled,
            readLexeme_eq_error hread⟩
        · cases h

/-! ## Pieces -/

/-- Text in a line that gives no lexeme: blanks, and perhaps a comment after them. -/
structure IsGap (g : List Char) : Prop where
  unbroken : '\n' ∉ g
  cases : ∃ blanks comment, g = blanks ++ comment ∧ AllBlank blanks ∧
    ∀ c ∈ comment.head?, c = '#'

/-- A lexeme as it stands in a text, with what separates it from the one before. -/
structure Piece where
  gap : List Char
  spelling : List Char
  lexeme : Lexeme
  deriving DecidableEq, Repr

namespace Piece

/-- The text of a piece. -/
def text (p : Piece) : List Char := p.gap ++ p.spelling

/-- A comment ends its line, and the spelling is one of the lexeme. -/
structure Sound (p : Piece) : Prop where
  isGap : IsGap p.gap
  comment : '#' ∈ p.gap → p.lexeme = .newline
  nonempty : p.spelling ≠ []
  spells : Spells p.spelling p.lexeme

end Piece

/-- The text of pieces. -/
def written (pieces : List Piece) : List Char := pieces.flatMap Piece.text

/-- The text of a piece before others. -/
lemma written_cons (p : Piece) (pieces : List Piece) :
    written (p :: pieces) = p.text ++ written pieces := List.flatMap_cons

/-- A text is sound pieces, a gap and what is left; a comment in the gap leaves nothing. -/
structure Cuts (s : List Char) (pieces : List Piece) (gap rest : List Char) : Prop where
  text : s = written pieces ++ (gap ++ rest)
  sound : ∀ p ∈ pieces, p.Sound
  isGap : IsGap gap
  comment : '#' ∈ gap → rest = []

/-- The line on which a text goes on after its beginning: one more than the line breaks before. -/
def lineAfter (before : List Char) : Nat := 1 + before.count '\n'

/-- The lexemes of pieces that come after a text, each on the line of the first character of its
spelling. -/
def located (before : List Char) : List Piece → List Placed
  | [] => []
  | p :: ps => ⟨p.lexeme, lineAfter (before ++ p.gap)⟩ :: located (before ++ p.text) ps

variable {before gap : List Char} {p : Piece} {pieces : List Piece}

/-- A text without line breaks leaves the line as it is. -/
lemma lineAfter_append (h : '\n' ∉ s) (before : List Char) :
    lineAfter (before ++ s) = lineAfter before := by
  have hnone : s.count '\n' = 0 := List.count_eq_zero.2 h
  rw [lineAfter, List.count_append, hnone]
  rfl

/-- A text goes on after a piece as many lines further on as its lexeme has line breaks. -/
lemma Piece.Sound.lineAfter_text (h : p.Sound) (before : List Char) :
    lineAfter (before ++ p.text) = lineAfter (before ++ p.gap) + p.lexeme.lineBreaks := by
  have hbreaks := h.spells.count_newline
  calc lineAfter (before ++ p.text)
      = 1 + ((before ++ p.gap).count '\n' + p.spelling.count '\n') := by
        rw [Piece.text, ← List.append_assoc, lineAfter, List.count_append]
    _ = lineAfter (before ++ p.gap) + p.lexeme.lineBreaks := by
        rw [hbreaks, ← Nat.add_assoc, ← lineAfter]

/-- Blanks in a line are a gap. -/
lemma isGap_of_allBlank (hg : AllBlank gap) (hn : '\n' ∉ gap) : IsGap gap :=
  ⟨hn, gap, [], (List.append_nil gap).symm, hg, nofun⟩

/-- Blanks are no comments. -/
lemma sign_notMem_of_allBlank (hg : AllBlank gap) : '#' ∉ gap := fun h =>
  absurd (hg _ h) (by decide)

/-- A piece before others. -/
lemma Cuts.cons (hp : p.Sound) (h : Cuts s pieces gap rest) :
    Cuts (p.text ++ s) (p :: pieces) gap rest := by
  refine ⟨?_, List.forall_mem_cons.2 ⟨hp, h.sound⟩, h.isGap, h.comment⟩
  rw [written_cons, List.append_assoc, ← h.text]

/-! ## The scan -/

/-- A scan from some place on goes on behind what gives no lexeme. -/
lemma scanFrom_of_none (h : next c rest = .ok (none, after)) (line : Nat) :
    scanFrom line (c :: rest) = scanFrom line after := by
  rw [scanFrom]
  split <;> simp_all

/-- A scan goes on behind a lexeme, after the line breaks in it. -/
lemma scanFrom_of_some (h : next c rest = .ok (some l, after)) (line : Nat) :
    scanFrom line (c :: rest) =
      (scanFrom (line + l.lineBreaks) after).map (⟨l, line⟩ :: ·) := by
  rw [scanFrom]
  split
  · simp_all
  · simp_all
  · next l' after' h' =>
    obtain ⟨rfl, rfl⟩ : l = l' ∧ after = after' := by simpa [h] using h'
    cases scanFrom (line + l.lineBreaks) after <;> rfl

/-- A scan stops at what begins no lexeme. -/
lemma scanFrom_of_error {fault : ScanFault} (h : next c rest = .error fault) (line : Nat) :
    scanFrom line (c :: rest) = .error ⟨line, fault⟩ := by
  rw [scanFrom]
  split <;> simp_all

/-- What a scan says of a text that comes after another one and is cut: the lexemes of the pieces,
or a fault of the character behind the gap. -/
inductive Tells (before : List Char) (pieces : List Piece) (gap : List Char) :
    List Char → Except ScanError (List Placed) → Prop
  | lexemes : Tells before pieces gap [] (.ok (located before pieces))
  | fault {c : Char} {rest : List Char} {fault : ScanFault} (h : Offends c rest fault) :
      Tells before pieces gap (c :: rest)
        (.error ⟨lineAfter (before ++ (written pieces ++ gap)), fault⟩)

/-- A text after another one is cut into what a scan says of it. -/
def Told (before s : List Char) (x : Except ScanError (List Placed)) : Prop :=
  ∃ pieces gap rest, Cuts s pieces gap rest ∧ Tells before pieces gap rest x

/-- What is said of a text is said with a piece before it. -/
lemma Told.cons (hp : p.Sound)
    (h : Told (before ++ p.text) s (scanFrom (lineAfter (before ++ p.text)) s)) :
    Told before (p.text ++ s)
      ((scanFrom (lineAfter (before ++ p.gap) + p.lexeme.lineBreaks) s).map
        (⟨p.lexeme, lineAfter (before ++ p.gap)⟩ :: ·)) := by
  obtain ⟨pieces, gap, rest, hcuts, htells⟩ := h
  refine ⟨p :: pieces, gap, rest, hcuts.cons hp, ?_⟩
  rw [← hp.lineAfter_text]
  generalize scanFrom (lineAfter (before ++ p.text)) s = x at htells ⊢
  cases htells with
  | lexemes => exact .lexemes
  | fault h =>
    have hfault : Tells before (p :: pieces) gap _ _ := .fault h
    have htext : before ++ (written (p :: pieces) ++ gap) =
        before ++ p.text ++ (written pieces ++ gap) := by
      simp [written_cons]
    rw [htext] at hfault
    exact hfault

/-- Of a gap at the end of a text no lexemes are told. -/
lemma told_of_isGap (hg : IsGap gap) (line : Nat) : Told before gap (scanFrom line []) := by
  have hcuts : Cuts gap [] gap [] :=
    ⟨(List.append_nil gap).symm, List.forall_mem_nil _, hg, fun _ => rfl⟩
  rw [scanFrom]
  exact ⟨[], gap, [], hcuts, .lexemes⟩

section Blanks

variable {blanks : List Char}

/-- Behind blanks the fault of what begins no lexeme is told. -/
lemma told_of_error (hb : AllBlank blanks) (hn : '\n' ∉ blanks) {fault : ScanFault}
    (h : next c rest = .error fault) :
    Told before (blanks ++ c :: rest) (scanFrom (lineAfter (before ++ blanks)) (c :: rest)) := by
  have hcuts : Cuts (blanks ++ c :: rest) [] blanks (c :: rest) :=
    ⟨rfl, List.forall_mem_nil _, isGap_of_allBlank hb hn,
      fun hsign => absurd hsign (sign_notMem_of_allBlank hb)⟩
  rw [scanFrom_of_error h]
  exact ⟨[], blanks, c :: rest, hcuts, .fault (offends_of_next h)⟩

/-- Behind blanks a lexeme is told, and then what is told of the text after it. -/
lemma told_of_lexeme (hb : AllBlank blanks) (hn : '\n' ∉ blanks)
    (h : next c rest = .ok (some l, after))
    (htold : ∀ before', Told before' after (scanFrom (lineAfter before') after)) :
    Told before (blanks ++ c :: rest) (scanFrom (lineAfter (before ++ blanks)) (c :: rest)) := by
  obtain ⟨w, heq, hw, hne⟩ := exists_spelling h
  have hp : Piece.Sound ⟨blanks, w, l⟩ :=
    ⟨isGap_of_allBlank hb hn, fun hsign => absurd hsign (sign_notMem_of_allBlank hb), hne, hw⟩
  have hcons := (htold (before ++ (blanks ++ w))).cons hp
  rw [scanFrom_of_some h, heq, ← List.append_assoc]
  exact hcons

/-- Behind blanks a comment belongs to the gap before the line break that ends it, or before the end
of the text. -/
lemma told_of_comment {w : List Char} (hb : AllBlank blanks) (hn : '\n' ∉ blanks)
    (hw : '\n' ∉ w) (hafter : after = [] ∨ ∃ t, after = '\n' :: t)
    (htold : ∀ t, after = '\n' :: t → ∀ before', Told before' t (scanFrom (lineAfter before') t)) :
    Told before (blanks ++ '#' :: (w ++ after))
      (scanFrom (lineAfter (before ++ blanks)) after) := by
  have hgap : IsGap (blanks ++ '#' :: w) :=
    ⟨by simp [hn, hw], blanks, '#' :: w, rfl, hb, fun c hc => (Option.some.inj hc).symm⟩
  rcases hafter with rfl | ⟨t, rfl⟩
  · rw [List.append_nil]
    exact told_of_isGap hgap _
  · have hp : Piece.Sound ⟨blanks ++ '#' :: w, ['\n'], .newline⟩ :=
      ⟨hgap, fun _ => rfl, List.cons_ne_nil _ _, rfl⟩
    have hbreak : next '\n' t = .ok (some .newline, t) := rfl
    have hline : lineAfter (before ++ (blanks ++ '#' :: w)) = lineAfter (before ++ blanks) := by
      rw [← List.append_assoc, lineAfter_append (by simp [hw])]
    have hcons := (htold t rfl (before ++ (blanks ++ '#' :: w ++ ['\n']))).cons hp
    rw [hline] at hcons
    rw [scanFrom_of_some hbreak]
    simpa [Piece.text] using hcons

end Blanks

/-- A scan says of a text what it is cut into, wherever the text begins. -/
lemma told_scanFrom (before blanks s : List Char) (hb : AllBlank blanks) (hn : '\n' ∉ blanks) :
    Told before (blanks ++ s) (scanFrom (lineAfter (before ++ blanks)) s) := by
  -- Blanks wait in front until a lexeme, a comment or the end shows what they belong to.
  induction hlen : s.length using Nat.strong_induction_on generalizing before blanks s with
  | _ n ih =>
    have hrest : ∀ after : List Char, after.length < n →
        ∀ before', Told before' after (scanFrom (lineAfter before') after) := by
      intro after hlt before'
      have htold := ih _ hlt before' [] after (List.forall_mem_nil _) List.not_mem_nil rfl
      rw [List.append_nil] at htold
      exact htold
    cases s with
    | nil =>
      rw [List.append_nil]
      exact told_of_isGap (isGap_of_allBlank hb hn) _
    | cons c rest =>
      cases hnext : next c rest with
      | error fault => exact told_of_error hb hn hnext
      | ok found =>
        obtain ⟨l, after⟩ := found
        have hle := next_length_le hnext
        have hlt : after.length < n := by
          rw [← hlen, List.length_cons]
          omega
        cases l with
        | some l => exact told_of_lexeme hb hn hnext (hrest after hlt)
        | none =>
          rw [scanFrom_of_none hnext]
          rcases skipped_of_next hnext with ⟨hc, hblank, rfl⟩ | ⟨rfl, w, rfl, hw, hafter⟩
          · have hb' : AllBlank (blanks ++ [c]) :=
              List.forall_mem_append.2 ⟨hb, List.forall_mem_singleton.2 hblank⟩
            have htold := ih _ hlt before (blanks ++ [c]) after hb' (by simp [hn, hc.symm]) rfl
            rw [← List.append_assoc before, lineAfter_append (by simpa using hc.symm),
              List.append_assoc] at htold
            exact htold
          · refine told_of_comment hb hn hw hafter fun t ht => hrest t ?_
            rw [ht] at hlt
            exact Nat.lt_trans (Nat.lt_succ_self _) hlt

/-- What a scan finds are the lexemes of pieces that make up the text, each on the line of its first
character. -/
lemma exists_pieces_of_scan {src : String} {ls : List Placed} (h : scan src = .ok ls) :
    ∃ pieces gap, Cuts src.toList pieces gap [] ∧ ls = located [] pieces := by
  obtain ⟨pieces, gap, rest, hcuts, htells⟩ := told_scanFrom [] [] src.toList nofun nofun
  have hscan : scanFrom (lineAfter ([] ++ [])) src.toList = .ok ls := h
  rw [hscan] at htells
  cases htells
  exact ⟨pieces, gap, hcuts, rfl⟩

/-- A scan that stops does so at a character behind pieces and a gap, which begins no lexeme, and
tells its line. -/
lemma exists_pieces_of_scan_eq_error {src : String} {e : ScanError} (h : scan src = .error e) :
    ∃ pieces gap c rest, Cuts src.toList pieces gap (c :: rest) ∧ Offends c rest e.fault ∧
      e.line = lineAfter (written pieces ++ gap) := by
  obtain ⟨pieces, gap, rest, hcuts, htells⟩ := told_scanFrom [] [] src.toList nofun nofun
  have hscan : scanFrom (lineAfter ([] ++ [])) src.toList = .error e := h
  rw [hscan] at htells
  cases htells with
  | fault hoffends => exact ⟨pieces, gap, _, _, hcuts, hoffends, rfl⟩

/-! ## Lines of a text -/

/-- A line of a text: it is at least the first one, and not behind the last. -/
def IsLineOf (s : List Char) (n : Nat) : Prop := 1 ≤ n ∧ n ≤ lineAfter s

/-- The line on which a text goes on after a beginning is one of its lines. -/
lemma isLineOf_lineAfter (before rest : List Char) :
    IsLineOf (before ++ rest) (lineAfter before) := by
  constructor
  · exact Nat.le_add_right 1 _
  · rw [lineAfter, lineAfter, List.count_append]
    omega

/-- Lexemes are on lines of the text that they are cut out of. -/
lemma isLineOf_located {l : Placed} (hl : l ∈ located before pieces) (rest : List Char) :
    IsLineOf (before ++ (written pieces ++ rest)) l.line := by
  induction pieces generalizing before with
  | nil => cases hl
  | cons p pieces ih =>
    rw [written_cons]
    rcases List.mem_cons.1 hl with rfl | hl
    · have hline := isLineOf_lineAfter (before ++ p.gap) (p.spelling ++ (written pieces ++ rest))
      simpa [Piece.text] using hline
    · have hline := ih hl
      simpa using hline

/-- What a scan finds is on lines of the text. -/
lemma isLineOf_of_scan {src : String} {ls : List Placed} (h : scan src = .ok ls) :
    ∀ l ∈ ls, IsLineOf src.toList l.line := by
  obtain ⟨pieces, gap, hcuts, rfl⟩ := exists_pieces_of_scan h
  intro l hl
  have hline := isLineOf_located hl (gap ++ [])
  rw [List.nil_append, ← hcuts.text] at hline
  exact hline

/-- A scan that stops tells a line of the text. -/
lemma isLineOf_of_scan_eq_error {src : String} {e : ScanError} (h : scan src = .error e) :
    IsLineOf src.toList e.line := by
  obtain ⟨pieces, gap, c, rest, hcuts, -, hline⟩ := exists_pieces_of_scan_eq_error h
  rw [hline, hcuts.text, ← List.append_assoc]
  exact isLineOf_lineAfter _ _

end CaskAudit.Lexeme
