import CaskAudit.Proofs.Lexeme.Scans

/-!
# Where lexemes end

What a lexeme leaves depends on what follows it only where it could go on. A path stops before
every character that has no place in one (`readPath_append`), and so a word that is written before
a blank, a bracket or a comma is cut off as it is written (`next_word`). A string goes on to its
quote, and any text is the string that writes it with its quotes and backslashes escaped
(`next_quoted`).

No lexeme that ends with a text goes on over a line break after the text. So texts can be put
together at a line break, and are cut one after the other (`Scans.append_newline`).
-/

namespace CaskAudit.Lexeme

open Text

/-! ## Paths -/

/-- Whether a text begins with no character that could go on with a path. -/
def stopsPath : List Char → Bool
  | [] => true
  | c :: _ => !isWordPart c && c != '.' && c != ':'

/-- A word begins before the end of a path exactly if it begins in the path. -/
lemma startsWord_append {t : List Char} (ht : stopsPath t = true) (s : List Char) :
    startsWord (s ++ t) = startsWord s := by
  cases s with
  | cons c rest => rfl
  | nil =>
    cases t with
    | nil => rfl
    | cons d t =>
      have hd : isWordPart d = false := by
        simp only [stopsPath, Bool.and_eq_true, Bool.not_eq_true'] at ht
        exact ht.1.1
      simp only [isWordPart, Char.isAlphanum, Bool.or_eq_false_iff] at hd
      simp [startsWord, isWordStart, hd]

/-- A character that may stand in a path goes into it. -/
lemma readPath_of_part {c : Char} {rest : List Char}
    (h : (isWordPart c || c == '.' && startsWord rest) = true) :
    readPath (c :: rest) = (c :: (readPath rest).1, (readPath rest).2) := by
  rw [readPath.eq_def]
  simp [h]

/-- Two colons before a word go into a path. -/
lemma readPath_of_colons {rest : List Char} (h : startsWord rest = true) :
    readPath (':' :: ':' :: rest) = (':' :: ':' :: (readPath rest).1, (readPath rest).2) := by
  have hc : isWordPart ':' = false := by decide
  rw [readPath.eq_def]
  simp [hc, h]

/-- Any other character ends a path. -/
lemma readPath_of_stop {c : Char} {rest : List Char}
    (h : ¬(isWordPart c || c == '.' && startsWord rest) = true)
    (hc : ∀ rest', c = ':' → rest = ':' :: rest' → startsWord rest' = false) :
    readPath (c :: rest) = ([], c :: rest) := by
  rw [readPath.eq_def]
  dsimp only
  rw [if_neg h]
  split
  · next rest' =>
    rw [if_neg (by simp [hc rest' rfl rfl])]
  · rfl

/-- A path ends where no character could go on with it. -/
lemma readPath_append {t : List Char} (ht : stopsPath t = true) (s : List Char) :
    readPath (s ++ t) = ((readPath s).1, (readPath s).2 ++ t) := by
  fun_induction readPath s with
  | case1 =>
    cases t with
    | nil => rfl
    | cons d t =>
      obtain ⟨⟨hpart, hdot⟩, hcolon⟩ : (isWordPart d = false ∧ d ≠ '.') ∧ d ≠ ':' := by
        simpa [stopsPath] using ht
      exact readPath_of_stop (by simp [hpart, hdot]) fun _ hc _ => absurd hc hcolon
  | case2 c rest h path after hp ih =>
    rw [List.cons_append, readPath_of_part (by rwa [startsWord_append ht]), ih, hp]
  | case3 rest' h path after hp _ ih =>
    rw [List.cons_append, List.cons_append,
      readPath_of_colons (by rwa [startsWord_append ht]), ih, hp]
  | case4 rest' h hn =>
    rw [List.cons_append, readPath_of_stop (by rwa [startsWord_append ht])]
    rintro rest'' - hr
    obtain rfl : rest' ++ t = rest'' := by simpa using hr
    rw [startsWord_append ht]
    simpa using h
  | case5 c rest hn hc =>
    rw [List.cons_append, readPath_of_stop (by rwa [startsWord_append ht])]
    rintro rest'' rfl hr
    cases rest with
    | nil =>
      rw [List.nil_append] at hr
      simp [hr, stopsPath] at ht
    | cons d rest' =>
      obtain ⟨rfl, -⟩ := List.cons.inj hr
      exact absurd rfl (hc rest' rfl)

/-! ## Words -/

/-- Letters stand between two bounds. -/
lemma toNat_of_isAlpha {c : Char} (h : c.isAlpha = true) : 65 ≤ c.toNat ∧ c.toNat ≤ 122 := by
  rcases Bool.or_eq_true_iff.1 h with h | h
  · have hupper : 65 ≤ c.toNat ∧ c.toNat ≤ 90 := of_decide_eq_true h
    omega
  · obtain ⟨h₁, h₂⟩ := Bool.and_eq_true_iff.1 h
    have hlower : 97 ≤ c.toNat ∧ c.toNat ≤ 122 := ⟨of_decide_eq_true h₁, of_decide_eq_true h₂⟩
    omega

/-- A character that may go on with a word is a letter, a digit or an underscore. -/
lemma toNat_of_isWordPart {c : Char} (h : isWordPart c = true) :
    48 ≤ c.toNat ∧ c.toNat ≤ 122 := by
  rcases Bool.or_eq_true_iff.1 h with h | h
  · rcases Bool.or_eq_true_iff.1 h with h | h
    · have hletter := toNat_of_isAlpha h
      omega
    · obtain ⟨h₁, h₂⟩ := Bool.and_eq_true_iff.1 h
      have hdigit : 48 ≤ c.toNat ∧ c.toNat ≤ 57 := ⟨of_decide_eq_true h₁, of_decide_eq_true h₂⟩
      omega
  · obtain rfl := eq_of_beq h
    decide

/-- No blank stands in a word. -/
lemma isBlank_of_isWordPart {c : Char} (h : isWordPart c = true) : isBlank c = false := by
  obtain ⟨hl, hu⟩ := toNat_of_isWordPart h
  simp [isBlank]
  omega

/-- A character that may begin a word is a letter or an underscore. -/
lemma toNat_of_isWordStart {c : Char} (h : isWordStart c = true) :
    65 ≤ c.toNat ∧ c.toNat ≤ 122 := by
  rcases Bool.or_eq_true_iff.1 h with h | h
  · exact toNat_of_isAlpha h
  · obtain rfl := eq_of_beq h
    decide

/-- What the start of a word begins is a word or a keyword. -/
lemma next_of_isWordStart {c : Char} (h : isWordStart c = true) (rest : List Char) :
    next c rest = .ok (some (readWord c rest).1, (readWord c rest).2) := by
  obtain ⟨hl, hu⟩ := toNat_of_isWordStart h
  have hne : ∀ d : Char, d.toNat < 65 → c ≠ d := by
    rintro d hd rfl
    omega
  have hblank : isBlank c = false := by
    simp [isBlank]
    omega
  have hdigit : isAsciiDigit c = false := by
    have hnine : ¬c ≤ '9' := fun hc => absurd hl (Nat.not_le.2 (Nat.lt_of_le_of_lt hc (by decide)))
    simp [isAsciiDigit, hnine]
  simp [next, readLexeme, isQuote, hblank, hdigit, h, hne '\n' (by decide), hne '#' (by decide),
    hne '\'' (by decide), hne '"' (by decide), hne ':' (by decide)]

/-- Whether a text begins with no character that could go on with a word or make it a keyword. -/
def stopsWord : List Char → Bool
  | [] => true
  | c :: _ => !isWordPart c && c != '.' && c != ':' && c != '?'

/-- What stops a word stops a path. -/
lemma stopsPath_of_stopsWord {t : List Char} (h : stopsWord t = true) : stopsPath t = true := by
  cases t with
  | nil => rfl
  | cons c t =>
    simp only [stopsWord, stopsPath, Bool.and_eq_true] at h ⊢
    exact h.1

/-- A path that nothing goes on with is a word. -/
lemma wordOrKey_of_stopsWord (path : List Char) {t : List Char} (h : stopsWord t = true) :
    wordOrKey path t = (.word (String.ofList path), t) := by
  unfold wordOrKey
  split
  · simp [stopsWord] at h
  · simp [stopsWord] at h
  · rfl

/-- A word is cut off as it is written where nothing goes on with it. -/
lemma next_word {c : Char} {s t : List Char} (hc : isWordStart c = true)
    (hs : readPath s = (s, [])) (ht : stopsWord t = true) :
    next c (s ++ t) = .ok (some (.word (String.ofList (c :: s))), t) := by
  have hmark : withQuestionMark (c :: s) t = (c :: s, t) := by
    unfold withQuestionMark
    split
    · simp [stopsWord] at ht
    · rfl
  rw [next_of_isWordStart hc, readWord, readPath_append (stopsPath_of_stopsWord ht), hs]
  simp only [List.nil_append, hmark, wordOrKey_of_stopsWord _ ht]

/-- A question is cut off with the question mark that ends it. -/
lemma next_question {c : Char} {s t : List Char} (hc : isWordStart c = true)
    (hs : readPath s = (s, [])) (ht : stopsWord t = true) :
    next c (s ++ '?' :: t) = .ok (some (.word (String.ofList (c :: (s ++ ['?'])))), t) := by
  rw [next_of_isWordStart hc, readWord, readPath_append rfl, hs]
  simp only [List.nil_append, withQuestionMark, wordOrKey_of_stopsWord _ ht, List.cons_append]

/-- Word characters go into the path that goes on after them. -/
lemma readPath_append_of_all {s : List Char} (hs : s.all isWordPart = true) (t : List Char) :
    readPath (s ++ t) = (s ++ (readPath t).1, (readPath t).2) := by
  induction s with
  | nil => rfl
  | cons c s ih =>
    obtain ⟨hc, hs⟩ : isWordPart c = true ∧ s.all isWordPart = true := by simpa using hs
    rw [List.cons_append, readPath_of_part (by simp [hc]), ih hs, List.cons_append]

/-- A keyword is cut off with its colon before a space. -/
lemma next_key {c : Char} {s : List Char} (hc : isWordStart c = true)
    (hs : s.all isWordPart = true) (t : List Char) :
    next c (s ++ ':' :: ' ' :: t) = .ok (some (.key (String.ofList (c :: s))), ' ' :: t) := by
  have hcolon : readPath (':' :: ' ' :: t) = ([], ':' :: ' ' :: t) :=
    readPath_of_stop (by simp only [startsWord]; decide) fun _ _ h => by simp at h
  rw [next_of_isWordStart hc, readWord, readPath_append_of_all hs, hcolon, List.append_nil]
  rfl

/-- A colon before a word begins a symbol, of which the dots in the word are no part. -/
lemma next_colon {s : List Char} (h : startsWord s = true) :
    next ':' s =
      .ok (some (.symbol (String.ofList (s.takeWhile isWordPart))), s.dropWhile isWordPart) := by
  have hlexeme : readLexeme ':' s =
      .ok (.symbol (String.ofList (s.takeWhile isWordPart)), s.dropWhile isWordPart) := by
    unfold readLexeme
    rw [if_neg (by decide), h]
    rfl
  unfold next
  rw [if_neg (by decide), if_neg (by decide), if_neg (by decide), hlexeme]

/-- A colon before anything but a word is refused. -/
lemma next_colon_eq_error {s : List Char} (h : startsWord s = false) :
    next ':' s = .error (.unexpectedCharacter ':') := by
  have hop : readOperator? (':' :: s) = none := by
    simp [readOperator?, Operator.all, Operator.symbol, dropLeading?]
  have hsign : readSign ':' s = .error (.unexpectedCharacter ':') := by
    unfold readSign
    split
    · next h => exact absurd h (by decide)
    · next h => exact absurd h (by decide)
    · next h => exact absurd h (by decide)
    · rw [hop]
      rfl
  have hlexeme : readLexeme ':' s = .error (.unexpectedCharacter ':') := by
    unfold readLexeme
    rw [if_neg (by decide), h, if_neg (by decide), if_neg (by decide), if_neg (by decide), hsign]
  unfold next
  rw [if_neg (by decide), if_neg (by decide), if_neg (by decide), hlexeme]

/-! ## Strings -/

/-- The quote ends a string. -/
@[simp] lemma readString_quote (quote : Char) (rest : List Char) :
    readString quote (quote :: rest) = some ([], rest) := by
  rw [readString.eq_def]
  simp

/-- A backslash goes into a string as the character after it. -/
lemma readString_escape {quote : Char} (hq : '\\' ≠ quote) (d : Char) (rest : List Char) :
    readString quote ('\\' :: d :: rest) =
      (readString quote rest).map fun p => (d :: p.1, p.2) := by
  rw [readString.eq_def]
  simp [hq]

/-- Any other character goes into a string as itself. -/
lemma readString_of_ne {quote c : Char} (hq : c ≠ quote) (hb : c ≠ '\\') (rest : List Char) :
    readString quote (c :: rest) = (readString quote rest).map fun p => (c :: p.1, p.2) := by
  rw [readString.eq_def]
  simp [hq, hb]

/-- A string that ends in a text ends there whatever follows. -/
lemma readString_append {quote : Char} {s u after : List Char} (t : List Char)
    (h : readString quote s = some (u, after)) :
    readString quote (s ++ t) = some (u, after ++ t) := by
  fun_induction readString quote s generalizing u with
  | case1 => simp at h
  | case2 rest =>
    obtain ⟨rfl, rfl⟩ : [] = u ∧ rest = after := by simpa using h
    rw [List.cons_append, readString_quote]
  | case3 => simp at h
  | case4 d rest' hq ih =>
    obtain ⟨v, hv, rfl⟩ : ∃ v, readString quote rest' = some (v, after) ∧ d :: v = u := by
      simpa using h
    rw [List.cons_append, List.cons_append, readString_escape hq, ih hv]
    rfl
  | case5 c rest hq hb ih =>
    obtain ⟨v, hv, rfl⟩ : ∃ v, readString quote rest = some (v, after) ∧ c :: v = u := by
      simpa using h
    rw [List.cons_append, readString_of_ne hq hb, ih hv]
    rfl

/-- A text is the string that writes it, if every quote and every backslash in it is written after a
backslash, and any other character after one or by itself. -/
lemma readString_flatMap {quote : Char} (hq : isQuote quote = true) {write : Char → List Char}
    (hw : ∀ c, write c = ['\\', c] ∨ write c = [c] ∧ c ≠ quote ∧ c ≠ '\\') (s t : List Char) :
    readString quote (s.flatMap write ++ quote :: t) = some (s, t) := by
  have hne : '\\' ≠ quote := by
    rintro rfl
    exact absurd hq (by decide)
  induction s with
  | nil => exact readString_quote quote t
  | cons c s ih =>
    rw [List.flatMap_cons, List.append_assoc]
    rcases hw c with hc | ⟨hc, hcq, hb⟩
    · rw [hc, List.cons_append, List.singleton_append, readString_escape hne, ih]
      rfl
    · rw [hc, List.singleton_append, readString_of_ne hcq hb, ih]
      rfl

/-- The characters of a text with a backslash before every quote and every backslash. -/
def escaped : List Char → List Char
  | [] => []
  | c :: s => if isQuote c || c == '\\' then '\\' :: c :: escaped s else c :: escaped s

/-- A text is escaped character by character. -/
lemma escaped_eq_flatMap (s : List Char) :
    escaped s = s.flatMap fun c => if isQuote c || c == '\\' then ['\\', c] else [c] := by
  induction s with
  | nil => rfl
  | cons c s ih =>
    rw [escaped, ih, List.flatMap_cons]
    split <;> rfl

/-- A text is the string that writes it escaped. -/
lemma readString_escaped {quote : Char} (hq : isQuote quote = true) (s t : List Char) :
    readString quote (escaped s ++ quote :: t) = some (s, t) := by
  rw [escaped_eq_flatMap]
  refine readString_flatMap hq (fun c => ?_) s t
  split
  · exact .inl rfl
  · next hc =>
    obtain ⟨hc, hb⟩ : isQuote c = false ∧ c ≠ '\\' := by simpa using hc
    refine .inr ⟨rfl, ?_, hb⟩
    rintro rfl
    simp [hq] at hc

/-- What a quote begins is the string up to the next one. -/
lemma next_of_readString {quote : Char} (hq : isQuote quote = true) {s u t : List Char}
    (h : readString quote s = some (u, t)) :
    next quote s = .ok (some (.text (String.ofList u)), t) := by
  have hlexeme : readLexeme quote s = .ok (.text (String.ofList u), t) := by
    unfold readLexeme
    rw [if_pos hq, h]
  obtain rfl | rfl : quote = '\'' ∨ quote = '"' := by simpa [isQuote] using hq
  all_goals
    unfold next
    rw [if_neg (by decide), if_neg (by decide), if_neg (by decide), hlexeme]

/-- A text in quotes is cut off with its quotes. -/
lemma next_quoted {quote : Char} (hq : isQuote quote = true) (s : String) (t : List Char) :
    next quote (escaped s.toList ++ quote :: t) = .ok (some (.text s), t) := by
  have hnext := next_of_readString hq (readString_escaped hq s.toList t)
  rwa [String.ofList_toList] at hnext

/-! ## Line breaks -/

/-- No operator goes on over a line break. -/
lemma readOperator?_append (s t : List Char) :
    readOperator? (s ++ '\n' :: t) =
      (readOperator? s).map fun p => (p.1, p.2 ++ '\n' :: t) := by
  have hop : ∀ op ∈ Operator.all, '\n' ∉ op.symbol.toList := by decide
  unfold readOperator?
  revert hop
  induction Operator.all with
  | nil => intro _; rfl
  | cons op ops ih =>
    intro hop
    rw [List.findSome?_cons, List.findSome?_cons,
      dropLeading?_append (hop op List.mem_cons_self)]
    cases dropLeading? op.symbol.toList s with
    | none => exact ih fun o ho => hop o (List.mem_cons_of_mem _ ho)
    | some after => rfl

/-- A line break takes no part in the end of a path. -/
lemma withQuestionMark_append (path s t : List Char) :
    withQuestionMark path (s ++ '\n' :: t) =
      ((withQuestionMark path s).1, (withQuestionMark path s).2 ++ '\n' :: t) := by
  cases s with
  | nil => rfl
  | cons c rest =>
    rw [List.cons_append]
    unfold withQuestionMark
    split
    · next heq =>
      obtain ⟨rfl, rfl⟩ := List.cons.inj heq
      rfl
    · next hne =>
      split
      · next heq =>
        obtain ⟨rfl, rfl⟩ := List.cons.inj heq
        exact absurd rfl (hne _)
      · rfl

/-- A line break makes no keyword of a path and hides none. -/
lemma wordOrKey_append (path s t : List Char) :
    wordOrKey path (s ++ '\n' :: t) =
      ((wordOrKey path s).1, (wordOrKey path s).2 ++ '\n' :: t) := by
  match s with
  | [] => rfl
  | [c] =>
    by_cases hc : c = ':'
    · subst hc
      rfl
    · simp [wordOrKey, hc]
  | c :: d :: rest =>
    by_cases hc : c = ':'
    · subst hc
      by_cases hd : d = ':'
      · subst hd
        rfl
      · simp [wordOrKey, hd]
    · simp [wordOrKey, hc]

/-- A word or a keyword ends at a line break. -/
lemma readWord_append (c : Char) (s t : List Char) :
    readWord c (s ++ '\n' :: t) = ((readWord c s).1, (readWord c s).2 ++ '\n' :: t) := by
  simp only [readWord, readPath_append (t := '\n' :: t) rfl, withQuestionMark_append,
    wordOrKey_append]

/-- A sign ends at a line break. -/
lemma readSign_append (c : Char) (s t : List Char) :
    readSign c (s ++ '\n' :: t) =
      (readSign c s).map fun p => (p.1, p.2 ++ '\n' :: t) := by
  unfold readSign
  split
  · rfl
  · rfl
  · rfl
  · rw [← List.cons_append, readOperator?_append]
    cases readOperator? (c :: s) with
    | some p => rfl
    | none =>
      dsimp only [Option.map_none]
      split <;> rfl

/-- The characters of a lexeme that are read one by one end at a line break. -/
lemma takeWhile_append_newline {p : Char → Bool} (hp : p '\n' = false) (s t : List Char) :
    (s ++ '\n' :: t).takeWhile p = s.takeWhile p ∧
      (s ++ '\n' :: t).dropWhile p = s.dropWhile p ++ '\n' :: t := by
  induction s with
  | nil => simp [hp]
  | cons c rest ih => by_cases hc : p c = true <;> simp [hc, ih]

/-- A lexeme that ends in a text is the same before a line break. -/
lemma readLexeme_append {c : Char} {rest after : List Char} {l : Lexeme} (t : List Char)
    (h : readLexeme c rest = .ok (l, after)) :
    readLexeme c (rest ++ '\n' :: t) = .ok (l, after ++ '\n' :: t) := by
  have hpart := takeWhile_append_newline (p := isWordPart) (by decide) rest t
  have hnumber := takeWhile_append_newline (p := inNumber) (by decide) rest t
  unfold readLexeme at h ⊢
  rw [startsWord_append rfl, hpart.1, hpart.2, hnumber.1, hnumber.2, readWord_append,
    readSign_append]
  split at h
  · next hq =>
    rw [if_pos hq]
    cases hs : readString c rest with
    | none => simp [hs] at h
    | some p =>
      obtain ⟨rfl, rfl⟩ : Lexeme.text (String.ofList p.1) = l ∧ p.2 = after := by
        simpa [hs] using h
      rw [readString_append _ hs]
  · next hq =>
    rw [if_neg hq]
    split at h
    · next hc =>
      rw [if_pos hc]
      simp_all
    · next hc =>
      rw [if_neg hc]
      split at h
      · next hd =>
        rw [if_pos hd]
        simp_all
      · next hd =>
        rw [if_neg hd]
        split at h
        · next hw =>
          rw [if_pos hw]
          simp_all
        · next hw =>
          rw [if_neg hw, h]
          rfl

/-- What a character begins in a text is the same before a line break. -/
lemma next_append {c : Char} {rest after : List Char} {l : Option Lexeme} (t : List Char)
    (h : next c rest = .ok (l, after)) :
    next c (rest ++ '\n' :: t) = .ok (l, after ++ '\n' :: t) := by
  have hcomment := takeWhile_append_newline (p := (· ≠ '\n')) (by decide) rest t
  unfold next at h ⊢
  split at h
  · simp_all
  · next hc =>
    rw [if_neg hc]
    split at h
    · simp_all
    · next hb =>
      rw [if_neg hb]
      split at h
      · next hs =>
        rw [if_pos hs, hcomment.2]
        simp_all
      · next hs =>
        rw [if_neg hs]
        cases hr : readLexeme c rest with
        | error fault => simp [hr] at h
        | ok p =>
          rw [readLexeme_append t hr]
          simp_all

/-- Two texts with a line break between them are cut one after the other. -/
theorem Scans.append_newline {s t : List Char} {ls ms : List Lexeme} (hs : Scans s ls)
    (ht : Scans ('\n' :: t) ms) : Scans (s ++ '\n' :: t) (ls ++ ms) := by
  induction hs with
  | nil => exact ht
  | skip hn _ ih => exact .skip (next_append t hn) ih
  | cons hn _ ih => exact .cons (next_append t hn) ih

/-- A text that is cut by itself is cut before the line break that comes after it. -/
theorem Scans.exists_of_append_newline {s t : List Char} {ls found : List Lexeme}
    (hs : Scans s ls) (h : Scans (s ++ '\n' :: t) found) :
    ∃ ms, Scans ('\n' :: t) ms ∧ found = ls ++ ms := by
  induction hs generalizing found with
  | nil => exact ⟨found, h, rfl⟩
  | skip hn _ ih => exact ih ((scans_skip_iff (next_append t hn)).1 h)
  | cons hn _ ih =>
    obtain ⟨rest, rfl, hrest⟩ := (scans_cons_iff (next_append t hn)).1 h
    obtain ⟨ms, hms, rfl⟩ := ih hrest
    exact ⟨ms, hms, rfl⟩

end CaskAudit.Lexeme
