import CaskAudit.Proofs.Guard.RoundTrip
import CaskAudit.Proofs.Lexeme.Boundaries
import Mathlib.Data.List.Basic

/-!
# Printed lexemes

Lexemes are printed as reports show them. A lexeme that is `Legible` is read again where it stands
before a blank or at the end (`next_describe`): nothing before the blank goes on with it, and it
does not end before. So legible lexemes with blanks between them are read as they were printed, and
every text whatsoever is read from a string that writes it (`scan_printed`).
-/

namespace CaskAudit.Lexeme

open Text

/-! ## Legible lexemes -/

/-- A letter or an underscore, followed by letters, digits and underscores. -/
def IsSegment (s : List Char) : Prop := startsWord s = true ∧ s.all isWordPart = true

/-- Segments with dots or double colons between them. -/
inductive IsPath : List Char → Prop
  | segment {s : List Char} (hs : IsSegment s) : IsPath s
  | dot {s p : List Char} (hs : IsSegment s) (hp : IsPath p) : IsPath (s ++ '.' :: p)
  | colons {s p : List Char} (hs : IsSegment s) (hp : IsPath p) : IsPath (s ++ ':' :: ':' :: p)

/-- A path with a question mark at its end or without one. -/
def IsName (s : List Char) : Prop := ∃ p, IsPath p ∧ (s = p ∨ s = p ++ ['?'])

/-- A digit, followed by digits and dots. -/
def IsNumber (s : List Char) : Prop :=
  ∃ c cs, s = c :: cs ∧ isAsciiDigit c = true ∧ cs.all inNumber = true

/-- A lexeme is one that could be found, and no line break; a text in it needs no backslashes. -/
def Legible : Lexeme → Prop
  | word path => IsName path.toList
  | text s => '\'' ∉ s.toList ∧ '\\' ∉ s.toList
  | symbol name => IsSegment name.toList
  | key name => IsName name.toList
  | number digits => IsNumber digits.toList
  | operator _ => True
  | openParen => True
  | closeParen => True
  | comma => True
  | punctuation c => c ∈ punctuationChars
  | newline => False

/-- Nothing follows, or a blank. -/
def Ends (t : List Char) : Prop := t = [] ∨ ∃ u, t = ' ' :: u

variable {c : Char} {s t u p : List Char}

/-! ## Words and keys -/

/-- A segment begins with the start of a word. -/
lemma IsSegment.exists_cons (h : IsSegment s) :
    ∃ c cs, s = c :: cs ∧ isWordStart c = true ∧ cs.all isWordPart = true := by
  obtain ⟨hstart, hall⟩ := h
  cases s with
  | nil => cases hstart
  | cons c cs => exact ⟨c, cs, rfl, hstart, (Bool.and_eq_true_iff.1 hall).2⟩

/-- The start of a word may go on with one. -/
lemma isWordPart_of_isWordStart (h : isWordStart c = true) : isWordPart c = true := by
  rcases Bool.or_eq_true_iff.1 h with h | h
  · simp [isWordPart, Char.isAlphanum, h]
  · simp [isWordPart, h]

/-- The start of a word goes into a path. -/
lemma readPath_of_isWordStart (h : isWordStart c = true) (u : List Char) :
    readPath (c :: u) = (c :: (readPath u).1, (readPath u).2) :=
  readPath_of_part (by rw [isWordPart_of_isWordStart h, Bool.true_or])

/-- A path is read as a whole before what ends it. -/
lemma IsPath.exists_cons (h : IsPath p) :
    ∃ c cs, p = c :: cs ∧ isWordStart c = true ∧
      ∀ u, readPath u = ([], u) → readPath (cs ++ u) = (cs, u) := by
  -- What follows stays general: after a segment, it begins with the separator of the next one.
  induction h with
  | segment hs =>
    obtain ⟨c, cs, rfl, hc, hcs⟩ := hs.exists_cons
    refine ⟨c, cs, rfl, hc, fun u hu => ?_⟩
    rw [readPath_append_of_all hcs, hu, List.append_nil]
  | dot hs _ ih =>
    obtain ⟨c, cs, rfl, hc, hcs⟩ := hs.exists_cons
    obtain ⟨d, ds, rfl, hd, hds⟩ := ih
    refine ⟨c, cs ++ '.' :: d :: ds, rfl, hc, fun u hu => ?_⟩
    have hdot : readPath ('.' :: d :: (ds ++ u)) = ('.' :: d :: ds, u) := by
      rw [readPath_of_part (by simp [startsWord, hd]), readPath_of_isWordStart hd, hds u hu]
    have htext : cs ++ '.' :: d :: ds ++ u = cs ++ '.' :: d :: (ds ++ u) := by simp
    rw [htext, readPath_append_of_all hcs, hdot]
  | colons hs _ ih =>
    obtain ⟨c, cs, rfl, hc, hcs⟩ := hs.exists_cons
    obtain ⟨d, ds, rfl, hd, hds⟩ := ih
    refine ⟨c, cs ++ ':' :: ':' :: d :: ds, rfl, hc, fun u hu => ?_⟩
    have hcolons : readPath (':' :: ':' :: d :: (ds ++ u)) = (':' :: ':' :: d :: ds, u) := by
      have hstart : startsWord (d :: (ds ++ u)) = true := hd
      rw [readPath_of_colons hstart, readPath_of_isWordStart hd, hds u hu]
    have htext : cs ++ ':' :: ':' :: d :: ds ++ u = cs ++ ':' :: ':' :: d :: (ds ++ u) := by simp
    rw [htext, readPath_append_of_all hcs, hcolons]

/-- A name is read before what ends a path and is no question mark. -/
lemma IsName.exists_cons (h : IsName s) :
    ∃ c cs, s = c :: cs ∧ isWordStart c = true ∧
      ∀ u, readPath u = ([], u) → u.head? ≠ some '?' →
        readWord c (cs ++ u) = wordOrKey (c :: cs) u := by
  obtain ⟨p, hp, hs⟩ := h
  obtain ⟨c, cs, rfl, hc, hcs⟩ := hp.exists_cons
  rcases hs with rfl | rfl
  · refine ⟨c, cs, rfl, hc, fun u hu hmark => ?_⟩
    have hwith : withQuestionMark (c :: cs) u = (c :: cs, u) := by
      unfold withQuestionMark
      split
      · exact absurd rfl hmark
      · rfl
    simp only [readWord, hcs u hu, hwith]
  · refine ⟨c, cs ++ ['?'], rfl, hc, fun u hu hmark => ?_⟩
    have hquestion : readPath ('?' :: u) = ([], '?' :: u) :=
      readPath_of_stop (by simp [isWordPart]) fun _ h _ => absurd h (by decide)
    rw [List.append_assoc, List.singleton_append]
    simp only [readWord, hcs _ hquestion, withQuestionMark, List.cons_append]

/-- What ends a lexeme ends a path. -/
lemma Ends.readPath (h : Ends t) : readPath t = ([], t) := by
  rcases h with rfl | ⟨u, rfl⟩
  · rfl
  · exact readPath_of_stop (by simp [isWordPart]) fun _ h _ => absurd h (by decide)

/-- A name is cut off as a word. -/
lemma IsName.next_word (h : IsName s) (ht : Ends t) :
    ∃ c cs, s = c :: cs ∧ next c (cs ++ t) = .ok (some (.word (String.ofList s)), t) := by
  obtain ⟨c, cs, rfl, hc, hread⟩ := h.exists_cons
  refine ⟨c, cs, rfl, ?_⟩
  have hword := hread t ht.readPath (by rcases ht with rfl | ⟨u, rfl⟩ <;> simp)
  rw [next_of_isWordStart hc, hword]
  rcases ht with rfl | ⟨u, rfl⟩ <;> rfl

/-- A name with a colon after it is cut off as a key. -/
lemma IsName.next_key (h : IsName s) (ht : Ends t) :
    ∃ c cs, s = c :: cs ∧ next c (cs ++ ':' :: t) = .ok (some (.key (String.ofList s)), t) := by
  obtain ⟨c, cs, rfl, hc, hread⟩ := h.exists_cons
  refine ⟨c, cs, rfl, ?_⟩
  have hcolon : Lexeme.readPath (':' :: t) = ([], ':' :: t) := by
    refine readPath_of_stop (by simp [isWordPart]) fun rest _ hrest => ?_
    rcases ht with rfl | ⟨u, rfl⟩ <;> cases hrest
  have hkey := hread (':' :: t) hcolon (by simp)
  rw [next_of_isWordStart hc, hkey]
  rcases ht with rfl | ⟨u, rfl⟩ <;> rfl

/-! ## Other lexemes -/

/-- A segment with a colon before it is cut off as a symbol. -/
lemma IsSegment.next_symbol {name : String} (h : IsSegment name.toList) (ht : Ends t) :
    next ':' (name.toList ++ t) = .ok (some (.symbol name), t) := by
  have hidentifier : Guard.isIdentifier name = true := Bool.and_eq_true_iff.2 h
  refine Guard.next_symbol hidentifier ?_
  rcases ht with rfl | ⟨u, rfl⟩ <;> rfl

/-- A digit is the start of a number. -/
lemma next_of_isAsciiDigit (h : isAsciiDigit c = true) (u : List Char) :
    next c u =
      .ok (some (.number (String.ofList (c :: u.takeWhile inNumber))), u.dropWhile inNumber) := by
  obtain ⟨hl, hu⟩ : 48 ≤ c.toNat ∧ c.toNat ≤ 57 := by
    obtain ⟨hl, hu⟩ := Bool.and_eq_true_iff.1 h
    exact ⟨of_decide_eq_true hl, of_decide_eq_true hu⟩
  have hne : ∀ d : Char, d.toNat < 48 ∨ 57 < d.toNat → c ≠ d := by
    rintro d hd rfl
    omega
  have hblank : isBlank c = false := by
    simp [isBlank]
    omega
  simp [next, readLexeme, isQuote, hblank, h, hne '\n' (by decide), hne '#' (by decide),
    hne '\'' (by decide), hne '"' (by decide), hne ':' (by decide)]

/-- A number is cut off as it is written. -/
lemma IsNumber.next_number (h : IsNumber s) (ht : Ends t) :
    ∃ c cs, s = c :: cs ∧ next c (cs ++ t) = .ok (some (.number (String.ofList s)), t) := by
  obtain ⟨c, cs, rfl, hc, hall⟩ := h
  have hcs : ∀ d ∈ cs, inNumber d = true := List.all_eq_true.1 hall
  have hstop : t.takeWhile inNumber = [] ∧ t.dropWhile inNumber = t := by
    rcases ht with rfl | ⟨u, rfl⟩ <;> exact ⟨rfl, rfl⟩
  have htake : (cs ++ t).takeWhile inNumber = cs := by
    rw [List.takeWhile_append_of_pos hcs, hstop.1, List.append_nil]
  have hdrop : (cs ++ t).dropWhile inNumber = t := by
    rw [List.dropWhile_append_of_pos hcs, hstop.2]
  refine ⟨c, cs, rfl, ?_⟩
  rw [next_of_isAsciiDigit hc, htake, hdrop]

/-- An operator is cut off as it is written. -/
lemma next_operator (op : Operator) (ht : Ends t) :
    ∃ c cs, op.symbol.toList = c :: cs ∧ next c (cs ++ t) = .ok (some (.operator op), t) := by
  cases op <;> rcases ht with rfl | ⟨u, rfl⟩ <;> exact ⟨_, _, rfl, rfl⟩

/-- A character that stands for itself is cut off. -/
lemma next_punctuation (hc : c ∈ punctuationChars) (ht : Ends t) :
    next c t = .ok (some (.punctuation c), t) := by
  have hchars : punctuationChars = ['[', ']', '\x7b', '\x7d', '=', '|', '.', ';', '+', '-', '*',
    '/', '%', '~', '&', '@'] := by decide
  rw [hchars] at hc
  simp only [List.mem_cons, List.not_mem_nil, or_false] at hc
  rcases hc with rfl | rfl | rfl | rfl | rfl | rfl | rfl | rfl | rfl | rfl | rfl | rfl | rfl | rfl |
    rfl | rfl <;> rcases ht with rfl | ⟨u, rfl⟩ <;> rfl

/-! ## Strings -/

/-- The characters of a text with a backslash before every occurrence of a quote and every
backslash. -/
def escapedFor (quote : Char) (s : List Char) : List Char :=
  s.flatMap fun c => if c = quote ∨ c = '\\' then ['\\', c] else [c]

/-- A text without a quote and backslashes needs no more of them. -/
lemma escapedFor_eq_self {quote : Char} (hq : quote ∉ s) (hb : '\\' ∉ s) :
    escapedFor quote s = s := by
  have hsingle : ∀ c ∈ s, (if c = quote ∨ c = '\\' then ['\\', c] else [c]) = [c] := by
    intro c hc
    rw [if_neg]
    rintro (rfl | rfl)
    · exact hq hc
    · exact hb hc
  rw [escapedFor, List.flatMap_congr hsingle]
  exact List.flatMap_singleton' s

/-- A text is cut off with the quotes around it. -/
lemma next_escapedFor {quote : Char} (hq : isQuote quote = true) (s t : List Char) :
    next quote (escapedFor quote s ++ quote :: t) = .ok (some (.text (String.ofList s)), t) := by
  refine next_of_readString hq (readString_flatMap hq (fun c => ?_) s t)
  split
  · exact .inl rfl
  · next hc => exact .inr ⟨rfl, fun h => hc (.inl h), fun h => hc (.inr h)⟩

/-! ## Printing -/

/-- A legible lexeme is read as it is printed, before a blank or at the end. -/
lemma Legible.next_describe {l : Lexeme} (h : l.Legible) (ht : Ends t) :
    ∃ c cs, l.describe.toList = c :: cs ∧ next c (cs ++ t) = .ok (some l, t) := by
  cases l with
  | word path =>
    obtain ⟨c, cs, hpath, hnext⟩ := IsName.next_word h ht
    rw [String.ofList_toList] at hnext
    exact ⟨c, cs, hpath, hnext⟩
  | text s =>
    obtain ⟨hq, hb⟩ := h
    have hquote : isQuote '\'' = true := by decide
    have hnext := next_escapedFor hquote s.toList t
    rw [escapedFor_eq_self hq hb, String.ofList_toList] at hnext
    have hdescribe : describe (text s) = "'" ++ s ++ "'" := rfl
    exact ⟨'\'', s.toList ++ ['\''], by simp [hdescribe], by simpa using hnext⟩
  | symbol name =>
    exact ⟨':', name.toList, by simp [describe], IsSegment.next_symbol h ht⟩
  | key name =>
    obtain ⟨c, cs, hname, hnext⟩ := IsName.next_key h ht
    rw [String.ofList_toList] at hnext
    exact ⟨c, cs ++ [':'], by simp [describe, hname], by simpa using hnext⟩
  | number digits =>
    obtain ⟨c, cs, hdigits, hnext⟩ := IsNumber.next_number h ht
    rw [String.ofList_toList] at hnext
    exact ⟨c, cs, hdigits, hnext⟩
  | operator op => exact next_operator op ht
  | openParen => exact ⟨'(', [], rfl, rfl⟩
  | closeParen => exact ⟨')', [], rfl, rfl⟩
  | comma => exact ⟨',', [], rfl, rfl⟩
  | punctuation c => exact ⟨c, [], by simp [describe], next_punctuation h ht⟩
  | newline => exact absurd h id

/-- A legible lexeme is cut off before other lexemes. -/
lemma Legible.scans {l : Lexeme} {ls : List Lexeme} (h : l.Legible) (ht : Ends t)
    (hs : Scans t ls) : Scans (l.describe.toList ++ t) (l :: ls) := by
  obtain ⟨c, cs, hdescribe, hnext⟩ := h.next_describe ht
  rw [hdescribe, List.cons_append]
  exact .cons hnext hs

/-- Legible lexemes with blanks between them are cut as they were printed. -/
lemma scans_intercalate {ls : List Lexeme} (h : ∀ l ∈ ls, l.Legible) :
    Scans (String.intercalate " " (ls.map describe)).toList ls := by
  induction ls with
  | nil => exact .nil
  | cons l ls ih =>
    obtain ⟨hl, hls⟩ := List.forall_mem_cons.1 h
    have hrest := ih hls
    cases ls with
    | nil =>
      rw [List.map_cons, List.map_nil, String.intercalate_singleton]
      simpa using hl.scans (.inl rfl) .nil
    | cons m ls =>
      rw [List.map_cons, List.map_cons] at *
      rw [String.intercalate_cons_cons, String.toList_append, String.toList_append,
        List.append_assoc]
      exact hl.scans (.inr ⟨_, rfl⟩) (scans_space_iff.2 hrest)

/-- Legible lexemes that are printed with a blank between any two of them are read again, each on
its line. A text in quotes of either kind is read as one string with the text in it, if every such
quote and every backslash in it has a backslash before it. -/
theorem scan_printed :
    (∀ ls : List Lexeme, (∀ l ∈ ls, l.Legible) →
      scan (String.intercalate " " (ls.map describe)) = .ok (place 1 ls)) ∧
    ∀ (quote : Char) (s : String), isQuote quote = true →
      scan (String.ofList (quote :: (escapedFor quote s.toList ++ [quote]))) =
        .ok [⟨.text s, 1⟩] := by
  constructor
  · exact fun ls h => (scans_intercalate h).scanFrom_eq 1
  · intro quote s hq
    have hnext := next_escapedFor hq s.toList []
    rw [String.ofList_toList] at hnext
    rw [scan, String.toList_ofList]
    exact Scans.scanFrom_eq (.cons hnext .nil) 1

/-- Signs that could go on with one another, a key and a symbol side by side, a line break in a
text, and a text with both quotes and a backslash. -/
theorem scan_printed_signs :
    (∀ l ∈ [.word "Hardware::CPU.intel?", .punctuation '=', .operator .eq, .operator .not,
      .punctuation '=', .key "os", .symbol "_x11", .text "a\n#\"", .number "10.."], Legible l) ∧
    scan "Hardware::CPU.intel? = == ! = os: :_x11 'a\n#\"' 10.." =
      .ok [⟨.word "Hardware::CPU.intel?", 1⟩, ⟨.punctuation '=', 1⟩, ⟨.operator .eq, 1⟩,
        ⟨.operator .not, 1⟩, ⟨.punctuation '=', 1⟩, ⟨.key "os", 1⟩, ⟨.symbol "_x11", 1⟩,
        ⟨.text "a\n#\"", 1⟩, ⟨.number "10..", 2⟩] ∧
    scan "\"'\\\"\\\\\"" = .ok [⟨.text "'\"\\", 1⟩] := by
  have hlegible : ∀ l ∈ [.word "Hardware::CPU.intel?", .punctuation '=', .operator .eq,
      .operator .not, .punctuation '=', .key "os", .symbol "_x11", .text "a\n#\"",
      .number "10.."], Legible l := by
    have hintel : IsPath ("Hardware".toList ++ ':' :: ':' :: ("CPU".toList ++ '.' ::
        "intel".toList)) :=
      .colons ⟨by decide, by decide⟩ (.dot ⟨by decide, by decide⟩ (.segment ⟨by decide, by decide⟩))
    have hos : IsPath "os".toList := .segment ⟨by decide, by decide⟩
    simp only [List.forall_mem_cons, Legible, true_and]
    exact ⟨⟨_, hintel, .inr (by decide)⟩, by decide, by decide, ⟨_, hos, .inl rfl⟩,
      ⟨by decide, by decide⟩, ⟨by decide, by decide⟩, ⟨'1', ['0', '.', '.'], by decide, by decide,
      by decide⟩, List.forall_mem_nil _⟩
  exact ⟨hlegible, scan_printed.1 _ hlegible, scan_printed.2 '"' "'\"\\" (by decide)⟩

end CaskAudit.Lexeme
