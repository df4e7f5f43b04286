import CaskAudit.Lexeme.Basic
import CaskAudit.Text.Blank
import CaskAudit.Text.Decimal
import CaskAudit.Text.Pieces

/-!
# Scanning

Cuts a source text into lexemes. Blanks and comments are dropped, line breaks are kept, and every
lexeme carries the line on which it begins. `next_length_le` bounds what a lexeme leaves, so the
scan ends with the text.
-/

namespace CaskAudit.Lexeme

open Text

/-- Why a text cannot be cut into lexemes. -/
inductive ScanFault where
  | unterminatedString
  | unexpectedCharacter (c : Char)
  deriving DecidableEq, Repr

/-- A fault in words. -/
def ScanFault.describe : ScanFault → String
  | .unterminatedString => "unterminated string"
  | .unexpectedCharacter c => s!"unexpected character '{c}'"

/-- A fault with its line. -/
structure ScanError where
  line : Nat
  fault : ScanFault
  deriving DecidableEq, Repr

/-- Whether a character may begin a word. -/
def isWordStart (c : Char) : Bool := c.isAlpha || c == '_'

/-- Whether a character may go on with a word. -/
def isWordPart (c : Char) : Bool := c.isAlphanum || c == '_'

/-- Whether a text begins with the start of a word. -/
def startsWord : List Char → Bool
  | [] => false
  | c :: _ => isWordStart c

/-- Reads the rest of a path: word characters, and separators that another word follows. -/
def readPath : List Char → List Char × List Char
  | [] => ([], [])
  | c :: rest =>
    if isWordPart c || (c == '.' && startsWord rest) then
      let (path, after) := readPath rest
      (c :: path, after)
    else
      match c, rest with
      | ':', ':' :: rest' =>
        if startsWord rest' then
          let (path, after) := readPath rest'
          (':' :: ':' :: path, after)
        else ([], c :: rest)
      | _, _ => ([], c :: rest)

/-- Reads a string up to its closing quote; a backslash stands for the character after it. -/
def readString (quote : Char) : List Char → Option (List Char × List Char)
  | [] => none
  | c :: rest =>
    if c = quote then some ([], rest)
    else if c = '\\' then
      match rest with
      | [] => none
      | d :: rest' => (readString quote rest').map fun (s, after) => (d :: s, after)
    else (readString quote rest).map fun (s, after) => (c :: s, after)

/-- The first operator that a text begins with, and the text after it. -/
def readOperator? (s : List Char) : Option (Operator × List Char) :=
  Operator.all.findSome? fun op => (dropLeading? op.symbol.toList s).map (op, ·)

/-- The characters that stand for themselves outside the modelled language. -/
def punctuationChars : List Char := "[]\x7b\x7d=|.;+-*/%~&@".toList

/-- A path, which is a keyword where a single colon follows it. -/
def wordOrKey (path : List Char) : List Char → Lexeme × List Char
  | ':' :: ':' :: rest => (.word (String.ofList path), ':' :: ':' :: rest)
  | ':' :: rest => (.key (String.ofList path), rest)
  | rest => (.word (String.ofList path), rest)

/-- A path without and with the question mark that may end it. -/
def withQuestionMark (path : List Char) : List Char → List Char × List Char
  | '?' :: rest => (path ++ ['?'], rest)
  | rest => (path, rest)

/-- Reads the word or the key that begins with a character. -/
def readWord (c : Char) (rest : List Char) : Lexeme × List Char :=
  let (path, after) := readPath rest
  let (path', after') := withQuestionMark (c :: path) after
  wordOrKey path' after'

/-- Reads the parenthesis, comma, operator or other sign that begins with a character. -/
def readSign (c : Char) (rest : List Char) : Except ScanFault (Lexeme × List Char) :=
  match c with
  | '(' => .ok (.openParen, rest)
  | ')' => .ok (.closeParen, rest)
  | ',' => .ok (.comma, rest)
  | c =>
    match readOperator? (c :: rest) with
    | some (op, after) => .ok (.operator op, after)
    | none =>
      if punctuationChars.contains c then .ok (.punctuation c, rest)
      else .error (.unexpectedCharacter c)

/-- Whether a character belongs to a number. -/
def inNumber (c : Char) : Bool := isAsciiDigit c || c == '.'

/-- Whether a character begins and ends strings. -/
def isQuote (c : Char) : Bool := c == '\'' || c == '"'

/-- Reads the lexeme that begins with a character which is neither blank nor the start of a
comment. -/
def readLexeme (c : Char) (rest : List Char) : Except ScanFault (Lexeme × List Char) :=
  if isQuote c then
    match readString c rest with
    | none => .error .unterminatedString
    | some (s, after) => .ok (.text (String.ofList s), after)
  else if c == ':' && startsWord rest then
    .ok (.symbol (String.ofList (rest.takeWhile isWordPart)), rest.dropWhile isWordPart)
  else if isAsciiDigit c then
    .ok (.number (String.ofList (c :: rest.takeWhile inNumber)), rest.dropWhile inNumber)
  else if isWordStart c then .ok (readWord c rest)
  else readSign c rest

/-- Reads what a character begins; blanks and comments give no lexeme. -/
def next (c : Char) (rest : List Char) : Except ScanFault (Option Lexeme × List Char) :=
  if c == '\n' then .ok (some .newline, rest)
  else if isBlank c then .ok (none, rest)
  else if c == '#' then .ok (none, rest.dropWhile (· ≠ '\n'))
  else
    match readLexeme c rest with
    | .error fault => .error fault
    | .ok (l, after) => .ok (some l, after)

/-- The number of line breaks inside a lexeme. -/
def lineBreaks : Lexeme → Nat
  | .text s => s.toList.count '\n'
  | .newline => 1
  | _ => 0

/-! ## What a lexeme leaves -/

/-- A path leaves no more than it was read from. -/
theorem readPath_length_le (s : List Char) : (readPath s).2.length ≤ s.length := by
  fun_induction readPath s with
  | case1 => simp
  | case2 c rest h path after hp ih => simp only [hp] at ih ⊢; simp only [List.length_cons]; omega
  | case3 rest' hs path after hp _ ih =>
    simp only [hp] at ih ⊢; simp only [List.length_cons]; omega
  | case4 => simp
  | case5 => simp

/-- A string leaves less than it was read from. -/
theorem readString_length_le {quote : Char} {s t after : List Char}
    (h : readString quote s = some (t, after)) : after.length ≤ s.length := by
  fun_induction readString quote s generalizing t with
  | case1 => simp at h
  | case2 rest => simp only [Option.some.injEq, Prod.mk.injEq] at h; simp [← h.2]
  | case3 => simp at h
  | case4 _ d rest' ih =>
    simp only [Option.map_eq_some_iff] at h
    obtain ⟨⟨u, a⟩, hu, he⟩ := h
    simp only [Prod.mk.injEq] at he
    have := ih (he.2 ▸ hu)
    simp only [List.length_cons]
    omega
  | case5 c rest _ _ ih =>
    simp only [Option.map_eq_some_iff] at h
    obtain ⟨⟨u, a⟩, hu, he⟩ := h
    simp only [Prod.mk.injEq] at he
    have := ih (he.2 ▸ hu)
    simp only [List.length_cons]
    omega

/-- An operator leaves less than it was read from. -/
theorem readOperator?_length_lt {s after : List Char} {op : Operator}
    (h : readOperator? s = some (op, after)) : after.length < s.length := by
  unfold readOperator? at h
  obtain ⟨op', -, h'⟩ := List.exists_of_findSome?_eq_some h
  simp only [Option.map_eq_some_iff, Prod.mk.injEq] at h'
  obtain ⟨a, ha, rfl, rfl⟩ := h'
  have hs := length_of_dropLeading? ha
  have hp : 0 < op'.symbol.toList.length := by cases op' <;> decide
  omega

/-- A word leaves no more than what follows its first character. -/
theorem readWord_length_le (c : Char) (rest : List Char) :
    (readWord c rest).2.length ≤ rest.length := by
  have h1 := readPath_length_le rest
  have h2 : ∀ p s, (withQuestionMark p s).2.length ≤ s.length := by
    intro p s; unfold withQuestionMark; split <;> simp
  have h3 : ∀ p s, (wordOrKey p s).2.length ≤ s.length := by
    intro p s; unfold wordOrKey; split <;> simp
  exact Nat.le_trans (h3 _ _) (Nat.le_trans (h2 _ _) h1)

/-- A sign leaves no more than what follows its first character. -/
theorem readSign_length_le {c : Char} {rest after : List Char} {l : Lexeme}
    (h : readSign c rest = .ok (l, after)) : after.length ≤ rest.length := by
  unfold readSign at h
  split at h
  · simp only [Except.ok.injEq, Prod.mk.injEq] at h; simp [h.2]
  · simp only [Except.ok.injEq, Prod.mk.injEq] at h; simp [h.2]
  · simp only [Except.ok.injEq, Prod.mk.injEq] at h; simp [h.2]
  · split at h
    · next ho =>
      simp only [Except.ok.injEq, Prod.mk.injEq] at h
      have := readOperator?_length_lt ho
      rw [← h.2]; simp only [List.length_cons] at this; omega
    · split at h
      · simp only [Except.ok.injEq, Prod.mk.injEq] at h; simp [h.2]
      · simp at h

/-- A lexeme leaves no more than what follows its first character. -/
theorem readLexeme_length_le {c : Char} {rest after : List Char} {l : Lexeme}
    (h : readLexeme c rest = .ok (l, after)) : after.length ≤ rest.length := by
  unfold readLexeme at h
  split at h
  · split at h
    · simp at h
    · next hr =>
      simp only [Except.ok.injEq, Prod.mk.injEq] at h
      rw [← h.2]; exact readString_length_le hr
  · split at h
    · simp only [Except.ok.injEq, Prod.mk.injEq] at h
      rw [← h.2]; exact (List.dropWhile_sublist _).length_le
    · split at h
      · simp only [Except.ok.injEq, Prod.mk.injEq] at h
        rw [← h.2]; exact (List.dropWhile_sublist _).length_le
      · split at h
        · simp only [Except.ok.injEq] at h
          have := readWord_length_le c rest
          rw [h] at this; exact this
        · exact readSign_length_le h

/-- What a character begins leaves no more than what follows the character. -/
theorem next_length_le {c : Char} {rest after : List Char} {l : Option Lexeme}
    (h : next c rest = .ok (l, after)) : after.length ≤ rest.length := by
  unfold next at h
  split at h
  · simp only [Except.ok.injEq, Prod.mk.injEq] at h; simp [h.2]
  · split at h
    · simp only [Except.ok.injEq, Prod.mk.injEq] at h; simp [h.2]
    · split at h
      · simp only [Except.ok.injEq, Prod.mk.injEq] at h
        rw [← h.2]; exact (List.dropWhile_sublist _).length_le
      · split at h
        · simp at h
        · next hr =>
          simp only [Except.ok.injEq, Prod.mk.injEq] at h
          rw [← h.2]; exact readLexeme_length_le hr

/-! ## The scan -/

/-- The lexemes of a text that begins on a given line. -/
def scanFrom (line : Nat) : List Char → Except ScanError (List Placed)
  | [] => .ok []
  | c :: rest =>
    match h : next c rest with
    | .error fault => .error ⟨line, fault⟩
    | .ok (none, after) =>
      have := next_length_le h
      scanFrom line after
    | .ok (some l, after) =>
      have := next_length_le h
      match scanFrom (line + l.lineBreaks) after with
      | .error e => .error e
      | .ok ls => .ok (⟨l, line⟩ :: ls)
termination_by s => s.length
decreasing_by all_goals (simp only [List.length_cons]; omega)

/-- The lexemes of a source text. -/
def scan (src : String) : Except ScanError (List Placed) := scanFrom 1 src.toList

end CaskAudit.Lexeme
