import CaskAudit.Json.Basic
import CaskAudit.Limits
import CaskAudit.Text.Decimal

/-!
# Reading JSON

A reader of JSON texts: blanks are space, tab, line feed and carriage return, a number has no
leading zeros, and a string holds no control character. Nesting is not limited.
-/

namespace CaskAudit.Json

open CaskAudit.Text

/-- Whether a character may stand between the tokens of a JSON text. -/
def isSpace (c : Char) : Bool := c == ' ' || c == '\n' || c == '\t' || c == '\r'

/-- A text without its leading spaces. -/
def skipSpace (s : List Char) : List Char := s.dropWhile isSpace

/-- The value of a hexadecimal digit. -/
def hexValue? (c : Char) : Option Nat :=
  if isAsciiDigit c then some (digitValue c)
  else if 'a' ≤ c && c ≤ 'f' then some (c.toNat - 'a'.toNat + 10)
  else if 'A' ≤ c && c ≤ 'F' then some (c.toNat - 'A'.toNat + 10)
  else none

/-- The number that four hexadecimal digits write. -/
def hexQuad? (a b c d : Char) : Option Nat := do
  return (((← hexValue? a) * 16 + (← hexValue? b)) * 16 + (← hexValue? c)) * 16 + (← hexValue? d)

/-- The character that a one-letter escape stands for. -/
def plainEscape? (c : Char) : Option Char :=
  if c = '"' ∨ c = '\\' ∨ c = '/' then some c
  else if c = 'b' then some '\x08'
  else if c = 'f' then some '\x0c'
  else if c = 'n' then some '\n'
  else if c = 'r' then some '\r'
  else if c = 't' then some '\t'
  else none

/-- The low surrogate that an escape at the start of a text names, with the text after it. -/
def lowSurrogate? : List Char → Option (Nat × List Char)
  | '\\' :: 'u' :: a :: b :: c :: d :: rest =>
    match hexQuad? a b c d with
    | some n => if 0xDC00 ≤ n ∧ n < 0xE000 then some (n, rest) else none
    | none => none
  | _ => none

/-- What follows a low surrogate is shorter than the text that begins with it. -/
theorem length_lt_of_lowSurrogate? {s rest : List Char} {n : Nat}
    (h : lowSurrogate? s = some (n, rest)) : rest.length < s.length := by
  unfold lowSurrogate? at h
  split at h
  · split at h
    · split at h
      · simp only [Option.some.injEq, Prod.mk.injEq] at h
        obtain ⟨-, rfl⟩ := h
        simp only [List.length_cons]
        omega
      · simp at h
    · simp at h
  · simp at h

/-- Reads the characters of a string up to its closing quote. The characters are absent if an
escape names an unpaired surrogate; a malformed literal gives nothing at all. -/
def readString : List Char → Option (Option (List Char) × List Char)
  | [] => none
  | '"' :: rest => some (some [], rest)
  | '\\' :: 'u' :: a :: b :: c :: d :: rest =>
    match hexQuad? a b c d with
    | none => none
    | some n =>
      if 0xD800 ≤ n ∧ n < 0xDC00 then
        match h : lowSurrogate? rest with
        | some (low, after) =>
          have := length_lt_of_lowSurrogate? h
          (readString after).map fun (cs, end_) =>
            (cs.map (Char.ofNat (0x10000 + (n - 0xD800) * 0x400 + (low - 0xDC00)) :: ·), end_)
        | none => (readString rest).map fun (_, end_) => (none, end_)
      else if 0xDC00 ≤ n ∧ n < 0xE000 then
        (readString rest).map fun (_, end_) => (none, end_)
      else (readString rest).map fun (cs, end_) => (cs.map (Char.ofNat n :: ·), end_)
  | '\\' :: c :: rest =>
    match plainEscape? c with
    | none => none
    | some e => (readString rest).map fun (cs, end_) => (cs.map (e :: ·), end_)
  | c :: rest =>
    if c.toNat < 0x20 ∨ c = '\\' then none
    else (readString rest).map fun (cs, end_) => (cs.map (c :: ·), end_)
termination_by s => s.length
decreasing_by all_goals (simp only [List.length_cons]; omega)

/-- The digits at the start of a text and the text after them. -/
def digitsOf (s : List Char) : List Char × List Char :=
  (s.takeWhile isAsciiDigit, s.dropWhile isAsciiDigit)

/-- Reads the digits of a whole number: a zero alone, or digits that begin with another one. -/
def readWhole : List Char → Option (List Char × List Char)
  | '0' :: rest => some (['0'], rest)
  | c :: rest => if isAsciiDigit c then some (digitsOf (c :: rest)) else none
  | [] => none

/-- Reads the fraction of a number, if there is one. -/
def readFraction : List Char → Option (List Char × List Char)
  | '.' :: rest =>
    let (digits, after) := digitsOf rest
    if digits.isEmpty then none else some ('.' :: digits, after)
  | s => some ([], s)

/-- Reads the exponent of a number, if there is one. -/
def readExponent : List Char → Option (List Char × List Char)
  | [] => some ([], [])
  | c :: rest =>
    if c = 'e' ∨ c = 'E' then
      let (sign, body) := match rest with
        | '+' :: body => (['+'], body)
        | '-' :: body => (['-'], body)
        | body => ([], body)
      let (digits, after) := digitsOf body
      if digits.isEmpty then none else some (c :: sign ++ digits, after)
    else some ([], c :: rest)

/-- The value of a number without fraction and exponent: an integer where it fits. -/
def wholeNumber (negative : Bool) (digits : List Char) : Json :=
  let n := ofDigits digits
  let text := String.ofList (if negative then '-' :: digits else digits)
  if negative then
    if 0 < n ∧ FitsSigned64 (-(n : Int)) then .int (-(n : Int)) else .decimal text
  else if n < limit64 then .int n else .decimal text

/-- Reads a number. -/
def readNumber (s : List Char) : Option (Json × List Char) := do
  let (negative, body) := match s with
    | '-' :: body => (true, body)
    | body => (false, body)
  let (whole, s₁) ← readWhole body
  let (fraction, s₂) ← readFraction s₁
  let (exponent, s₃) ← readExponent s₂
  if fraction.isEmpty && exponent.isEmpty then
    return (wholeNumber negative whole, s₃)
  else
    let text := (if negative then ['-'] else []) ++ whole ++ fraction ++ exponent
    return (.decimal (String.ofList text), s₃)

/-- The value that a string literal denotes. -/
def ofCharacters : Option (List Char) → Json
  | some cs => .string (String.ofList cs)
  | none => .brokenString

mutual

/-- Reads one value; the fuel bounds the number of nested calls. -/
def readValue : Nat → List Char → Option (Json × List Char)
  | 0, _ => none
  | fuel + 1, s =>
    match s with
    | 'n' :: 'u' :: 'l' :: 'l' :: rest => some (.null, rest)
    | 't' :: 'r' :: 'u' :: 'e' :: rest => some (.bool true, rest)
    | 'f' :: 'a' :: 'l' :: 's' :: 'e' :: rest => some (.bool false, rest)
    | '"' :: rest => (readString rest).map fun (cs, after) => (ofCharacters cs, after)
    | '[' :: rest =>
      match skipSpace rest with
      | ']' :: after => some (.array [], after)
      | inner => (readItems fuel inner).map fun (items, after) => (.array items, after)
    | '\x7b' :: rest =>
      match skipSpace rest with
      | '\x7d' :: after => some (.object [], after)
      | inner => (readMembers fuel inner).map fun (ms, after) => (.object ms, after)
    | _ => readNumber s

/-- Reads the items of an array up to its closing bracket. -/
def readItems : Nat → List Char → Option (List Json × List Char)
  | 0, _ => none
  | fuel + 1, s =>
    match readValue fuel s with
    | none => none
    | some (item, after) =>
      match skipSpace after with
      | ']' :: rest => some ([item], rest)
      | ',' :: rest =>
        (readItems fuel (skipSpace rest)).map fun (items, end_) => (item :: items, end_)
      | _ => none

/-- Reads the members of an object up to its closing brace. -/
def readMembers : Nat → List Char → Option (List (String × Json) × List Char)
  | 0, _ => none
  | fuel + 1, s =>
    match s with
    | '"' :: r₁ =>
      match readString r₁ with
      | some (some name, r₂) =>
        match skipSpace r₂ with
        | ':' :: r₃ =>
          match readValue fuel (skipSpace r₃) with
          | none => none
          | some (value, r₄) =>
            let here := (String.ofList name, value)
            match skipSpace r₄ with
            | '\x7d' :: rest => some ([here], rest)
            | ',' :: rest =>
              (readMembers fuel (skipSpace rest)).map fun (ms, end_) => (here :: ms, end_)
            | _ => none
        | _ => none
      | _ => none
    | _ => none

end

/-- The value that a whole text writes. -/
def parse? (text : String) : Option Json :=
  let s := skipSpace text.toList
  match readValue (2 * s.length + 2) s with
  | some (value, rest) => if (skipSpace rest).isEmpty then some value else none
  | none => none

end CaskAudit.Json
