import CaskAudit.Json.Reader
import CaskAudit.Limits
import CaskAudit.Pattern.Basic

/-!
# Reading search patterns

The syntax of patterns: alternatives, repetition with `*`, `+`, `?` and counts, groups with flags,
bracketed classes with set operations, escapes and boundaries. Look-around and references to groups
are not part of it and are refused, like any other malformed pattern.
-/

namespace CaskAudit.Pattern

open CaskAudit.Text CaskAudit.Json

/-- The flags in force at a place of a pattern. -/
structure Flags where
  ignoreCase : Bool
  multiLine : Bool
  dotAll : Bool
  verbose : Bool

/-- The flags at the start of a pattern. -/
def Flags.initial : Flags := ⟨false, false, false, false⟩

/-- A text without the blanks and comments that verbose patterns may hold between their parts. -/
def skipVerbose (flags : Flags) : Nat → List Char → List Char
  | 0, s => s
  | fuel + 1, s =>
    if !flags.verbose then s
    else match s.dropWhile isBlank with
      | '#' :: rest => skipVerbose flags fuel (rest.dropWhile (· != '\n'))
      | s' => s'

/-- The set of one character. -/
def single (flags : Flags) (c : Char) : CharSet := .range c c flags.ignoreCase

/-- The class that a letter escape names, negated for a capital. -/
def namedEscape? : Char → Option CharSet
  | 'd' => some (.named .digit)
  | 'D' => some (.compl (.named .digit))
  | 's' => some (.named .space)
  | 'S' => some (.compl (.named .space))
  | 'w' => some (.named .word)
  | 'W' => some (.compl (.named .word))
  | _ => none

/-- The class that a property name denotes, as far as the tables of this library go. -/
def propertyClass? (name : String) : Option CharSet :=
  let isSpacer := fun c : Char => c == '_' || c == '-' || c == ' '
  match String.ofList ((lowercase name.toList).filter (!isSpacer ·)) with
  | "alphabetic" | "alpha" | "l" | "letter" => some (.named .alphabetic)
  | "nd" | "decimalnumber" | "digit" => some (.named .digit)
  | "whitespace" | "space" | "wspace" => some (.named .space)
  | "ascii" => some (.named .ascii)
  | "any" => some (.compl .empty)
  | _ => none

/-- The class that a bracketed ASCII name denotes. -/
def bracketClass? : String → Option NamedClass
  | "alnum" => some .alnum
  | "alpha" => some .alpha
  | "ascii" => some .ascii
  | "blank" => some .blank
  | "cntrl" => some .cntrl
  | "digit" => some .asciiDigit
  | "graph" => some .graph
  | "lower" => some .lower
  | "print" => some .print
  | "punct" => some .punct
  | "space" => some .asciiSpace
  | "upper" => some .upper
  | "word" => some .asciiWord
  | "xdigit" => some .xdigit
  | _ => none

/-- The scalar value that hexadecimal digits write. -/
def hexScalar? (digits : List Char) : Option Char := do
  if digits.isEmpty then none
  let values ← digits.mapM hexValue?
  let n := values.foldl (fun n d => 16 * n + d) 0
  if h : n.isValidChar then return Char.ofNatAux n h else none

/-- Reads the digits of a hexadecimal escape: a fixed number of them, or any number in braces. -/
def readHex (count : Nat) : List Char → Option (Char × List Char)
  | '\x7b' :: rest =>
    match splitAtBrace rest with
    | some (digits, after) => (hexScalar? digits).map (·, after)
    | none => none
  | s =>
    if s.length < count then none else (hexScalar? (s.take count)).map (·, s.drop count)
where
  /-- The text before the next closing brace and the text after it. -/
  splitAtBrace (s : List Char) : Option (List Char × List Char) :=
    match s.dropWhile (· != '\x7d') with
    | _ :: after => some (s.takeWhile (· != '\x7d'), after)
    | [] => none

/-- What an escape stands for. -/
inductive Escape where
  | char (c : Char)
  | set (s : CharSet)
  | boundary (b : Boundary)

/-- The names of the boundaries that are written in braces. -/
def braceBoundary? : String → Option Boundary
  | "start" => some .wordStart
  | "end" => some .wordEnd
  | "start-half" => some .wordStartHalf
  | "end-half" => some .wordEndHalf
  | _ => none

/-- Reads the name of a property after `p`. -/
def readProperty (negated : Bool) : List Char → Option (Escape × List Char)
  | '\x7b' :: rest => do
    let (name, after) ← readHex.splitAtBrace rest
    let (flip, name) := match name with
      | '^' :: name => (true, name)
      | name => (false, name)
    let chars ← propertyClass? (String.ofList name)
    return (.set (if negated != flip then .compl chars else chars), after)
  | c :: rest => do
    let chars ← propertyClass? (String.singleton c)
    return (.set (if negated then .compl chars else chars), rest)
  | [] => none

/-- Reads an escape after its backslash. -/
def readEscape : List Char → Option (Escape × List Char)
  | [] => none
  | c :: rest =>
    match namedEscape? c with
    | some chars => some (.set chars, rest)
    | none =>
      if c = 'x' then (readHex 2 rest).map fun (d, after) => (.char d, after)
      else if c = 'u' then (readHex 4 rest).map fun (d, after) => (.char d, after)
      else if c = 'U' then (readHex 8 rest).map fun (d, after) => (.char d, after)
      else if c = 'p' then readProperty false rest
      else if c = 'P' then readProperty true rest
      else if c = 'n' then some (.char '\n', rest)
      else if c = 't' then some (.char '\t', rest)
      else if c = 'r' then some (.char '\r', rest)
      else if c = 'f' then some (.char '\x0c', rest)
      else if c = 'v' then some (.char '\x0b', rest)
      else if c = 'a' then some (.char '\x07', rest)
      else if c = 'A' then some (.boundary .textStart, rest)
      else if c = 'z' then some (.boundary .textEnd, rest)
      else if c = 'B' then some (.boundary .notWord, rest)
      else if c = '<' then some (.boundary .wordStart, rest)
      else if c = '>' then some (.boundary .wordEnd, rest)
      else if c = 'b' then
        match rest with
        | '\x7b' :: inner =>
          match readHex.splitAtBrace inner with
          | some (name, after) =>
            (braceBoundary? (String.ofList name)).map fun b => (.boundary b, after)
          | none => none
        | _ => some (.boundary .word, rest)
      else if c.toNat < 0x80 && !c.isAlphanum then some (.char c, rest)
      else none

/-! ## Bracketed classes -/

/-- A part of a bracketed class: a character that may begin a range, or a set. -/
inductive ClassItem where
  | char (c : Char)
  | set (s : CharSet)

/-- Reads a character or an escape inside brackets. -/
def readClassItem : List Char → Option (ClassItem × List Char)
  | [] => none
  | '\\' :: rest =>
    match readEscape rest with
    | some (.char c, after) => some (.char c, after)
    | some (.set s, after) => some (.set s, after)
    | _ => none
  | c :: rest => some (.char c, rest)

/-- Reads a bracketed ASCII class such as `:alpha:`, the opening bracket already read. -/
def readBracketClass (s : List Char) : Option (CharSet × List Char) :=
  match s with
  | ':' :: rest =>
    let (negated, rest) := match rest with
      | '^' :: rest => (true, rest)
      | rest => (false, rest)
    let name := rest.takeWhile Char.isLower
    match rest.dropWhile Char.isLower with
    | ':' :: ']' :: after =>
      (bracketClass? (String.ofList name)).map fun c =>
        (if negated then .compl (.named c) else .named c, after)
    | _ => none
  | _ => none

/-- A set operation of bracketed classes. -/
inductive ClassOperator where
  | inter | diff | symmDiff

/-- The set that an operation makes of two. -/
def ClassOperator.apply (a b : CharSet) : ClassOperator → CharSet
  | .inter => .inter a b
  | .diff => .diff a b
  | .symmDiff => .union (.diff a b) (.diff b a)

/-- The set so far, once the operation that waits for its right side is applied. -/
def closeOperand (pending : Option (CharSet × ClassOperator)) (current : CharSet) : CharSet :=
  match pending with
  | none => current
  | some (left, op) => op.apply left current

/-- Reads how a class begins after its opening bracket: whether it is negated, and the characters
that count as members only there, which are hyphens or else one closing bracket. -/
def readClassStart (flags : Flags) (s : List Char) : Bool × CharSet × List Char :=
  let (negated, s) := match s with
    | '^' :: rest => (true, rest)
    | rest => (false, rest)
  match skipVerbose flags (s.length + 1) s with
  | '-' :: rest => (negated, single flags '-', rest.dropWhile (· == '-'))
  | ']' :: rest => (negated, single flags ']', rest)
  | rest => (negated, .empty, rest)

mutual

/-- Reads a class up to its closing bracket. `pending` is a left side with its operation, and
`current` the union of the items since. -/
def readClass (flags : Flags) :
    Nat → Option (CharSet × ClassOperator) → CharSet → List Char → Option (CharSet × List Char)
  | 0, _, _, _ => none
  | fuel + 1, pending, current, s =>
    let operator (op : ClassOperator) (rest : List Char) :=
      readClass flags fuel (some (closeOperand pending current, op)) .empty rest
    match skipVerbose flags (s.length + 1) s with
    | [] => none
    | ']' :: rest => some (closeOperand pending current, rest)
    | '[' :: rest =>
      match readBracketClass rest with
      | some (chars, after) => readClass flags fuel pending (.union current chars) after
      | none =>
        let (negated, start, inner) := readClassStart flags rest
        match readClass flags fuel none start inner with
        | some (chars, after) =>
          let chars := if negated then .compl chars else chars
          readClass flags fuel pending (.union current chars) after
        | none => none
    | '&' :: '&' :: rest => operator .inter rest
    | '~' :: '~' :: rest => operator .symmDiff rest
    | '-' :: '-' :: rest => operator .diff rest
    | s' =>
      match readClassItem s' with
      | some (item, rest) => readMember flags fuel pending current item rest
      | none => none

/-- Goes on after an item of a class, which may begin a range. -/
def readMember (flags : Flags) :
    Nat → Option (CharSet × ClassOperator) → CharSet → ClassItem → List Char →
      Option (CharSet × List Char)
  | 0, _, _, _, _ => none
  | fuel + 1, pending, current, item, rest =>
    let goOn (chars : CharSet) (rest : List Char) :=
      readClass flags fuel pending (.union current chars) rest
    let alone := match item with
      | .set chars => chars
      | .char c => single flags c
    match skipVerbose flags (rest.length + 1) rest with
    | '-' :: after =>
      match skipVerbose flags (after.length + 1) after with
      | ']' :: _ | '-' :: _ => goOn alone rest
      | after' =>
        match item, readClassItem after' with
        | .char lo, some (.char hi, end_) =>
          if lo ≤ hi then goOn (.range lo hi flags.ignoreCase) end_ else none
        | _, _ => none
    | _ => goOn alone rest

end

/-! ## Patterns -/

/-- Applies the letters of a flag group; no letter may stand twice, and a minus sign needs one
after it. -/
def applyFlags : Bool → List Char → Flags → List Char → Option Flags
  | negated, seen, flags, [] => if negated && seen.head? == some '-' then none else some flags
  | negated, seen, flags, c :: rest =>
    if seen.contains c then none
    else
      let on := !negated
      let changed : Option Flags := match c with
        | 'i' => some { flags with ignoreCase := on }
        | 'm' => some { flags with multiLine := on }
        | 's' => some { flags with dotAll := on }
        | 'x' => some { flags with verbose := on }
        | '-' | 'U' | 'u' | 'R' => some flags
        | _ => none
      match changed with
      | some flags' => applyFlags (negated || c == '-') (c :: seen) flags' rest
      | none => none

/-- Reads the digits of a number and the blanks around them. -/
def readDigits (s : List Char) : List Char × List Char :=
  let (digits, rest) := digitsOf (s.dropWhile isBlank)
  (digits, rest.dropWhile isBlank)

/-- Reads a count in braces: one number, or a least and perhaps a greatest one. -/
def readCount (s : List Char) : Option (Nat × Option Nat × List Char) := do
  let (low, rest) := readDigits s
  let min ← readBelow? limit32 low
  match rest with
  | '\x7d' :: after => return (min, some min, after)
  | ',' :: '\x7d' :: after => return (min, none, after)
  | ',' :: rest =>
    let (high, rest) := readDigits rest
    let max ← readBelow? limit32 high
    match rest with
    | '\x7d' :: after => if min ≤ max then return (min, some max, after) else none
    | _ => none
  | _ => none

/-- The least and greatest number of times that an operator at the start of a text asks for; its
lazy form finds the same texts. -/
def readRepetition (s : List Char) : Option (Option (Nat × Option Nat × List Char)) :=
  let eager : List Char → List Char
    | '?' :: rest => rest
    | rest => rest
  match s with
  | '*' :: rest => some (some (0, none, eager rest))
  | '+' :: rest => some (some (1, none, eager rest))
  | '?' :: rest => some (some (0, some 1, eager rest))
  | '\x7b' :: rest =>
    match readCount rest with
    | some (min, max, after) => some (some (min, max, eager after))
    | none => none
  | _ => some none

/-- Applies all the repetition operators that follow a pattern. -/
def readRepetitions (flags : Flags) : Nat → Pattern → List Char → Option (Pattern × List Char)
  | 0, _, _ => none
  | fuel + 1, p, s =>
    let s' := skipVerbose flags (s.length + 1) s
    match readRepetition s' with
    | none => none
    | some none => some (p, s')
    | some (some (min, max, rest)) => readRepetitions flags fuel (.repetition p min max) rest

/-- Whether a text may name a group. -/
def isGroupName : List Char → Bool
  | [] => false
  | c :: rest =>
    (c == '_' || isAlphanumeric c && !isDecimalDigit c) &&
      rest.all fun d => isAlphanumeric d || d == '_' || d == '.' || d == '[' || d == ']'

/-- How a group opens. -/
inductive GroupStart where
  | plain
  | named (name : List Char)
  | flagged (flags : Flags)
  /-- Flags for the rest of the enclosing group. -/
  | flagsOnly (flags : Flags)

/-- Reads how a group opens, its parenthesis already read. -/
def readGroupStart (flags : Flags) (s : List Char) : Option (GroupStart × List Char) :=
  let nameUpTo (body : List Char) : Option (GroupStart × List Char) :=
    match body.dropWhile (· != '>') with
    | _ :: after =>
      let name := body.takeWhile (· != '>')
      if isGroupName name then some (.named name, after) else none
    | [] => none
  match s with
  | '?' :: 'P' :: '<' :: body => nameUpTo body
  | '?' :: '<' :: '=' :: _ => none
  | '?' :: '<' :: '!' :: _ => none
  | '?' :: '<' :: body => nameUpTo body
  | '?' :: body =>
    let isEnd := fun c => c == ':' || c == ')'
    let letters := body.takeWhile (!isEnd ·)
    match body.dropWhile (!isEnd ·), applyFlags false [] flags letters with
    | ':' :: after, some flags' => some (.flagged flags', after)
    | ')' :: after, some flags' =>
      if letters.isEmpty then none else some (.flagsOnly flags', after)
    | _, _ => none
  | _ => some (.plain, s)

mutual

/-- Reads alternatives up to the end of the pattern or of the group. Flags that a part sets stay in
force for the parts after it; `names` are the groups named so far. -/
def readAlternatives : Nat → Flags → List (List Char) → List Char →
    Option (Pattern × List (List Char) × List Char)
  | 0, _, _, _ => none
  | fuel + 1, flags, names, s =>
    match readSequence fuel flags names none s with
    | none => none
    | some (p, flags', names', '|' :: rest) =>
      (readAlternatives fuel flags' names' rest).map fun (q, names'', end_) =>
        (.alt p q, names'', end_)
    | some (p, _, names', rest) => some (p, names', rest)

/-- Reads the parts of one alternative; `done` is the sequence of those before. -/
def readSequence : Nat → Flags → List (List Char) → Option Pattern → List Char →
    Option (Pattern × Flags × List (List Char) × List Char)
  | 0, _, _, _, _ => none
  | fuel + 1, flags, names, done, s =>
    let append (p : Pattern) : Option Pattern := some (match done with
      | none => p
      | some q => .seq q p)
    let goOn (p : Pattern) (names : List (List Char)) (rest : List Char) :=
      match readRepetitions flags (rest.length + 1) p rest with
      | some (p', after) => readSequence fuel flags names (append p') after
      | none => none
    match skipVerbose flags (s.length + 1) s with
    | [] => some (done.getD .empty, flags, names, [])
    | '|' :: rest => some (done.getD .empty, flags, names, '|' :: rest)
    | ')' :: rest => some (done.getD .empty, flags, names, ')' :: rest)
    | '(' :: rest =>
      match readGroupStart flags rest with
      | none => none
      | some (.flagsOnly flags', after) =>
        match readRepetition (skipVerbose flags' (after.length + 1) after) with
        | some none => readSequence fuel flags' names done after
        | _ => none
      | some (start, after) =>
        let (inner, names') := match start with
          | .flagged flags' => (flags', names)
          | .named name => (flags, name :: names)
          | _ => (flags, names)
        if (match start with | .named name => names.contains name | _ => false) then none
        else
          match readAlternatives fuel inner names' after with
          | some (p, names'', ')' :: end_) => goOn p names'' end_
          | _ => none
    | '[' :: rest =>
      let (negated, start, inner) := readClassStart flags rest
      match readClass flags (2 * s.length + 2) none start inner with
      | some (chars, after) => goOn (.set (if negated then .compl chars else chars)) names after
      | none => none
    | '*' :: _ | '+' :: _ | '?' :: _ | '\x7b' :: _ => none
    | '.' :: rest =>
      let excluded := if flags.dotAll then CharSet.empty else .range '\n' '\n' false
      goOn (.set (.compl excluded)) names rest
    | '^' :: rest =>
      goOn (.boundary (if flags.multiLine then .lineStart else .textStart)) names rest
    | '$' :: rest => goOn (.boundary (if flags.multiLine then .lineEnd else .textEnd)) names rest
    | '\\' :: rest =>
      match readEscape rest with
      | none => none
      | some (.char c, after) => goOn (.set (single flags c)) names after
      | some (.set chars, after) => goOn (.set chars) names after
      | some (.boundary b, after) => goOn (.boundary b) names after
    | c :: rest => goOn (.set (single flags c)) names rest

end

/-- The largest pattern that is accepted, repetitions written in full. -/
def sizeLimit : Nat := 250000

/-- The pattern that a text writes. -/
def parse? (text : String) : Option Pattern :=
  let s := text.toList
  match readAlternatives (4 * s.length + 4) .initial [] s with
  | some (p, _, []) => if p.size ≤ sizeLimit then some p else none
  | _ => none

end CaskAudit.Pattern
