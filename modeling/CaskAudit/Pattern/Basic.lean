import CaskAudit.Text.Alphanumeric
import CaskAudit.Text.Blank
import CaskAudit.Text.Lowercase

/-!
# Search patterns

Regular expressions as trees, and the search for a place where one matches. A pattern denotes a map
from sets of positions in a text to sets of positions: where a match may end if it begins at one of
the given positions. A pattern occurs in a text if some position has an end.
-/

namespace CaskAudit.Pattern

open CaskAudit.Text

/-- A named class of characters. -/
inductive NamedClass where
  | digit | space | word
  | alnum | alpha | ascii | blank | cntrl | asciiDigit | graph | lower | print | punct | asciiSpace
  | upper | asciiWord | xdigit
  | alphabetic | letterNumber
  deriving DecidableEq, Repr

/-- Membership in a named class; the classes of ASCII hold no other character. -/
def NamedClass.mem (c : Char) : NamedClass → Bool
  | .digit => isDecimalDigit c
  | .space => isBlank c
  | .word => isWordChar c
  | .alnum => c.isAlphanum
  | .alpha => c.isAlpha
  | .ascii => c.toNat < 0x80
  | .blank => c == ' ' || c == '\t'
  | .cntrl => c.toNat < 0x20 || c.toNat == 0x7F
  | .asciiDigit => c.isDigit
  | .graph => 0x21 ≤ c.toNat && c.toNat ≤ 0x7E
  | .lower => 'a' ≤ c && c ≤ 'z'
  | .print => 0x20 ≤ c.toNat && c.toNat ≤ 0x7E
  | .punct => 0x21 ≤ c.toNat && c.toNat ≤ 0x7E && !c.isAlphanum
  | .asciiSpace => c == ' ' || (0x9 ≤ c.toNat && c.toNat ≤ 0xD)
  | .upper => 'A' ≤ c && c ≤ 'Z'
  | .asciiWord => c.isAlphanum || c == '_'
  | .xdigit => c.isDigit || ('a' ≤ c && c ≤ 'f') || ('A' ≤ c && c ≤ 'F')
  | .alphabetic => isAlphanumeric c && !isDecimalDigit c
  | .letterNumber => isAlphanumeric c

/-- A set of characters. -/
inductive CharSet where
  /-- The characters from `lo` to `hi`; with `fold`, also those that differ from one in case. -/
  | range (lo hi : Char) (fold : Bool)
  | named (c : NamedClass)
  | empty
  | union (a b : CharSet)
  | inter (a b : CharSet)
  | diff (a b : CharSet)
  | compl (a : CharSet)

/-- The capital whose small letter is a given scalar value, if one of the runs has it. -/
def uppercaseIn (n : Nat) : List (Nat × Nat × Nat × Int) → Nat
  | [] => n
  | (lo, hi, stride, offset) :: rest =>
    let m := ((n : Int) - offset).toNat
    if lo ≤ m ∧ m ≤ hi ∧ (m - lo) % stride = 0 then m else uppercaseIn n rest

/-- The characters that differ from a character at most in case. -/
def caseVariants (c : Char) : List Char :=
  let small :=
    if c.toNat < 0x80 then c.toLower else Char.ofNat (lowercaseIn c.toNat lowercaseRuns)
  let capital := Char.ofNat (uppercaseIn small.toNat lowercaseRuns)
  let special :=
    if small = 's' then ['ſ'] else if c = 'ſ' then ['s', 'S']
    else if small = 'k' then ['\u212A'] else if small = 'å' then ['\u212B']
    else if small = 'σ' then ['ς'] else if c = 'ς' then ['σ', 'Σ'] else []
  [c, small, c.toUpper, small.toUpper, capital] ++ special

/-- Membership in a set of characters. -/
def CharSet.mem (c : Char) : CharSet → Bool
  | .range lo hi fold =>
    if fold then (caseVariants c).any fun d => lo ≤ d && d ≤ hi else lo ≤ c && c ≤ hi
  | .named n => n.mem c
  | .empty => false
  | .union a b => a.mem c || b.mem c
  | .inter a b => a.mem c && b.mem c
  | .diff a b => a.mem c && !b.mem c
  | .compl a => !a.mem c

/-- A condition on the place between two characters. -/
inductive Boundary where
  | textStart | textEnd | lineStart | lineEnd
  | word | notWord | wordStart | wordEnd | wordStartHalf | wordEndHalf
  deriving DecidableEq, Repr

/-- Whether a condition holds between the given neighbours. -/
def Boundary.holds (before after : Option Char) : Boundary → Bool
  | .textStart => before.isNone
  | .textEnd => after.isNone
  | .lineStart => before.isNone || before == some '\n'
  | .lineEnd => after.isNone || after == some '\n'
  | .word => before.any isWordChar != after.any isWordChar
  | .notWord => before.any isWordChar == after.any isWordChar
  | .wordStart => !before.any isWordChar && after.any isWordChar
  | .wordEnd => before.any isWordChar && !after.any isWordChar
  | .wordStartHalf => !before.any isWordChar
  | .wordEndHalf => !after.any isWordChar

end Pattern

/-- A regular expression. -/
inductive Pattern where
  | empty
  | set (s : Pattern.CharSet)
  | boundary (b : Pattern.Boundary)
  | seq (a b : Pattern)
  | alt (a b : Pattern)
  /-- At least `min` and at most `max` times, without a bound if there is no `max`. -/
  | repetition (a : Pattern) (min : Nat) (max : Option Nat)

namespace Pattern

/-- The positions of two sets. -/
def joinPositions (a b : List Nat) : List Nat := a ++ b.filter (!a.contains ·)

/-- A step taken exactly `n` times. -/
def iterate (step : List Nat → List Nat) : Nat → List Nat → List Nat
  | 0, s => s
  | n + 1, s => if s.isEmpty then [] else iterate step n (step s)

/-- A step taken at most `n` times. -/
def iterateUpTo (step : List Nat → List Nat) : Nat → List Nat → List Nat
  | 0, s => s
  | n + 1, s =>
    let s' := joinPositions s (step s)
    if s'.length = s.length then s else iterateUpTo step n s'

/-- Where a match of a pattern may end that begins at one of the given positions. After as many
rounds as the text has positions an unbounded repetition finds nothing new. -/
def ends (text : Array Char) : Pattern → List Nat → List Nat
  | .empty, s => s
  | .set cs, s => s.filterMap fun i =>
      match text[i]? with
      | some c => if cs.mem c then some (i + 1) else none
      | none => none
  | .boundary b, s => s.filter fun i =>
      b.holds (if i = 0 then none else text[i - 1]?) text[i]?
  | .seq a b, s => ends text b (ends text a s)
  | .alt a b, s => joinPositions (ends text a s) (ends text b s)
  | .repetition a min max, s =>
    let reached := iterate (ends text a) min s
    match max with
    | some m => iterateUpTo (ends text a) (m - min) reached
    | none => iterateUpTo (ends text a) (text.size + 1) reached

/-- Whether a pattern matches somewhere in a text. -/
def occursIn (p : Pattern) (s : String) : Bool :=
  let text := s.toList.toArray
  !(ends text p (List.range (text.size + 1))).isEmpty

/-- How many sets a pattern spells out once its repetitions are written in full. -/
def size : Pattern → Nat
  | .empty => 1
  | .set _ => 1
  | .boundary _ => 1
  | .seq a b => a.size + b.size
  | .alt a b => a.size + b.size + 1
  | .repetition a min max => a.size * Nat.max 1 (max.getD (min + 1))

end Pattern

end CaskAudit
