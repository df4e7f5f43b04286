import CaskAudit.Guard.Basic
import CaskAudit.Lexeme.Scan

/-!
# Reading guards

A guard is read from its lexemes in one pass. Negation binds tighter than conjunction, and
conjunction tighter than disjunction; parentheses may be nested. What has been read of an open
level of parentheses is a `Level`, and the levels around it wait on a stack. A junction of a single
operand is that operand.
-/

namespace CaskAudit.Guard

open CaskAudit (Lexeme Placed)

/-- Why lexemes do not form a guard. -/
inductive ReadFault where
  | endsUnexpectedly
  | expectedClose (found : Lexeme)
  | unsupportedTerm (path : String)
  | unknownCapability (method : String)
  | expectedOperand (found : Lexeme)
  | expectedComparison
  | expectedRelease (op : Comparison) (found : Lexeme)
  | trailing (found : Lexeme)
  deriving DecidableEq, Repr

/-- A fault in words. -/
def ReadFault.describe : ReadFault → String
  | .endsUnexpectedly => "guard ends unexpectedly"
  | .expectedClose found => s!"expected ')', found {found.describe}"
  | .unsupportedTerm path => s!"unsupported guard term '{path}'"
  | .unknownCapability method => s!"unknown CPU capability '{method}'"
  | .expectedOperand found => s!"unexpected {found.describe} in guard"
  | .expectedComparison => "expected a comparison after MacOS.release"
  | .expectedRelease op found => s!"expected a release after {op.symbol}, found {found.describe}"
  | .trailing found => s!"unexpected {found.describe} after guard"

/-- A fault with its line. -/
structure ReadError where
  line : Nat
  fault : ReadFault
  deriving DecidableEq, Repr

/-- What has been read at one level of parentheses: the finished operands of its disjunction and
those of the conjunction at hand, both newest first, and the negations that wait for an operand. -/
structure Level where
  disjuncts : List Guard
  conjuncts : List Guard
  negations : Nat
  deriving BEq, Repr, Inhabited

/-- What the next lexeme has to be. -/
inductive Expected where
  | operand
  | connective
  /-- The operator of a comparison that begins on a line. -/
  | comparison (line : Nat)
  /-- The release of a comparison that begins on a line. -/
  | release (line : Nat) (op : Comparison)
  deriving BEq, Repr, Inhabited

/-- A guard that is being read; the innermost of the levels that wait comes first. -/
structure Reading where
  level : Level
  waiting : List Level
  expected : Expected
  deriving BEq, Repr, Inhabited

/-- A guard under a number of negations. -/
def negate : Nat → Guard → Guard
  | 0, g => g
  | n + 1, g => .not (negate n g)

/-- Several operands under a connective, or a single one by itself. -/
def junction (combine : List Guard → Guard) : List Guard → Guard
  | [g] => g
  | gs => combine gs

namespace Level

/-- A level on which nothing has been read. -/
def empty : Level := ⟨[], [], 0⟩

/-- Takes an operand into the conjunction at hand. -/
def push (l : Level) (g : Guard) : Level :=
  { l with conjuncts := negate l.negations g :: l.conjuncts, negations := 0 }

/-- Ends the conjunction at hand. -/
def endConjunction (l : Level) : Level :=
  { l with disjuncts := junction .all l.conjuncts.reverse :: l.disjuncts, conjuncts := [] }

/-- The guard that a level has read. -/
def guard (l : Level) : Guard := junction .any l.endConjunction.disjuncts.reverse

end Level

namespace Reading

/-- The state before the first lexeme. -/
def start : Reading := ⟨.empty, [], .operand⟩

/-- Takes an operand; a connective may follow. -/
def push (s : Reading) (g : Guard) : Reading :=
  { s with level := s.level.push g, expected := .connective }

end Reading

/-- The operator that compares releases, where a lexeme is one. -/
def comparison? : Lexeme → Option Comparison
  | .operator op => Comparison.ofSymbol? op.symbol
  | _ => none

/-- The release that a lexeme names; a version number that is known stands for the symbolic name
of its release, and any other text for itself. -/
def releaseName? : Lexeme → Option String
  | .symbol name => some name
  | .text s => some (((Release.ofVersion? s).map Release.name).getD s)
  | .number s => some (((Release.ofVersion? s).map Release.name).getD s)
  | _ => none

/-- The paths that stand for the release of the host. -/
def isReleasePath (path : String) : Bool := path == "MacOS.release" || path == "MacOS.version"

/-- The path before the questions about the processor. -/
def processorPath : List Char := "Hardware::CPU.".toList

/-- Takes a path as the beginning of an operand. -/
def readTerm (s : Reading) (line : Nat) (path : String) : Except ReadError Reading :=
  if isReleasePath path then .ok { s with expected := .comparison line }
  else
    match Text.dropLeading? processorPath path.toList with
    | none => .error ⟨line, .unsupportedTerm path⟩
    | some method =>
      match Capability.ofMethod? (String.ofList method) with
      | some c => .ok (s.push (.capability c))
      | none => .error ⟨line, .unknownCapability (String.ofList method)⟩

/-- Takes a lexeme where an operand has to begin. -/
def readOperand (s : Reading) (l : Placed) : Except ReadError Reading :=
  match l.lexeme with
  | .operator .not => .ok { s with level := { s.level with negations := s.level.negations + 1 } }
  | .openParen => .ok ⟨.empty, s.level :: s.waiting, .operand⟩
  | .word path => readTerm s l.line path
  | found => .error ⟨l.line, .expectedOperand found⟩

/-- Takes a lexeme after an operand. -/
def readConnective (s : Reading) (l : Placed) : Except ReadError Reading :=
  match l.lexeme, s.waiting with
  | .operator .and, _ => .ok { s with expected := .operand }
  | .operator .or, _ => .ok { s with level := s.level.endConjunction, expected := .operand }
  | .closeParen, outer :: waiting => .ok ⟨outer.push s.level.guard, waiting, .connective⟩
  | found, _ :: _ => .error ⟨l.line, .expectedClose found⟩
  | found, [] => .error ⟨l.line, .trailing found⟩

/-- Takes the next lexeme. -/
def readNext (s : Reading) (l : Placed) : Except ReadError Reading :=
  match s.expected with
  | .operand => readOperand s l
  | .connective => readConnective s l
  | .comparison line =>
    match comparison? l.lexeme with
    | some op => .ok { s with expected := .release line op }
    | none => .error ⟨line, .expectedComparison⟩
  | .release line op =>
    match releaseName? l.lexeme with
    | some name => .ok (s.push (.ofComparison op name))
    | none => .error ⟨line, .expectedRelease op l.lexeme⟩

/-- Takes lexemes from left to right. -/
def readAll (s : Reading) : List Placed → Except ReadError Reading
  | [] => .ok s
  | l :: ls =>
    match readNext s l with
    | .ok s' => readAll s' ls
    | .error e => .error e

/-- The guard that has been read; `line` is where a guard that ends too early is reported. -/
def finish (line : Nat) (s : Reading) : Except ReadError Guard :=
  match s.expected, s.waiting with
  | .connective, [] => .ok s.level.guard
  | _, _ => .error ⟨line, .endsUnexpectedly⟩

/-- The guard that lexemes form. -/
def ofLexemes (line : Nat) (ls : List Placed) : Except ReadError Guard :=
  match readAll .start ls with
  | .ok s => finish line s
  | .error e => .error e

/-- Why a text does not write a guard. -/
inductive TextError where
  | scan (e : Lexeme.ScanError)
  | read (e : ReadError)
  deriving DecidableEq, Repr

/-- The guard that a text writes. Line breaks in it do not count, and every lexeme is taken to stand
on the line where the text is found. -/
def ofText (line : Nat) (text : String) : Except TextError Guard :=
  match Lexeme.scan text with
  | .error e => .error (.scan e)
  | .ok ls =>
    match ofLexemes line ((ls.filter (·.lexeme ≠ .newline)).map fun l => ⟨l.lexeme, line⟩) with
    | .error e => .error (.read e)
    | .ok g => .ok g

end CaskAudit.Guard
