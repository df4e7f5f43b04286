import CaskAudit.Facts

/-!
# Guards

A guard is a condition on platform facts: comparisons of the release, questions about the
processor, and their negations, conjunctions and disjunctions. Release tokens are kept as written,
so a manifest may name releases that are not known yet; such a comparison fails when it is reached
and never counts as false. Operands are evaluated from left to right, and no further than needed.
-/

namespace CaskAudit

/-- An operator that compares releases. -/
inductive Comparison where
  | eq | ne | lt | le | gt | ge
  deriving DecidableEq, Repr, Inhabited

namespace Comparison

/-- Every comparison operator. -/
def all : List Comparison := [eq, ne, lt, le, gt, ge]

/-- An operator as guards write it. -/
def symbol : Comparison → String
  | eq => "=="
  | ne => "!="
  | lt => "<"
  | le => "<="
  | gt => ">"
  | ge => ">="

/-- The operator that a text writes. -/
def ofSymbol? (s : String) : Option Comparison := all.find? (·.symbol = s)

/-- Whether two releases compare as an operator says. -/
def holds (c : Comparison) (a b : Release) : Bool :=
  match c with
  | eq => a.rank = b.rank
  | ne => a.rank ≠ b.rank
  | lt => a.rank < b.rank
  | le => a.rank ≤ b.rank
  | gt => b.rank < a.rank
  | ge => b.rank ≤ a.rank

end Comparison

/-- A condition on platform facts. -/
inductive Guard where
  | release (op : Comparison) (token : String)
  | capability (c : Capability)
  | not (g : Guard)
  | all (gs : List Guard)
  | any (gs : List Guard)
  deriving BEq, Repr, Inhabited

/-- What makes a guard meaningless on every host. -/
inductive Malformation where
  | missingRelease
  | emptyAll
  | emptyAny
  deriving DecidableEq, Repr

/-- A malformation in words. -/
def Malformation.describe : Malformation → String
  | .missingRelease => "release comparison without a release token"
  | .emptyAll => "empty all combinator"
  | .emptyAny => "empty any combinator"

/-- Why a guard has no truth value. -/
inductive GuardError where
  | malformed (m : Malformation)
  | unknownRelease (token : String)
  deriving DecidableEq, Repr

/-- The report of a guard without a truth value. -/
def GuardError.message : GuardError → String
  | .malformed m => s!"Malformed predicate: {m.describe}"
  | .unknownRelease token => s!"Unknown macOS release '{token}' in guard"

namespace Guard

/-- The comparison with the release that a text names; blanks around the text and one colon before
it do not count. -/
def ofComparison (op : Comparison) (text : String) : Guard :=
  .release op (String.ofList (Text.dropOne ':' (Text.trim text.toList)))

mutual

/-- The first malformation of a guard, if it has one. -/
def malformation? : Guard → Option Malformation
  | .release _ token => if token.isEmpty then some .missingRelease else none
  | .capability _ => none
  | .not g => malformation? g
  | .all gs => if gs.isEmpty then some .emptyAll else firstMalformation? gs
  | .any gs => if gs.isEmpty then some .emptyAny else firstMalformation? gs

/-- The first malformation of several guards, from left to right. -/
def firstMalformation? : List Guard → Option Malformation
  | [] => none
  | g :: gs =>
    match malformation? g with
    | some m => some m
    | none => firstMalformation? gs

end

/-- Refuses a malformed guard. -/
def validate (g : Guard) : Except GuardError Unit :=
  match g.malformation? with
  | some m => .error (.malformed m)
  | none => .ok ()

/-- The truth value of one comparison. -/
def compareRelease (f : Facts) (op : Comparison) (token : String) : Except GuardError Bool :=
  if token.isEmpty then .error (.malformed .missingRelease)
  else
    match Release.ofToken? token with
    | some r => .ok (op.holds f.release r)
    | none => .error (.unknownRelease token)

mutual

/-- The truth value of a guard on a host. -/
def evaluate (f : Facts) : Guard → Except GuardError Bool
  | .release op token => compareRelease f op token
  | .capability c => .ok (f.has c)
  | .not g =>
    match evaluate f g with
    | .ok b => .ok (!b)
    | .error e => .error e
  | .all gs => if gs.isEmpty then .error (.malformed .emptyAll) else evaluateAll f gs
  | .any gs => if gs.isEmpty then .error (.malformed .emptyAny) else evaluateAny f gs

/-- Whether all of several guards hold; nothing after the first that does not is looked at. -/
def evaluateAll (f : Facts) : List Guard → Except GuardError Bool
  | [] => .ok true
  | g :: gs =>
    match evaluate f g with
    | .ok true => evaluateAll f gs
    | .ok false => .ok false
    | .error e => .error e

/-- Whether one of several guards holds; nothing after the first that does is looked at. -/
def evaluateAny (f : Facts) : List Guard → Except GuardError Bool
  | [] => .ok false
  | g :: gs =>
    match evaluate f g with
    | .ok true => .ok true
    | .ok false => evaluateAny f gs
    | .error e => .error e

end

end Guard

end CaskAudit
