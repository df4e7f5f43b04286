import CaskAudit.Facts
import CaskAudit.Limits
import CaskAudit.Pattern.Reader
import CaskAudit.Text.Decimal

/-!
# Options of the command line

The options that commands take, with the values that they accept. An option may be given once.
-/

namespace CaskAudit

open Text

/-- An option of some command. -/
inductive OptionName where
  | timeout | retries | concurrency | githubToken
  | release | arch | bits
  | json | outdated
  | filter | stable | checkpoint | provider | appVersion | downloads
  | help | version
  deriving DecidableEq, Repr

namespace OptionName

/-- The long names of an option; any of them may be used. -/
def long : OptionName → List String
  | timeout => ["timeout"]
  | retries => ["retries"]
  | concurrency => ["concurrency"]
  | githubToken => ["github-token"]
  | release => ["release"]
  | arch => ["arch"]
  | bits => ["bits"]
  | json => ["json"]
  | outdated => ["outdated"]
  | filter => ["filter"]
  | stable => ["stable", "github-latest"]
  | checkpoint => ["checkpoint"]
  | provider => ["provider"]
  | appVersion => ["app-version"]
  | downloads => ["downloads"]
  | help => ["help"]
  | version => ["version"]

/-- The letter of an option, if it has one. -/
def short? : OptionName → Option Char
  | release => some 'r'
  | filter => some 'f'
  | checkpoint => some 'c'
  | provider => some 'p'
  | appVersion => some 'V'
  | downloads => some 'd'
  | help => some 'h'
  | version => some 'V'
  | _ => none

/-- Whether an option is followed by a value. -/
def takesValue : OptionName → Bool
  | timeout | retries | concurrency | githubToken | release | arch | bits | filter => true
  | _ => false

end OptionName

/-- The values of the options that have been given. -/
structure Options where
  timeout : Option Nat
  retries : Option Nat
  concurrency : Option Nat
  githubToken : Option String
  release : Option Release
  arch : Option Arch
  bits : Option WordSize
  filter : Option Pattern
  flags : List OptionName

namespace Options

/-- No options. -/
def none : Options := ⟨.none, .none, .none, .none, .none, .none, .none, .none, []⟩

/-- Whether a flag has been given. -/
def has (o : Options) (flag : OptionName) : Bool := o.flags.contains flag

/-- A value for an option that has none yet. -/
def once {α : Type} (old : Option α) (value : Option α) : Option (Option α) :=
  if old.isSome then .none else value.map some

/-- A number below `2 ^ 32`, of which zero may have a sign of either kind. -/
def readSigned? (value : List Char) : Option Nat :=
  match value with
  | '-' :: digits => (readBelow? 1 digits).filter fun _ => !(digits.head? = some '+')
  | _ => readBelow? limit32 value

/-- Takes an option with its value, unless the value is not accepted or the option has one. -/
def give (o : Options) (name : OptionName) (value : String) : Option Options :=
  let cs := value.toList
  match name with
  | .timeout => (once o.timeout (readBelow? limit64 cs)).map fun v => { o with timeout := v }
  | .retries => (once o.retries (readSigned? cs)).map fun v => { o with retries := v }
  | .concurrency =>
    (once o.concurrency (readBelow? limit64 cs)).map fun v => { o with concurrency := v }
  | .githubToken => (once o.githubToken (some value)).map fun v => { o with githubToken := v }
  | .release => (once o.release (Release.ofText? value)).map fun v => { o with release := v }
  | .arch => (once o.arch (Arch.ofText? value)).map fun v => { o with arch := v }
  | .bits => (once o.bits (WordSize.ofText? value)).map fun v => { o with bits := v }
  | .filter => (once o.filter (Pattern.parse? value)).map fun v => { o with filter := v }
  | flag => if o.flags.contains flag then .none else some { o with flags := flag :: o.flags }

end Options

end CaskAudit
