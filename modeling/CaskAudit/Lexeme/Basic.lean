/-!
# Lexemes

The smallest parts of a cask definition or of a guard. A dotted path such as `MacOS.release` is one
lexeme; a line break is one too, because it may end a statement.
-/

namespace CaskAudit

/-- An operator of the guard language. -/
inductive Operator where
  | eq | ne | le | ge | and | or | lt | gt | not
  deriving DecidableEq, Repr, Inhabited

namespace Operator

/-- Every operator; one that begins another comes after it. -/
def all : List Operator := [eq, ne, le, ge, and, or, lt, gt, not]

/-- An operator as it is written. -/
def symbol : Operator → String
  | eq => "=="
  | ne => "!="
  | le => "<="
  | ge => ">="
  | and => "&&"
  | or => "||"
  | lt => "<"
  | gt => ">"
  | not => "!"

end Operator

/-- A lexeme. -/
inductive Lexeme where
  /-- A word or a path, perhaps with a question mark at its end. -/
  | word (path : String)
  /-- A string without its quotes. -/
  | text (s : String)
  /-- A symbol without its colon. -/
  | symbol (name : String)
  /-- The name of a keyword argument without its colon. -/
  | key (name : String)
  | number (digits : String)
  | operator (op : Operator)
  | openParen
  | closeParen
  | comma
  /-- A character that only stanzas outside the model use. -/
  | punctuation (c : Char)
  | newline
  deriving DecidableEq, Repr, Inhabited

/-- A lexeme as reports show it. -/
def Lexeme.describe : Lexeme → String
  | .word path => path
  | .text s => s!"'{s}'"
  | .symbol name => ":" ++ name
  | .key name => name ++ ":"
  | .number digits => digits
  | .operator op => op.symbol
  | .openParen => "("
  | .closeParen => ")"
  | .comma => ","
  | .punctuation c => String.singleton c
  | .newline => "end of line"

/-- A lexeme with the line on which it begins, from one. -/
structure Placed where
  lexeme : Lexeme
  line : Nat
  deriving DecidableEq, Repr, Inhabited

end CaskAudit
