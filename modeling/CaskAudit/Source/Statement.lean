import CaskAudit.Lexeme.Basic

/-!
# Statements

The lexemes of a definition in groups, one for each statement. A statement ends with its line,
unless a bracket is still open or the line ends with a comma. Line breaks belong to no statement.
-/

namespace CaskAudit

/-- The first lexeme of a statement and those after it. -/
structure Statement where
  head : Placed
  tail : List Placed
  deriving DecidableEq, Repr

namespace Statement

/-- How a lexeme changes the number of open brackets. -/
def bracketChange : Lexeme → Int
  | .openParen => 1
  | .closeParen => -1
  | .punctuation c =>
    if c = '[' ∨ c = '\x7b' then 1 else if c = ']' ∨ c = '\x7d' then -1 else 0
  | _ => 0

/-- Whether a statement so far ends with a comma; the lexemes after its head come newest first. -/
def endsWithComma (head : Placed) : List Placed → Bool
  | [] => head.lexeme = .comma
  | l :: _ => l.lexeme = .comma

mutual

/-- The statements of lexemes at the start of a statement. -/
def ofLexemes : List Placed → List Statement
  | [] => []
  | l :: ls =>
    if l.lexeme = .newline then ofLexemes ls
    else continued l [] (bracketChange l.lexeme) ls

/-- The statements of lexemes inside a statement, of which the head and the lexemes after it,
newest first, have been read; `depth` brackets are open. -/
def continued (head : Placed) (read : List Placed) (depth : Int) : List Placed → List Statement
  | [] => [⟨head, read.reverse⟩]
  | l :: ls =>
    if l.lexeme = .newline then
      if 0 < depth || endsWithComma head read then continued head read depth ls
      else ⟨head, read.reverse⟩ :: ofLexemes ls
    else continued head (l :: read) (depth + bracketChange l.lexeme) ls

end

end Statement

end CaskAudit
