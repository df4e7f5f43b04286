import CaskAudit.Source.Stanza
import CaskAudit.Source.Statement

/-!
# Cask definitions

A definition is a block `cask 'token' do … end` of stanzas, with at most one conditional
`if … elsif … else … end` whose branches hold stanzas too. Other statements are skipped, and so are
the blocks that they open. Statements are taken one by one; `Definition.Reading` holds what they
have said so far. Without a conditional, the fields that differ between releases belong to a single
clause for every host.
-/

namespace CaskAudit.Definition

open CaskAudit (Lexeme Placed)

/-- Whether a lexeme is a given word. -/
def isWord (word : String) (l : Placed) : Bool := l.lexeme = .word word

/-- Whether the lexemes after the head of a statement open a block. -/
def opensBlock (tail : List Placed) : Bool := tail.any (isWord "do")

/-! ## The opening line -/

/-- The line of the last lexeme. -/
def lastLine (ls : List Placed) : Nat := ((ls.getLast?).map Placed.line).getD 1

/-- Takes a word that has to come next; `last` is the last line of the text. -/
def expectWord (word : String) (last : Nat) :
    List Placed → Except SourceError (Nat × List Placed)
  | [] => .error (.definition last (.expectedWord word none))
  | l :: ls =>
    if isWord word l then .ok (l.line, ls)
    else .error (.definition l.line (.expectedWord word (some l.lexeme)))

/-- Takes the token of the cask, whose definition begins on a line. -/
def expectToken (line : Nat) : List Placed → Except SourceError (String × List Placed)
  | ⟨.text name, _⟩ :: ls => .ok (name, ls)
  | ⟨.symbol name, _⟩ :: ls => .ok (name, ls)
  | _ => .error (.definition line .expectedToken)

/-- Refuses lexemes that go on after a statement which is complete. -/
def expectLineEnd (line : Nat) : List Placed → Except SourceError (List Placed)
  | [] => .ok []
  | l :: ls =>
    if l.lexeme = .newline then .ok ls
    else .error (.definition line (.trailingInLine l.lexeme))

/-- Takes the line that opens the definition and gives the token. -/
def readOpening (ls : List Placed) : Except SourceError (String × List Placed) := do
  let last := lastLine ls
  let (line, ls) ← expectWord "cask" last (ls.dropWhile (·.lexeme = .newline))
  let (token, ls) ← expectToken line ls
  let (_, ls) ← expectWord "do" last ls
  let ls ← expectLineEnd line ls
  return (token, ls)

/-! ## The block -/

/-- A conditional that is being read: the line of its `if`, the finished clauses, newest first, the
condition of the branch at hand, which an `else` branch has not, and what the branch declares. -/
structure Chain where
  line : Nat
  clauses : List Clause
  condition : Option Guard
  body : Declarations
  deriving BEq, Repr

/-- The finished clauses with that of the branch at hand, newest first. -/
def Chain.close (c : Chain) : List Clause :=
  match c.condition with
  | some guard => .guarded guard c.body :: c.clauses
  | none => .fallback c.body :: c.clauses

/-- Where the next statement stands. -/
inductive Place where
  | block
  | branch (c : Chain)
  | afterBlock
  deriving BEq, Repr

/-- What the statements so far have said. -/
structure Reading where
  outer : Declarations
  /-- The clauses of the conditional, once it has been read. -/
  clauses : Option (List Clause)
  place : Place
  /-- The line of a skipped statement whose block is still open, and the number of open blocks. -/
  skipping : Option (Nat × Nat)
  deriving BEq, Repr

/-- The state before the first statement of the block. -/
def Reading.start : Reading := ⟨.empty, none, .block, none⟩

/-- The words that open a block at the start of a statement. -/
def blockOpeners : List String := ["if", "unless", "case", "begin", "while", "until"]

/-- How many of the open blocks are left open by a skipped statement. -/
def openBlocks (depth : Nat) (st : Statement) : Nat :=
  if isWord "end" st.head then depth - 1
  else
    depth + (if blockOpeners.any (isWord · st.head) then 1 else 0) +
      (if opensBlock (st.head :: st.tail) then 1 else 0)

/-- The guard after the word that begins a branch. -/
def readCondition (line : Nat) (tail : List Placed) : Except SourceError Guard :=
  if tail.isEmpty then .error (.definition line .missingGuard)
  else (Guard.ofLexemes line tail).mapError .guard

/-- Takes a statement that begins with a word and is no part of a conditional. -/
def readStanza (s : Reading) (d : Declarations) (line : Nat) (word : String) (tail : List Placed)
    (put : Declarations → Reading) : Except SourceError Reading :=
  match Stanza.Kind.ofWord? word with
  | some kind => (Stanza.declare ⟨kind, line, tail⟩ d).map put
  | none => .ok (if opensBlock tail then { s with skipping := some (line, 1) } else s)

/-- Takes a statement of the block that is outside a conditional. -/
def readInBlock (s : Reading) (st : Statement) : Except SourceError Reading :=
  let line := st.head.line
  match st.head.lexeme with
  | .word "end" =>
    match st.tail with
    | [] => .ok { s with place := .afterBlock }
    | extra :: _ => .error (.definition extra.line (.trailingAfterBlock extra.lexeme))
  | .word "if" =>
    if s.clauses.isSome then .error (.definition line .secondConditional)
    else do
      let guard ← readCondition line st.tail
      return { s with place := .branch ⟨line, [], some guard, .empty⟩ }
  | .word "unless" => .error (.definition line .unlessBlock)
  | .word word => readStanza s s.outer line word st.tail fun d => { s with outer := d }
  | found => .error (.definition line (.unexpected found))

/-- Takes a statement inside a conditional. -/
def readInBranch (s : Reading) (c : Chain) (st : Statement) : Except SourceError Reading :=
  let line := st.head.line
  match st.head.lexeme with
  | .word "end" => do
    let _ ← expectLineEnd line st.tail
    return { s with clauses := some c.close.reverse, place := .block }
  | .word "elsif" =>
    if c.condition.isNone then .error (.definition line (.afterElse "elsif"))
    else do
      let guard ← readCondition line st.tail
      return { s with place := .branch ⟨c.line, c.close, some guard, .empty⟩ }
  | .word "else" =>
    if c.condition.isNone then .error (.definition line (.afterElse "else"))
    else do
      let _ ← expectLineEnd line st.tail
      return { s with place := .branch ⟨c.line, c.close, none, .empty⟩ }
  | .word "if" => .error (.definition line .nestedConditional)
  | .word "unless" => .error (.definition line .nestedConditional)
  | .word word =>
    readStanza s c.body line word st.tail fun d => { s with place := .branch { c with body := d } }
  | found => .error (.definition line (.unexpected found))

/-- Takes a statement. -/
def readStatement (s : Reading) (st : Statement) : Except SourceError Reading :=
  match s.skipping with
  | some (line, depth) =>
    let left := openBlocks depth st
    .ok { s with skipping := if left = 0 then none else some (line, left) }
  | none =>
    match s.place with
    | .block => readInBlock s st
    | .branch c => readInBranch s c st
    | .afterBlock =>
      .error (.definition st.head.line (.trailingAfterBlock st.head.lexeme))

/-- Takes statements from left to right. -/
def readStatements (s : Reading) : List Statement → Except SourceError Reading
  | [] => .ok s
  | st :: sts =>
    match readStatement s st with
    | .ok s' => readStatements s' sts
    | .error e => .error e

/-- Refuses a text that ends inside the block; `last` is its last line. -/
def finish (last : Nat) (s : Reading) : Except SourceError (Declarations × List Clause) :=
  match s.skipping with
  | some (line, _) => .error (.definition line .unterminatedBlock)
  | none =>
    match s.place with
    | .block => .error (.definition last .missingBlockEnd)
    | .branch c => .error (.definition c.line .missingChainEnd)
    | .afterBlock =>
      match s.clauses with
      | some clauses => .ok (s.outer, clauses)
      | none => .ok (s.outer.descriptiveFields, [.fallback s.outer.releaseFields])

/-- The manifest that a definition gives. -/
def parse (src : String) : Except SourceError Manifest := do
  let ls ← (Lexeme.scan src).mapError .scan
  let (token, body) ← readOpening ls
  let s ← readStatements .start (Statement.ofLexemes body)
  let (outer, clauses) ← finish (lastLine ls) s
  (Manifest.build token outer clauses).mapError .manifest

end CaskAudit.Definition
