import CaskAudit.Proofs.Source.Lines
import CaskAudit.Proofs.Source.Statements

/-!
# Statement by statement

`Takes s st t` says everything that a statement can do to what has been said so far, with one rule
for each way to take a statement. The rules are the only way to go on
(`takes_of_readStatement`), so that what a definition keeps or counts is shown rule by rule. The
statements themselves are the lexemes of the text without its line breaks
(`Statement.flatMap_lexemes_ofLexemes`).
-/

namespace CaskAudit

/-! ## The lexemes of statements -/

namespace Statement

/-- The lexemes of a statement. -/
def lexemes (st : Statement) : List Placed := st.head :: st.tail

mutual

/-- Statements hold all lexemes but the line breaks. -/
lemma flatMap_lexemes_ofLexemes (ls : List Placed) :
    (ofLexemes ls).flatMap lexemes = ls.filter (·.lexeme ≠ .newline) := by
  cases ls with
  | nil => rfl
  | cons l ls =>
    rw [ofLexemes]
    split
    · next hl => rw [flatMap_lexemes_ofLexemes ls, List.filter_cons_of_neg (by simpa using hl)]
    · next hl =>
      rw [flatMap_lexemes_continued l [] _ ls, List.filter_cons_of_pos (by simpa using hl)]
      rfl

/-- A statement that goes on and those after it hold what has been read and all lexemes that are to
come but the line breaks. -/
lemma flatMap_lexemes_continued (head : Placed) (read : List Placed) (depth : Int)
    (ls : List Placed) : (continued head read depth ls).flatMap lexemes =
      head :: (read.reverse ++ ls.filter (·.lexeme ≠ .newline)) := by
  cases ls with
  | nil =>
    rw [continued, List.filter_nil, List.append_nil]
    exact List.append_nil _
  | cons l ls =>
    rw [continued]
    split
    · next hl =>
      rw [List.filter_cons_of_neg (by simpa using hl)]
      split
      · exact flatMap_lexemes_continued head read depth ls
      · rw [List.flatMap_cons, flatMap_lexemes_ofLexemes ls]
        rfl
    · next hl =>
      rw [flatMap_lexemes_continued head (l :: read) _ ls,
        List.filter_cons_of_pos (by simpa using hl), List.reverse_cons, List.append_assoc]
      rfl

end

/-- Statements have no line breaks in them. -/
def Unbroken (sts : List Statement) : Prop := ∀ st ∈ sts, ∀ l ∈ st.tail, l.lexeme ≠ .newline

/-- The statements of a text have no line breaks in them. -/
lemma unbroken_ofLexemes (ls : List Placed) : Unbroken (ofLexemes ls) := by
  intro st hst l hl
  have hmem : l ∈ (ofLexemes ls).flatMap lexemes :=
    List.mem_flatMap.2 ⟨st, hst, List.mem_cons_of_mem _ hl⟩
  rw [flatMap_lexemes_ofLexemes, List.mem_filter] at hmem
  simpa using hmem.2

end Statement

/-! ## The rules -/

namespace Definition

/-- The words that begin no stanza in the block, whatever stanzas there are. -/
def blockReserved : List String := ["end", "if", "unless"]

/-- The words that begin no stanza in a branch. -/
def branchReserved : List String := ["end", "elsif", "else", "if", "unless"]

/-- A word may begin a stanza at a place. -/
def Place.IsFree (w : String) : Place → Prop
  | .block => w ∉ blockReserved
  | .branch _ => w ∉ branchReserved
  | .afterBlock => False

/-- The block that is being skipped, after a statement on a line has left some blocks open. -/
def skippingFrom (line depth : Nat) : Option (Nat × Nat) :=
  if depth = 0 then none else some (line, depth)

/-- How many blocks are being skipped. -/
def skippedBlocks (skipping : Option (Nat × Nat)) : Nat := (skipping.map Prod.snd).getD 0

@[simp] lemma skippedBlocks_skippingFrom (line depth : Nat) :
    skippedBlocks (skippingFrom line depth) = depth := by
  rw [skippingFrom]
  split
  · next h => exact h.symm
  · rfl

/-- The ways to take a statement. -/
inductive Takes : Reading → Statement → Reading → Prop
  | skipped (outer : Declarations) (clauses : Option (List Clause)) (place : Place)
      (line depth : Nat) (st : Statement) :
      Takes ⟨outer, clauses, place, some (line, depth)⟩ st
        ⟨outer, clauses, place, skippingFrom line (openBlocks depth st)⟩
  | foreign {w : String} (outer : Declarations) (clauses : Option (List Clause)) {place : Place}
      (line : Nat) (tail : List Placed) (hw : Stanza.Kind.ofWord? w = none) (hp : place.IsFree w) :
      Takes ⟨outer, clauses, place, none⟩ ⟨⟨.word w, line⟩, tail⟩
        ⟨outer, clauses, place, skippingFrom line (if opensBlock tail then 1 else 0)⟩
  | blockStanza {kind : Stanza.Kind} {outer d : Declarations} (clauses : Option (List Clause))
      {line : Nat} {tail : List Placed} (hd : Stanza.declare ⟨kind, line, tail⟩ outer = .ok d) :
      Takes ⟨outer, clauses, .block, none⟩ ⟨⟨.word kind.word, line⟩, tail⟩
        ⟨d, clauses, .block, none⟩
  | branchStanza {kind : Stanza.Kind} (outer : Declarations) (clauses : Option (List Clause))
      {c : Chain} {d : Declarations} {line : Nat} {tail : List Placed}
      (hd : Stanza.declare ⟨kind, line, tail⟩ c.body = .ok d) :
      Takes ⟨outer, clauses, .branch c, none⟩ ⟨⟨.word kind.word, line⟩, tail⟩
        ⟨outer, clauses, .branch { c with body := d }, none⟩
  | chainIf (outer : Declarations) {line : Nat} {tail : List Placed} {guard : Guard}
      (hg : readCondition line tail = .ok guard) :
      Takes ⟨outer, none, .block, none⟩ ⟨⟨.word "if", line⟩, tail⟩
        ⟨outer, none, .branch ⟨line, [], some guard, .empty⟩, none⟩
  | chainElsif (outer : Declarations) (clauses : Option (List Clause)) {c : Chain} {line : Nat}
      {tail : List Placed} {guard : Guard} (hc : c.condition ≠ none)
      (hg : readCondition line tail = .ok guard) :
      Takes ⟨outer, clauses, .branch c, none⟩ ⟨⟨.word "elsif", line⟩, tail⟩
        ⟨outer, clauses, .branch ⟨c.line, c.close, some guard, .empty⟩, none⟩
  | chainElse (outer : Declarations) (clauses : Option (List Clause)) {c : Chain} (line : Nat)
      (hc : c.condition ≠ none) :
      Takes ⟨outer, clauses, .branch c, none⟩ ⟨⟨.word "else", line⟩, []⟩
        ⟨outer, clauses, .branch ⟨c.line, c.close, none, .empty⟩, none⟩
  | chainEnd (outer : Declarations) (clauses : Option (List Clause)) (c : Chain) (line : Nat) :
      Takes ⟨outer, clauses, .branch c, none⟩ ⟨⟨.word "end", line⟩, []⟩
        ⟨outer, some c.close.reverse, .block, none⟩
  | blockEnd (outer : Declarations) (clauses : Option (List Clause)) (line : Nat) :
      Takes ⟨outer, clauses, .block, none⟩ ⟨⟨.word "end", line⟩, []⟩
        ⟨outer, clauses, .afterBlock, none⟩

/-- A kind is found by the word that begins its stanzas. -/
lemma word_of_ofWord? {w : String} {kind : Stanza.Kind} (h : Stanza.Kind.ofWord? w = some kind) :
    kind.word = w := by
  simpa using List.find?_some h

/-- A word that begins no stanza is not the word of a kind. -/
lemma word_ne {w : String} (h : Stanza.Kind.ofWord? w = none) (kind : Stanza.Kind) :
    kind.word ≠ w := by
  rintro rfl
  cases kind <;> cases h

/-- Nothing goes on after a statement which is complete. -/
lemma eq_nil_of_expectLineEnd {line : Nat} {tail rest : List Placed}
    (h : expectLineEnd line tail = .ok rest) (ht : ∀ l ∈ tail, l.lexeme ≠ .newline) :
    tail = [] := by
  cases tail with
  | nil => rfl
  | cons l ls =>
    rw [expectLineEnd, if_neg (ht l List.mem_cons_self)] at h
    cases h

/-- A guard that is accepted has no word that is refused in guards. -/
lemma ne_word_of_readCondition {line : Nat} {tail : List Placed} {guard : Guard}
    (h : readCondition line tail = .ok guard) {w : String} (hw : Guard.Refused w) {l : Placed}
    (hl : l ∈ tail) : l.lexeme ≠ .word w := by
  intro hword
  obtain ⟨ps, qs, rfl⟩ := List.append_of_mem hl
  have hnone := Guard.toOption_ofLexemes_append hw line l.line ps qs
  rw [← hword] at hnone
  obtain ⟨-, hread⟩ := of_ite_eq_ok h
  cases hguard : Guard.ofLexemes line (ps ++ l :: qs) with
  | error e =>
    rw [hguard] at hread
    cases hread
  | ok g =>
    change (Guard.ofLexemes line (ps ++ l :: qs)).toOption = none at hnone
    rw [hguard] at hnone
    cases hnone

/-- A statement that begins with a word is a stanza or is outside the model. -/
lemma readStanza_cases {s t : Reading} {d : Declarations} {line : Nat} {w : String}
    {tail : List Placed} {put : Declarations → Reading}
    (h : readStanza s d line w tail put = .ok t) :
    (∃ kind d', kind.word = w ∧ Stanza.declare ⟨kind, line, tail⟩ d = .ok d' ∧ t = put d') ∨
      Stanza.Kind.ofWord? w = none ∧
        t = if opensBlock tail then { s with skipping := some (line, 1) } else s := by
  unfold readStanza at h
  split at h
  · next kind hkind =>
    cases hd : Stanza.declare ⟨kind, line, tail⟩ d with
    | error e =>
      rw [hd] at h
      cases h
    | ok d' =>
      rw [hd] at h
      cases h
      exact .inl ⟨kind, d', word_of_ofWord? hkind, hd, rfl⟩
  · next hnone => exact .inr ⟨hnone, (Except.ok.inj h).symm⟩

variable {outer : Declarations} {clauses : Option (List Clause)} {t : Reading}

/-- A statement outside the model is taken by its rule. -/
lemma takes_foreign {place : Place} {w : String} (line : Nat) (tail : List Placed)
    (hw : Stanza.Kind.ofWord? w = none) (hp : place.IsFree w)
    (ht : t = if opensBlock tail then ⟨outer, clauses, place, some (line, 1)⟩
      else ⟨outer, clauses, place, none⟩) :
    Takes ⟨outer, clauses, place, none⟩ ⟨⟨.word w, line⟩, tail⟩ t := by
  have hrule := Takes.foreign outer clauses line tail hw hp
  cases hopens : opensBlock tail with
  | true =>
    rw [hopens] at ht hrule
    exact ht ▸ hrule
  | false =>
    rw [hopens] at ht hrule
    exact ht ▸ hrule

/-- The ways to take a statement of the block. -/
lemma takes_of_readInBlock {st : Statement}
    (h : readInBlock ⟨outer, clauses, .block, none⟩ st = .ok t) :
    Takes ⟨outer, clauses, .block, none⟩ st t := by
  obtain ⟨⟨l, line⟩, tail⟩ := st
  cases l with
  | word w =>
    by_cases hw : w ∈ ["end", "if", "unless"]
    · simp only [List.mem_cons, List.not_mem_nil, or_false] at hw
      rcases hw with rfl | rfl | rfl
      · cases tail with
        | nil =>
          cases h
          exact .blockEnd outer clauses line
        | cons extra _ => cases h
      · cases clauses with
        | some cs => cases h
        | none =>
          obtain ⟨guard, hg, h⟩ := bind_eq_ok h
          cases h
          exact .chainIf outer hg
      · cases h
    · rw [readInBlock_word hw] at h
      rcases readStanza_cases h with ⟨kind, d, rfl, hd, rfl⟩ | ⟨hnone, ht⟩
      · exact .blockStanza clauses hd
      · exact takes_foreign line tail hnone hw ht
  | _ => cases h

/-- The ways to take a statement of a branch. -/
lemma takes_of_readInBranch {c : Chain} {st : Statement}
    (hst : ∀ l ∈ st.tail, l.lexeme ≠ .newline)
    (h : readInBranch ⟨outer, clauses, .branch c, none⟩ c st = .ok t) :
    Takes ⟨outer, clauses, .branch c, none⟩ st t := by
  obtain ⟨⟨l, line⟩, tail⟩ := st
  cases l with
  | word w =>
    by_cases hw : w ∈ ["end", "elsif", "else", "if", "unless"]
    · simp only [List.mem_cons, List.not_mem_nil, or_false] at hw
      rcases hw with rfl | rfl | rfl | rfl | rfl
      · obtain ⟨rest, hend, h⟩ := bind_eq_ok h
        cases h
        obtain rfl := eq_nil_of_expectLineEnd hend hst
        exact .chainEnd outer clauses c line
      · obtain ⟨hc, h⟩ := of_ite_eq_ok h
        obtain ⟨guard, hg, h⟩ := bind_eq_ok h
        cases h
        exact .chainElsif outer clauses (by simpa using hc) hg
      · obtain ⟨hc, h⟩ := of_ite_eq_ok h
        obtain ⟨rest, hend, h⟩ := bind_eq_ok h
        cases h
        obtain rfl := eq_nil_of_expectLineEnd hend hst
        exact .chainElse outer clauses line (by simpa using hc)
      · cases h
      · cases h
    · rw [readInBranch_word hw] at h
      rcases readStanza_cases h with ⟨kind, d, rfl, hd, rfl⟩ | ⟨hnone, ht⟩
      · exact .branchStanza outer clauses hd
      · exact takes_foreign line tail hnone hw ht
  | _ => cases h

/-- The rules are the only way to take a statement of a text. -/
theorem takes_of_readStatement {s : Reading} {st : Statement}
    (hst : ∀ l ∈ st.tail, l.lexeme ≠ .newline) (h : readStatement s st = .ok t) :
    Takes s st t := by
  obtain ⟨outer, clauses, place, skipping⟩ := s
  cases skipping with
  | some p =>
    cases h
    exact .skipped outer clauses place p.1 p.2 st
  | none =>
    cases place with
    | block => exact takes_of_readInBlock h
    | branch c => exact takes_of_readInBranch hst h
    | afterBlock => cases h

/-! ## The end -/

/-- A reading that is complete. -/
def Reading.Ended (s : Reading) : Prop := s.place = .afterBlock ∧ s.skipping = none

/-- A reading that gives a result is complete. -/
lemma ended_of_finish {last : Nat} {s : Reading} {q : Declarations × List Clause}
    (h : finish last s = .ok q) : s.Ended := by
  obtain ⟨outer, clauses, place, skipping⟩ := s
  cases skipping with
  | some p => cases h
  | none =>
    cases place with
    | block => cases h
    | branch c => cases h
    | afterBlock => exact ⟨rfl, rfl⟩

end Definition

end CaskAudit
