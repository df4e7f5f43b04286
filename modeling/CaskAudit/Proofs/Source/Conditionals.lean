import CaskAudit.Proofs.Manifest.Construction
import CaskAudit.Proofs.Source.Layout
import CaskAudit.Proofs.Source.Steps
import Mathlib.Data.List.Forall2

/-!
# Where the words of conditionals stand

A definition that is accepted has a composition: items, perhaps a conditional with a branch for each
clause and more items, and the end (`exists_composition`). An item is a stanza of the model, or a
statement outside it with the block that it opens. So a word `if`, `elsif`, `else` or `unless`
stands at the head of a branch, or in an item; those in stanzas outside the model that begin with
another word are nothing to the reader. The others are lost: they follow the value of a stanza, or
begin a statement for which no branch is open (`conditionals_of_parse`).
-/

namespace CaskAudit.Definition

open Statement (ofLexemes lexemes Unbroken)

/-! ## Compositions -/

/-- Skipped statements close a number of open blocks, the last of the blocks with the last
statement. -/
inductive ClosesBlocks : Nat → List Statement → Prop
  | nil : ClosesBlocks 0 []
  | cons {depth : Nat} {st : Statement} {sts : List Statement} (hd : 0 < depth)
      (h : ClosesBlocks (openBlocks depth st) sts) : ClosesBlocks depth (st :: sts)

/-- A statement that is no part of a conditional, with the block that it opens. -/
inductive Item where
  | stanza (kind : Stanza.Kind) (line : Nat) (args : List Placed)
  | foreign (word : String) (line : Nat) (args : List Placed) (block : List Statement)

namespace Item

/-- The statements of an item. -/
def statements : Item → List Statement
  | stanza kind line args => [⟨⟨.word kind.word, line⟩, args⟩]
  | foreign word line args block => ⟨⟨.word word, line⟩, args⟩ :: block

/-- An item stands where some words are reserved: none of them begins a statement outside the model,
and the block of such a statement is closed with the item. -/
def Fits (reserved : List String) : Item → Prop
  | stanza _ _ _ => True
  | foreign word _ args block => Stanza.Kind.ofWord? word = none ∧ word ∉ reserved ∧
      ClosesBlocks (if opensBlock args then 1 else 0) block

/-- What is declared after an item. -/
def declare (d : Declarations) : Item → Except SourceError Declarations
  | stanza kind line args => Stanza.declare ⟨kind, line, args⟩ d
  | foreign _ _ _ _ => .ok d

end Item

/-- What is declared after items. -/
def declareAll (d : Declarations) (items : List Item) : Except SourceError Declarations :=
  items.foldlM Item.declare d

/-- A branch with a condition. -/
structure Branch where
  line : Nat
  condition : List Placed
  items : List Item

/-- A conditional: one branch or several, and perhaps one without a condition. -/
structure Conditional where
  first : Branch
  others : List Branch
  otherwise : Option (Nat × List Item)
  endLine : Nat

/-- The statements of a definition after its opening line. -/
structure Composition where
  before : List Item
  conditional : Option (Conditional × List Item)
  endLine : Nat

/-- The statements of a branch that begins with a word. -/
def Branch.statements (word : String) (b : Branch) : List Statement :=
  ⟨⟨.word word, b.line⟩, b.condition⟩ :: b.items.flatMap Item.statements

/-- The statements of a branch without a condition. -/
def otherwiseStatements (o : Nat × List Item) : List Statement :=
  ⟨⟨.word "else", o.1⟩, []⟩ :: o.2.flatMap Item.statements

/-- The end of a conditional or of a definition. -/
def endStatement (line : Nat) : Statement := ⟨⟨.word "end", line⟩, []⟩

/-- The statements of a conditional after its first one. -/
def Conditional.tail (c : Conditional) : List Statement :=
  c.first.items.flatMap Item.statements ++ (c.others.flatMap (Branch.statements "elsif") ++
    (c.otherwise.toList.flatMap otherwiseStatements ++ [endStatement c.endLine]))

/-- The statements of a conditional. -/
def Conditional.statements (c : Conditional) : List Statement :=
  ⟨⟨.word "if", c.first.line⟩, c.first.condition⟩ :: c.tail

/-- The statements of a composition. -/
def Composition.statements (c : Composition) : List Statement :=
  c.before.flatMap Item.statements ++
    (c.conditional.toList.flatMap (fun p => p.1.statements ++ p.2.flatMap Item.statements) ++
      [endStatement c.endLine])

/-! ## Reading items -/

/-- A stanza of the model begins with no reserved word of a branch. -/
lemma word_notMem_branchReserved (kind : Stanza.Kind) : kind.word ∉ branchReserved := by
  cases kind <;> decide

/-- A stanza of the model begins with no reserved word of the block. -/
lemma word_notMem_blockReserved (kind : Stanza.Kind) : kind.word ∉ blockReserved := by
  cases kind <;> decide

/-- What is read in a scope, which ends before the definition does, goes on as items do: a skipped
statement belongs to the block of an item, and the others begin an item, unless they begin with a
reserved word. -/
structure IsScope (reserved : List String)
    (scope : Declarations → Option (Nat × Nat) → Reading) : Prop where
  inside : ∀ d skipping, (scope d skipping).place ≠ .afterBlock
  steps : ∀ d skipping st t, Takes (scope d skipping) st t →
    (∃ n depth, skipping = some (n, depth) ∧ t = scope d (skippingFrom n (openBlocks depth st))) ∨
    skipping = none ∧
      ((∃ kind line args d', st = ⟨⟨.word (Stanza.Kind.word kind), line⟩, args⟩ ∧
          Stanza.declare ⟨kind, line, args⟩ d = .ok d' ∧ t = scope d' none) ∨
        (∃ w line args, st = ⟨⟨.word w, line⟩, args⟩ ∧ Stanza.Kind.ofWord? w = none ∧
          w ∉ reserved ∧ t = scope d (skippingFrom line (if opensBlock args then 1 else 0))) ∨
        ∃ w ∈ reserved, st.head.lexeme = .word w)

/-- The block is a scope. -/
lemma isScope_block (clauses : Option (List Clause)) :
    IsScope blockReserved fun d skipping => ⟨d, clauses, .block, skipping⟩ where
  inside _ _ h := nomatch h
  steps := by
    intro d skipping st t h
    cases h with
    | skipped _ _ _ n depth st => exact .inl ⟨n, depth, rfl, rfl⟩
    | @foreign w _ _ _ line args hw hp =>
      exact .inr ⟨rfl, .inr (.inl ⟨w, line, args, rfl, hw, hp, rfl⟩)⟩
    | @blockStanza kind _ d' _ line args hd =>
      exact .inr ⟨rfl, .inl ⟨kind, line, args, d', rfl, hd, rfl⟩⟩
    | chainIf _ hg => exact .inr ⟨rfl, .inr (.inr ⟨"if", by decide, rfl⟩)⟩
    | blockEnd _ _ line => exact .inr ⟨rfl, .inr (.inr ⟨"end", by decide, rfl⟩)⟩

/-- A branch is a scope. -/
lemma isScope_branch (outer : Declarations) (clauses : Option (List Clause)) (c : Chain) :
    IsScope branchReserved fun d skipping =>
      ⟨outer, clauses, .branch { c with body := d }, skipping⟩ where
  inside _ _ h := nomatch h
  steps := by
    intro d skipping st t h
    cases h with
    | skipped _ _ _ n depth st => exact .inl ⟨n, depth, rfl, rfl⟩
    | @foreign w _ _ _ line args hw hp =>
      exact .inr ⟨rfl, .inr (.inl ⟨w, line, args, rfl, hw, hp, rfl⟩)⟩
    | @branchStanza kind _ _ _ d' line args hd =>
      exact .inr ⟨rfl, .inl ⟨kind, line, args, d', rfl, hd, rfl⟩⟩
    | chainElsif _ _ hc hg => exact .inr ⟨rfl, .inr (.inr ⟨"elsif", by decide, rfl⟩)⟩
    | chainElse _ _ line hc => exact .inr ⟨rfl, .inr (.inr ⟨"else", by decide, rfl⟩)⟩
    | chainEnd _ _ _ line => exact .inr ⟨rfl, .inr (.inr ⟨"end", by decide, rfl⟩)⟩

/-- Items that are read in a scope, up to a statement that begins with a reserved word. -/
structure ReadsItems (reserved : List String)
    (scope : Declarations → Option (Nat × Nat) → Reading) (d : Declarations) (items : List Item)
    (d' : Declarations) (st : Statement) (u : Reading) : Prop where
  fits : ∀ i ∈ items, i.Fits reserved
  declares : declareAll d items = .ok d'
  reserved : ∃ w ∈ reserved, st.head.lexeme = .word w
  takes : Takes (scope d' none) st u

section

variable {reserved : List String} {scope : Declarations → Option (Nat × Nat) → Reading}
  {d d' : Declarations} {items : List Item} {sts : List Statement} {st : Statement} {t u : Reading}

/-- An item more is read before others. -/
lemma ReadsItems.cons {i : Item} {d₁ : Declarations} (hi : i.Fits reserved)
    (hd : i.declare d = .ok d₁) (h : ReadsItems reserved scope d₁ items d' st u) :
    ReadsItems reserved scope d (i :: items) d' st u where
  fits := by
    rintro j (_ | ⟨_, hj⟩)
    · exact hi
    · exact h.fits j hj
  declares := by
    rw [declareAll, List.foldlM_cons, hd]
    exact h.declares
  reserved := h.reserved
  takes := h.takes

/-- No block is skipped without being open. -/
lemma pos_of_skippingFrom {line depth n k : Nat} (h : skippingFrom line depth = some (n, k)) :
    0 < k := by
  rw [skippingFrom] at h
  split at h
  · cases h
  · next hd =>
    cases h
    exact Nat.pos_of_ne_zero hd

/-- Where no block is being skipped, none is skipped without being open. -/
lemma notSkipping (n k : Nat) : (none : Option (Nat × Nat)) = some (n, k) → 0 < k := nofun

/-- What is read in a scope and goes on to the end begins with items, after the rest of the block
that is being skipped. -/
lemma exists_block_items (hscope : IsScope reserved scope) (ht : t.Ended) (hsts : Unbroken sts)
    {skipping : Option (Nat × Nat)} (hskipping : ∀ n k, skipping = some (n, k) → 0 < k)
    (h : readStatements (scope d skipping) sts = .ok t) :
    ∃ block items d' st u rest,
      sts = block ++ (items.flatMap Item.statements ++ st :: rest) ∧
      ClosesBlocks (skippedBlocks skipping) block ∧
      ReadsItems reserved scope d items d' st u ∧ readStatements u rest = .ok t := by
  induction sts generalizing d skipping with
  | nil =>
    have hplace := hscope.inside d skipping
    rw [Except.ok.inj h] at hplace
    exact absurd ht.1 hplace
  | cons st sts ih =>
    have hrest : Unbroken sts := fun st' hst' => hsts st' (List.mem_cons_of_mem _ hst')
    rw [readStatements] at h
    cases hread : readStatement (scope d skipping) st with
    | error e =>
      rw [hread] at h
      cases h
    | ok u =>
      rw [hread] at h
      have htakes := takes_of_readStatement (hsts st List.mem_cons_self) hread
      rcases hscope.steps d skipping st u htakes with ⟨n, depth, rfl, rfl⟩ | ⟨rfl, hitem⟩
      · -- The statement is one of the block that is being skipped.
        obtain ⟨block, items, d', st', u, rest, rfl, hblock, hitems, hend⟩ :=
          ih hrest (fun _ _ => pos_of_skippingFrom) h
        rw [skippedBlocks_skippingFrom] at hblock
        exact ⟨st :: block, items, d', st', u, rest, rfl, .cons (hskipping n depth rfl) hblock,
          hitems, hend⟩
      · rcases hitem with ⟨kind, line, args, d₁, rfl, hd₁, rfl⟩ |
          ⟨w, line, args, rfl, hw, hfree, rfl⟩ | hreserved
        · obtain ⟨block, items, d', st', u, rest, rfl, hblock, hitems, hend⟩ :=
            ih hrest notSkipping h
          cases hblock with
          | nil =>
            exact ⟨[], .stanza kind line args :: items, d', st', u, rest, rfl, .nil,
              hitems.cons trivial hd₁, hend⟩
          | cons hd _ => cases hd
        · -- The block that the statement opens is what is still to be skipped after it.
          obtain ⟨block, items, d', st', u, rest, rfl, hblock, hitems, hend⟩ :=
            ih hrest (fun _ _ => pos_of_skippingFrom) h
          rw [skippedBlocks_skippingFrom] at hblock
          refine ⟨[], .foreign w line args block :: items, d', st', u, rest, ?_, .nil,
            hitems.cons ⟨hw, hfree, hblock⟩ rfl, hend⟩
          simp [Item.statements]
        · exact ⟨[], [], d, st, u, sts, rfl, .nil, ⟨List.forall_mem_nil _, rfl, hreserved, htakes⟩,
            h⟩

/-- What is read in a scope and goes on to the end begins with items. -/
lemma exists_items (hscope : IsScope reserved scope) (ht : t.Ended) (hsts : Unbroken sts)
    (h : readStatements (scope d none) sts = .ok t) :
    ∃ items d' st u rest, sts = items.flatMap Item.statements ++ st :: rest ∧
      ReadsItems reserved scope d items d' st u ∧ readStatements u rest = .ok t := by
  obtain ⟨block, items, d', st, u, rest, rfl, hblock, hitems, hrest⟩ :=
    exists_block_items hscope ht hsts notSkipping h
  cases hblock with
  | nil => exact ⟨items, d', st, u, rest, rfl, hitems, hrest⟩
  | cons hd _ => cases hd

end

/-! ## Reading branches -/

/-- A branch gives a clause with the guard of its condition and what its items declare. -/
inductive Branch.Gives (b : Branch) : Clause → Prop
  | intro {guard : Guard} {body : Declarations} (hi : ∀ i ∈ b.items, i.Fits branchReserved)
      (hg : readCondition b.line b.condition = .ok guard)
      (hd : declareAll .empty b.items = .ok body) : Branch.Gives b (.guarded guard body)

/-- A branch without a condition gives a clause for all other hosts. -/
inductive OtherwiseGives (o : Nat × List Item) : Clause → Prop
  | intro {body : Declarations} (hi : ∀ i ∈ o.2, i.Fits branchReserved)
      (hd : declareAll .empty o.2 = .ok body) : OtherwiseGives o (.fallback body)

/-- A conditional gives a clause for each of its branches. -/
inductive Conditional.Gives (c : Conditional) : List Clause → Prop
  | intro {guarded fallbacks : List Clause}
      (hb : List.Forall₂ Branch.Gives (c.first :: c.others) guarded)
      (ho : List.Forall₂ OtherwiseGives c.otherwise.toList fallbacks) :
      Conditional.Gives c (guarded ++ fallbacks)

/-- A composition gives what is declared for every host, and the clauses: those of the conditional,
or a single one for all hosts. -/
inductive Composition.Gives (c : Composition) : Declarations → List Clause → Prop
  | plain {d : Declarations} (hc : c.conditional = none)
      (hi : ∀ i ∈ c.before, i.Fits blockReserved) (hd : declareAll .empty c.before = .ok d) :
      Composition.Gives c d.descriptiveFields [.fallback d.releaseFields]
  | conditional {outer : Declarations} {clauses : List Clause} {cond : Conditional}
      {after : List Item} (hc : c.conditional = some (cond, after))
      (hi : ∀ i ∈ c.before ++ after, i.Fits blockReserved)
      (hd : declareAll .empty (c.before ++ after) = .ok outer) (hg : cond.Gives clauses) :
      Composition.Gives c outer clauses

variable {outer : Declarations} {t : Reading} {sts : List Statement}

/-- A branch that ends with the conditional. -/
lemma exists_otherwise {done : List Clause} {line : Nat} (hsts : Unbroken sts) (ht : t.Ended)
    (h : readStatements ⟨outer, none, .branch ⟨line, done, none, .empty⟩, none⟩ sts = .ok t) :
    ∃ items body endLine rest,
      sts = items.flatMap Item.statements ++ endStatement endLine :: rest ∧
      (∀ i ∈ items, i.Fits branchReserved) ∧ declareAll .empty items = .ok body ∧
      readStatements ⟨outer, some (done.reverse ++ [.fallback body]), .block, none⟩ rest =
        .ok t := by
  obtain ⟨items, body, st, u, rest, rfl, ⟨hfits, hdeclares, ⟨w, hw, hhead⟩, htakes⟩, hrest⟩ :=
    exists_items (isScope_branch outer none ⟨line, done, none, .empty⟩) ht hsts h
  cases htakes with
  | foreign _ _ line args hw' hp => exact absurd (Lexeme.word.inj hhead ▸ hw) hp
  | @branchStanza kind _ _ _ d _ _ hd =>
    exact absurd (Lexeme.word.inj hhead ▸ hw) (word_notMem_branchReserved kind)
  | chainElsif _ _ hc hg => exact absurd rfl hc
  | chainElse _ _ line hc => exact absurd rfl hc
  | chainEnd _ _ _ endLine =>
    refine ⟨items, body, endLine, rest, rfl, hfits, hdeclares, ?_⟩
    simpa [Chain.close] using hrest

/-- The branches of a conditional, from the items of the first of them to the end. -/
lemma exists_branches {done : List Clause} {line n : Nat} {condition : List Placed}
    {guard : Guard} (hg : readCondition n condition = .ok guard) (hsts : Unbroken sts)
    (ht : t.Ended)
    (h : readStatements ⟨outer, none, .branch ⟨line, done, some guard, .empty⟩, none⟩ sts = .ok t) :
    ∃ (c : Conditional) (clauses : List Clause) (rest : List Statement),
      c.first.line = n ∧ c.first.condition = condition ∧ sts = c.tail ++ rest ∧
      c.Gives clauses ∧
      readStatements ⟨outer, some (done.reverse ++ clauses), .block, none⟩ rest = .ok t := by
  induction hk : sts.length using Nat.strong_induction_on
    generalizing sts done guard n condition with
  | _ k ih =>
    obtain ⟨items, body, st, u, rest, rfl, ⟨hfits, hdeclares, ⟨w, hw, hhead⟩, htakes⟩, hrest⟩ :=
      exists_items (isScope_branch outer none ⟨line, done, some guard, .empty⟩) ht hsts h
    have hunbroken : Unbroken rest := fun st' hst' => hsts st' (by simp [hst'])
    have hfirst : Branch.Gives ⟨n, condition, items⟩ (.guarded guard body) :=
      ⟨hfits, hg, hdeclares⟩
    cases htakes with
    | foreign _ _ line args hw' hp => exact absurd (Lexeme.word.inj hhead ▸ hw) hp
    | @branchStanza kind _ _ _ d _ _ hd =>
      exact absurd (Lexeme.word.inj hhead ▸ hw) (word_notMem_branchReserved kind)
    | @chainElsif _ _ _ n' condition' guard' hc hg' =>
      have hlength : rest.length < k := by
        rw [← hk]
        simp
        omega
      obtain ⟨c, clauses, rest', rfl, rfl, rfl, hc', hend⟩ := ih _ hlength hg' hunbroken hrest rfl
      cases hc' with
      | @intro guarded fallbacks hb ho =>
        refine ⟨⟨⟨n, condition, items⟩, c.first :: c.others, c.otherwise, c.endLine⟩, _, rest',
          rfl, rfl, ?_, .intro (.cons hfirst hb) ho, ?_⟩
        · simp [Conditional.tail, Branch.statements]
        · simpa [Chain.close] using hend
    | chainElse _ _ n' hc =>
      obtain ⟨items', body', endLine, rest', rfl, hfits', hdeclares', hend⟩ :=
        exists_otherwise hunbroken ht hrest
      refine ⟨⟨⟨n, condition, items⟩, [], some (n', items'), endLine⟩, _, rest', rfl, rfl, ?_,
        .intro (.cons hfirst .nil) (.cons ⟨hfits', hdeclares'⟩ .nil), ?_⟩
      · simp [Conditional.tail, otherwiseStatements]
      · simpa [Chain.close] using hend
    | chainEnd _ _ _ endLine =>
      refine ⟨⟨⟨n, condition, items⟩, [], none, endLine⟩, _, rest, rfl, rfl, ?_,
        .intro (.cons hfirst .nil) .nil, ?_⟩
      · simp [Conditional.tail, endStatement]
      · simpa [Chain.close] using hrest

/-- Nothing comes after the end of the block. -/
lemma eq_nil_of_afterBlock {clauses : Option (List Clause)}
    (h : readStatements ⟨outer, clauses, .afterBlock, none⟩ sts = .ok t) :
    sts = [] ∧ t = ⟨outer, clauses, .afterBlock, none⟩ := by
  cases sts with
  | nil => exact ⟨rfl, (Except.ok.inj h).symm⟩
  | cons st sts => cases h

/-- The items of the block up to its end, once the conditional has been read. -/
lemma exists_after {d : Declarations} {clauses : List Clause} (hsts : Unbroken sts) (ht : t.Ended)
    (h : readStatements ⟨d, some clauses, .block, none⟩ sts = .ok t) :
    ∃ after outer endLine, sts = after.flatMap Item.statements ++ [endStatement endLine] ∧
      (∀ i ∈ after, i.Fits blockReserved) ∧ declareAll d after = .ok outer ∧
      t = ⟨outer, some clauses, .afterBlock, none⟩ := by
  obtain ⟨items, d', st, u, rest, rfl, ⟨hfits, hdeclares, ⟨w, hw, hhead⟩, htakes⟩, hrest⟩ :=
    exists_items (isScope_block (some clauses)) ht hsts h
  cases htakes with
  | foreign _ _ line args hw' hp => exact absurd (Lexeme.word.inj hhead ▸ hw) hp
  | @blockStanza kind _ d _ _ _ hd =>
    exact absurd (Lexeme.word.inj hhead ▸ hw) (word_notMem_blockReserved kind)
  | blockEnd _ _ endLine =>
    obtain ⟨rfl, rfl⟩ := eq_nil_of_afterBlock hrest
    exact ⟨items, d', endLine, rfl, hfits, hdeclares, rfl⟩

/-- The statements of a definition have a composition, which gives what the definition says. -/
theorem exists_composition {last : Nat} {clauses : List Clause} (hsts : Unbroken sts)
    (h : (readStatements .start sts).bind (finish last) = .ok (outer, clauses)) :
    ∃ c : Composition, sts = c.statements ∧ c.Gives outer clauses := by
  obtain ⟨t, hread, hfinish⟩ := bind_eq_ok h
  have ht := ended_of_finish hfinish
  obtain ⟨before, d, st, u, rest, rfl, ⟨hfits, hdeclares, ⟨w, hw, hhead⟩, htakes⟩, hrest⟩ :=
    exists_items (isScope_block none) ht hsts (d := .empty) hread
  cases htakes with
  | foreign _ _ line args hw' hp => exact absurd (Lexeme.word.inj hhead ▸ hw) hp
  | @blockStanza kind _ d _ _ _ hd =>
    exact absurd (Lexeme.word.inj hhead ▸ hw) (word_notMem_blockReserved kind)
  | blockEnd _ _ endLine =>
    obtain ⟨rfl, rfl⟩ := eq_nil_of_afterBlock hrest
    cases hfinish
    exact ⟨⟨before, none, endLine⟩, rfl, .plain rfl hfits hdeclares⟩
  | @chainIf _ line condition guard hg =>
    have hunbroken : Unbroken rest := fun st' hst' => hsts st' (by simp [hst'])
    obtain ⟨cond, given, rest', rfl, rfl, rfl, hgives, hafter⟩ :=
      exists_branches hg hunbroken ht hrest
    have hunbroken' : Unbroken rest' := fun st' hst' => hunbroken st' (by simp [hst'])
    obtain ⟨after, outer', endLine, rfl, hfits', hdeclares', rfl⟩ :=
      exists_after hunbroken' ht hafter
    cases hfinish
    refine ⟨⟨before, some (cond, after), endLine⟩, ?_, .conditional rfl ?_ ?_ hgives⟩
    · simp [Composition.statements, Conditional.statements]
    · intro i hi
      rcases List.mem_append.1 hi with hi | hi
      · exact hfits i hi
      · exact hfits' i hi
    · rw [declareAll, List.foldlM_append]
      change (declareAll .empty before).bind _ = _
      rw [hdeclares]
      exact hdeclares'

/-! ## The words of conditionals -/

/-- The words of conditionals. -/
def conditionalWords : List String := ["if", "unless", "elsif", "else"]

/-- Whether a lexeme is a word of conditionals. -/
def isConditional (l : Placed) : Bool := conditionalWords.any (isWord · l)

/-- A word is known by itself. -/
lemma isConditional_word (w : String) (line : Nat) :
    isConditional ⟨.word w, line⟩ = true ↔ w ∈ conditionalWords := by
  simp [isConditional, isWord]

/-- A lexeme is a word of conditionals if it is one of them. -/
lemma exists_word_of_isConditional {l : Placed} (h : isConditional l = true) :
    ∃ w ∈ conditionalWords, l.lexeme = .word w := by
  obtain ⟨w, hw, hword⟩ := List.any_eq_true.1 h
  exact ⟨w, hw, by simpa [isWord] using hword⟩

/-- A word of conditionals is no line break. -/
lemma ne_newline_of_isConditional {l : Placed} (h : isConditional l = true) :
    l.lexeme ≠ .newline := by
  obtain ⟨w, -, hword⟩ := exists_word_of_isConditional h
  rw [hword]
  nofun

/-- The words of conditionals in statements. -/
def conditionalsOf (sts : List Statement) : List Placed :=
  (sts.flatMap lexemes).filter isConditional

namespace Item

/-- The words of conditionals in an item. -/
def conditionals (i : Item) : List Placed := conditionalsOf i.statements

/-- The words of conditionals in an item, but for those in a stanza outside the model that begins
with another word. -/
def exposed : Item → List Placed
  | stanza kind line args => (stanza kind line args).conditionals
  | foreign word line args block =>
    if word ∈ conditionalWords then (foreign word line args block).conditionals else []

/-- An item has nothing to do with conditionals: no word of them follows the value of a stanza, and
none begins a statement outside the model. -/
def IsPlain : Item → Prop
  | stanza _ _ args => ∀ l ∈ args, isConditional l = false
  | foreign word _ _ _ => word ∉ conditionalWords

end Item

/-- The lexemes at the heads of the branches, and between them what is taken from the items. -/
def Conditional.collect (f : Item → List Placed) (c : Conditional) : List Placed :=
  ⟨.word "if", c.first.line⟩ :: (c.first.items.flatMap f ++
    (c.others.flatMap (fun b => ⟨.word "elsif", b.line⟩ :: b.items.flatMap f) ++
      c.otherwise.toList.flatMap fun o => ⟨.word "else", o.1⟩ :: o.2.flatMap f))

/-- The lexemes at the heads of the branches, and what is taken from the items. -/
def Composition.collect (f : Item → List Placed) (c : Composition) : List Placed :=
  c.before.flatMap f ++ c.conditional.toList.flatMap fun p => p.1.collect f ++ p.2.flatMap f

/-- The lexemes at the heads of the branches. -/
def Composition.heads (c : Composition) : List Placed := c.collect fun _ => []

/-- The items of a conditional. -/
def Conditional.items (c : Conditional) : List Item :=
  c.first.items ++ (c.others.flatMap Branch.items ++ c.otherwise.toList.flatMap Prod.snd)

/-- The items of a composition. -/
def Composition.items (c : Composition) : List Item :=
  c.before ++ c.conditional.toList.flatMap fun p => p.1.items ++ p.2

lemma conditionalsOf_append (sts sts' : List Statement) :
    conditionalsOf (sts ++ sts') = conditionalsOf sts ++ conditionalsOf sts' := by
  rw [conditionalsOf, List.flatMap_append, List.filter_append]
  rfl

/-- The words of conditionals in statements are those in the first of them and those in the
others. -/
lemma conditionalsOf_cons (st : Statement) (sts : List Statement) :
    conditionalsOf (st :: sts) = st.lexemes.filter isConditional ++ conditionalsOf sts := by
  rw [conditionalsOf, List.flatMap_cons, List.filter_append]
  rfl

/-- The words of conditionals in items are those in each of them. -/
lemma conditionalsOf_items (items : List Item) :
    conditionalsOf (items.flatMap Item.statements) = items.flatMap Item.conditionals := by
  induction items with
  | nil => rfl
  | cons i items ih =>
    rw [List.flatMap_cons, conditionalsOf_append, ih, List.flatMap_cons]
    rfl

/-- No guard has a word of conditionals. -/
lemma filter_condition {line : Nat} {condition : List Placed} {guard : Guard}
    (h : readCondition line condition = .ok guard) : condition.filter isConditional = [] := by
  have hrefused : ∀ w ∈ conditionalWords, Guard.Refused w := by
    intro w hw
    simp only [conditionalWords, List.mem_cons, List.not_mem_nil, or_false] at hw
    rcases hw with rfl | rfl | rfl | rfl <;> exact ⟨by decide, by decide⟩
  rw [List.filter_eq_nil_iff]
  intro l hl hcond
  obtain ⟨w, hw, hword⟩ := exists_word_of_isConditional hcond
  exact ne_word_of_readCondition h (hrefused w hw) hl hword

/-- The head of a branch is a word of conditionals. -/
lemma conditionalsOf_head {w : String} (hw : w ∈ conditionalWords) (line : Nat)
    {condition : List Placed} (hc : condition.filter isConditional = []) (sts : List Statement) :
    conditionalsOf (⟨⟨.word w, line⟩, condition⟩ :: sts) =
      ⟨.word w, line⟩ :: conditionalsOf sts := by
  rw [conditionalsOf_cons, lexemes, List.filter_cons_of_pos ((isConditional_word w line).2 hw), hc]
  rfl

/-- The words of conditionals in a branch are its head and those in its items. -/
lemma conditionalsOf_branch {b : Branch} {c : Clause} (h : b.Gives c) {w : String}
    (hw : w ∈ conditionalWords) : conditionalsOf (b.statements w) =
      ⟨.word w, b.line⟩ :: b.items.flatMap Item.conditionals := by
  cases h with
  | intro _ hg _ =>
    rw [Branch.statements, conditionalsOf_head hw _ (filter_condition hg), conditionalsOf_items]

/-- The words of conditionals in branches after the first. -/
lemma conditionalsOf_others {others : List Branch} {clauses : List Clause}
    (h : List.Forall₂ Branch.Gives others clauses) :
    conditionalsOf (others.flatMap (Branch.statements "elsif")) =
      others.flatMap fun b => ⟨.word "elsif", b.line⟩ :: b.items.flatMap Item.conditionals := by
  induction h with
  | nil => rfl
  | cons hb _ ih =>
    rw [List.flatMap_cons, conditionalsOf_append, conditionalsOf_branch hb (by decide), ih,
      List.flatMap_cons]

/-- The words of conditionals in a branch without a condition. -/
lemma conditionalsOf_otherwise (o : Option (Nat × List Item)) :
    conditionalsOf (o.toList.flatMap otherwiseStatements) =
      o.toList.flatMap fun o => ⟨.word "else", o.1⟩ :: o.2.flatMap Item.conditionals := by
  cases o with
  | none => rfl
  | some o =>
    have helse : conditionalsOf (otherwiseStatements o) =
        ⟨.word "else", o.1⟩ :: o.2.flatMap Item.conditionals := by
      rw [otherwiseStatements, conditionalsOf_head (by decide) _ rfl, conditionalsOf_items]
    simpa using helse

/-- The words of conditionals in a conditional are the heads of its branches and those in items. -/
lemma conditionalsOf_conditional {c : Conditional} {clauses : List Clause} (h : c.Gives clauses) :
    conditionalsOf c.statements = c.collect Item.conditionals := by
  cases h with
  | intro hb ho =>
    cases hb with
    | cons hfirst hothers =>
      cases hfirst with
      | intro _ hg _ =>
        have hcondition := filter_condition hg
        have hend : conditionalsOf [endStatement c.endLine] = [] := rfl
        have htail : conditionalsOf c.tail = c.first.items.flatMap Item.conditionals ++
            ((c.others.flatMap fun b =>
                ⟨.word "elsif", b.line⟩ :: b.items.flatMap Item.conditionals) ++
              c.otherwise.toList.flatMap fun o =>
                ⟨.word "else", o.1⟩ :: o.2.flatMap Item.conditionals) := by
          simp only [Conditional.tail, conditionalsOf_append, conditionalsOf_items,
            conditionalsOf_others hothers, conditionalsOf_otherwise, hend, List.append_nil]
        rw [Conditional.statements, conditionalsOf_head (by decide) _ hcondition, htail]
        rfl

/-- The words of conditionals in a definition are the heads of the branches and those in items. -/
lemma conditionalsOf_composition {c : Composition} {outer : Declarations} {clauses : List Clause}
    (h : c.Gives outer clauses) : conditionalsOf c.statements = c.collect Item.conditionals := by
  have hend : conditionalsOf [endStatement c.endLine] = [] := rfl
  simp only [Composition.statements, Composition.collect, conditionalsOf_append,
    conditionalsOf_items, hend, List.append_nil]
  cases h with
  | plain hc hi hd => rw [hc]; rfl
  | conditional hc hi hd hg =>
    simp only [hc, Option.toList_some, List.flatMap_singleton, conditionalsOf_append,
      conditionalsOf_conditional hg, conditionalsOf_items]

/-- What is collected from a conditional is as long as the heads and what comes from the items. -/
lemma Conditional.length_collect (f : Item → List Placed) (c : Conditional) :
    (c.collect f).length = (c.collect fun _ => []).length + (c.items.flatMap f).length := by
  have hothers : ∀ bs : List Branch,
      (bs.flatMap fun b => ⟨.word "elsif", b.line⟩ :: b.items.flatMap f).length =
        bs.length + ((bs.flatMap Branch.items).flatMap f).length := by
    intro bs
    induction bs with
    | nil => rfl
    | cons b bs ih =>
      simp only [List.flatMap_cons, List.flatMap_append, List.length_append, List.length_cons, ih]
      omega
  have hplain : (c.others.flatMap fun b => ⟨.word "elsif", b.line⟩ ::
      b.items.flatMap fun _ => ([] : List Placed)).length = c.others.length := by
    simp
  have hotherwise : (c.otherwise.toList.flatMap fun o =>
      ⟨.word "else", o.1⟩ :: o.2.flatMap f).length =
        (c.otherwise.toList.flatMap fun o => ⟨.word "else", o.1⟩ ::
          o.2.flatMap fun _ => ([] : List Placed)).length +
        ((c.otherwise.toList.flatMap Prod.snd).flatMap f).length := by
    cases c.otherwise with
    | none => rfl
    | some o => simp [Nat.add_comm]
  simp only [Conditional.collect, Conditional.items, List.length_cons, List.length_append,
    List.flatMap_append, hothers, hplain, hotherwise]
  simp
  omega

/-- What is collected from a composition is as long as the heads and what comes from the items. -/
lemma Composition.length_collect (f : Item → List Placed) (c : Composition) :
    (c.collect f).length = c.heads.length + (c.items.flatMap f).length := by
  rw [Composition.heads, Composition.collect, Composition.collect, Composition.items]
  cases c.conditional with
  | none => simp
  | some p =>
    have hcond := p.1.length_collect f
    simp [hcond]
    omega

/-- What is collected from a conditional depends on what is taken from its items. -/
lemma Conditional.collect_congr {f g : Item → List Placed} (c : Conditional)
    (h : ∀ i ∈ c.items, f i = g i) : c.collect f = c.collect g := by
  have hfirst : c.first.items.flatMap f = c.first.items.flatMap g :=
    List.flatMap_congr fun i hi => h i (List.mem_append_left _ hi)
  have hothers : (c.others.flatMap fun b => ⟨.word "elsif", b.line⟩ :: b.items.flatMap f) =
      c.others.flatMap fun b => (⟨.word "elsif", b.line⟩ : Placed) :: b.items.flatMap g := by
    refine List.flatMap_congr fun b hb => congrArg _ (List.flatMap_congr fun i hi => h i ?_)
    exact List.mem_append_right _ (List.mem_append_left _ (List.mem_flatMap.2 ⟨b, hb, hi⟩))
  have hotherwise : (c.otherwise.toList.flatMap fun o =>
      ⟨.word "else", o.1⟩ :: o.2.flatMap f) =
      c.otherwise.toList.flatMap fun o => (⟨.word "else", o.1⟩ : Placed) :: o.2.flatMap g := by
    refine List.flatMap_congr fun o ho => congrArg _ (List.flatMap_congr fun i hi => h i ?_)
    exact List.mem_append_right _ (List.mem_append_right _ (List.mem_flatMap.2 ⟨o, ho, hi⟩))
  rw [Conditional.collect, hfirst, hothers, hotherwise, Conditional.collect]

/-- What is collected from a composition depends on what is taken from its items. -/
lemma Composition.collect_congr {f g : Item → List Placed} (c : Composition)
    (h : ∀ i ∈ c.items, f i = g i) : c.collect f = c.collect g := by
  obtain ⟨before, conditional, endLine⟩ := c
  have hbefore : before.flatMap f = before.flatMap g :=
    List.flatMap_congr fun i hi => h i (List.mem_append_left _ hi)
  rw [Composition.collect, Composition.collect, hbefore]
  cases conditional with
  | none => rfl
  | some p =>
    obtain ⟨cond, after⟩ := p
    have hcond : ∀ i ∈ cond.items ++ after, f i = g i := fun i hi =>
      h i (List.mem_append_right _ (by simpa using hi))
    have hafter : after.flatMap f = after.flatMap g :=
      List.flatMap_congr fun i hi => hcond i (List.mem_append_right _ hi)
    simp only [Option.toList_some, List.flatMap_singleton,
      cond.collect_congr fun i hi => hcond i (List.mem_append_left _ hi), hafter]

/-- The heads are all that is collected if nothing is taken from the items, and only then. -/
lemma Composition.collect_eq_heads_iff (f : Item → List Placed) (c : Composition) :
    c.collect f = c.heads ↔ ∀ i ∈ c.items, f i = [] := by
  constructor
  · intro h
    have hlength := c.length_collect f
    rw [h] at hlength
    have hnil : c.items.flatMap f = [] := List.length_eq_zero_iff.1 (by omega)
    exact List.flatMap_eq_nil_iff.1 hnil
  · exact c.collect_congr

/-- A word of conditionals is exposed in an item unless the item is plain. -/
lemma Item.exposed_eq_nil_iff (i : Item) : i.exposed = [] ↔ i.IsPlain := by
  cases i with
  | stanza kind line args =>
    have hkind : kind.word ∉ conditionalWords := by
      cases kind <;> decide
    have hword : ¬isConditional ⟨.word kind.word, line⟩ = true := fun h =>
      hkind ((isConditional_word _ _).1 h)
    have hargs : (Item.stanza kind line args).exposed = args.filter isConditional := by
      rw [exposed, conditionals, statements, conditionalsOf_cons, lexemes,
        List.filter_cons_of_neg hword]
      exact List.append_nil _
    rw [hargs, List.filter_eq_nil_iff]
    simp [IsPlain]
  | foreign word line args block =>
    rw [exposed, IsPlain]
    split
    · next hw =>
      rw [conditionals, statements, conditionalsOf_cons, lexemes,
        List.filter_cons_of_pos ((isConditional_word word line).2 hw)]
      simp [hw]
    · next hw => exact iff_of_true rfl hw

/-! ## Definitions that are accepted -/

/-- The opening line has no word of conditionals. -/
lemma filter_readOpening {ls body : List Placed} {token : String}
    (h : readOpening ls = .ok (token, body)) :
    ls.filter isConditional = body.filter isConditional := by
  rw [readOpening_eq] at h
  obtain ⟨front, t, hsplit, ht, hfront⟩ := readOpeningLine_eq_ok h
  have hbreaks : (ls.takeWhile (·.lexeme = .newline)).filter isConditional = [] := by
    rw [List.filter_eq_nil_iff]
    intro l hl hcond
    exact ne_newline_of_isConditional hcond (by simpa using List.mem_takeWhile_imp hl)
  have hnone : front.filter isConditional = [] := by
    rw [List.filter_eq_nil_iff]
    intro l hl hcond
    obtain ⟨w, hw, hword⟩ := exists_word_of_isConditional hcond
    have hmem : Lexeme.word w ∈ front.map Placed.lexeme := hword ▸ List.mem_map_of_mem hl
    have hopens : w = "cask" ∨ w = "do" := by
      rcases hfront with hf | ⟨-, hf⟩ <;> rw [hf] at hmem <;> rcases ht with rfl | rfl <;>
        simpa using hmem
    rcases hopens with rfl | rfl <;> exact absurd hw (by decide)
  have hls := List.takeWhile_append_dropWhile (p := (·.lexeme = .newline)) (l := ls)
  rw [← hls, List.filter_append, hbreaks, hsplit, List.filter_append, hnone]
  rfl

/-- The words of conditionals in a text are those in its statements. -/
lemma filter_eq_conditionalsOf (body : List Placed) :
    body.filter isConditional = conditionalsOf (ofLexemes body) := by
  rw [conditionalsOf, Statement.flatMap_lexemes_ofLexemes, List.filter_filter]
  refine List.filter_congr fun l _ => ?_
  cases hl : isConditional l with
  | true => simpa using ne_newline_of_isConditional hl
  | false => rfl

/-- A text that is accepted has a composition, which gives the clauses of the manifest: one with a
guard for each `if` or `elsif` at the head of a branch, one without for each `else`. All words of
conditionals that are not in a stanza outside the model which begins with another word are such
heads, if no word of conditionals follows the value of a stanza of the model and none begins a
statement where no branch is open; and only then. -/
theorem conditionals_of_parse {src : String} {m : Manifest} (h : parse src = .ok m) :
    ∃ (ls body : List Placed) (token : String) (c : Composition),
      Lexeme.scan src = .ok ls ∧ readOpening ls = .ok (token, body) ∧
      ofLexemes body = c.statements ∧ c.Gives m.outer m.clauses ∧
      ls.filter isConditional = c.collect Item.conditionals ∧
      (c.collect Item.exposed = c.heads ↔ ∀ i ∈ c.items, i.IsPlain) := by
  obtain ⟨found, hfound, hm⟩ := exists_scans_of_parse h
  obtain ⟨⟨token, body⟩, hopening, hm⟩ := bind_eq_ok hm
  obtain ⟨⟨outer, clauses⟩, hbody, hm⟩ := bind_eq_ok hm
  have hbuild : m.outer = outer ∧ m.clauses = clauses := by
    cases hb : Manifest.build token outer clauses with
    | error e =>
      rw [hb] at hm
      cases hm
    | ok m' =>
      rw [hb] at hm
      cases hm
      obtain ⟨-, rfl⟩ := Manifest.build_eq_ok_iff.1 hb
      exact ⟨rfl, rfl⟩
  obtain ⟨c, hstatements, hgives⟩ := exists_composition (Statement.unbroken_ofLexemes body) hbody
  refine ⟨Lexeme.place 1 found, body, token, c, scan_eq_ok hfound, hopening, hstatements,
    hbuild.1 ▸ hbuild.2 ▸ hgives, ?_, ?_⟩
  · rw [filter_readOpening hopening, filter_eq_conditionalsOf, hstatements,
      conditionalsOf_composition hgives]
  · rw [c.collect_eq_heads_iff]
    exact forall₂_congr fun i _ => i.exposed_eq_nil_iff

/-- A definition with two branches. -/
def branchedDefinition : String :=
  "cask 'x' do\nsha256 :no_check\nif MacOS.release == :lion\n" ++
    "version '1'\nelse\nversion '2'\nend\nend"

/-- A definition with two branches gives two clauses. -/
theorem conditionals_of_parse_branches :
    ∃ m, parse branchedDefinition = .ok m ∧
      m.clauses = [.guarded (.release .eq "lion") { Declarations.empty with version := some ⟨"1"⟩ },
        .fallback { Declarations.empty with version := some ⟨"2"⟩ }] ∧
      ∃ (ls body : List Placed) (token : String) (c : Composition),
        Lexeme.scan branchedDefinition = .ok ls ∧ readOpening ls = .ok (token, body) ∧
        ofLexemes body = c.statements ∧ c.Gives m.outer m.clauses ∧
        ls.filter isConditional = c.collect Item.conditionals ∧
        (c.collect Item.exposed = c.heads ↔ ∀ i ∈ c.items, i.IsPlain) := by
  have hscan : Lexeme.scan branchedDefinition =
      .ok [⟨.word "cask", 1⟩, ⟨.text "x", 1⟩, ⟨.word "do", 1⟩, ⟨.newline, 1⟩, ⟨.word "sha256", 2⟩,
        ⟨.symbol "no_check", 2⟩, ⟨.newline, 2⟩, ⟨.word "if", 3⟩, ⟨.word "MacOS.release", 3⟩,
        ⟨.operator .eq, 3⟩, ⟨.symbol "lion", 3⟩, ⟨.newline, 3⟩, ⟨.word "version", 4⟩,
        ⟨.text "1", 4⟩, ⟨.newline, 4⟩, ⟨.word "else", 5⟩, ⟨.newline, 5⟩, ⟨.word "version", 6⟩,
        ⟨.text "2", 6⟩, ⟨.newline, 6⟩, ⟨.word "end", 7⟩, ⟨.newline, 7⟩, ⟨.word "end", 8⟩] := by
    decide +kernel
  have hparse : parse branchedDefinition =
      .ok ⟨⟨"x"⟩, { Declarations.empty with checksum := some .noCheck },
        [.guarded (.release .eq "lion") { Declarations.empty with version := some ⟨"1"⟩ },
          .fallback { Declarations.empty with version := some ⟨"2"⟩ }]⟩ := by
    rw [parse_eq, hscan]
    rfl
  exact ⟨_, hparse, rfl, conditionals_of_parse hparse⟩

/-- A definition with a condition after the value of a stanza. -/
def conditionAfterValue : String :=
  "cask 'x' do\nversion '1' if MacOS.release == :lion\nsha256 :no_check\nend"

/-- A definition with an `else` where no branch is open. -/
def strayElse : String := "cask 'x' do\nversion '1'\nelse\nsha256 :no_check\nend"

/-- A condition after the value of a stanza is lost, and so is an `else` where no branch is open. -/
theorem conditionals_lost :
    (∃ ls, Lexeme.scan conditionAfterValue = .ok ls ∧
      ls.filter isConditional = [⟨.word "if", 2⟩]) ∧
    parse conditionAfterValue =
      .ok ⟨⟨"x"⟩, .empty, [.fallback { Declarations.empty with
        version := some ⟨"1"⟩, checksum := some .noCheck }]⟩ ∧
    parse strayElse =
      .ok ⟨⟨"x"⟩, .empty, [.fallback { Declarations.empty with
        version := some ⟨"1"⟩, checksum := some .noCheck }]⟩ := by
  have hscan : Lexeme.scan conditionAfterValue =
      .ok [⟨.word "cask", 1⟩, ⟨.text "x", 1⟩, ⟨.word "do", 1⟩, ⟨.newline, 1⟩,
        ⟨.word "version", 2⟩, ⟨.text "1", 2⟩, ⟨.word "if", 2⟩, ⟨.word "MacOS.release", 2⟩,
        ⟨.operator .eq, 2⟩, ⟨.symbol "lion", 2⟩, ⟨.newline, 2⟩, ⟨.word "sha256", 3⟩,
        ⟨.symbol "no_check", 3⟩, ⟨.newline, 3⟩, ⟨.word "end", 4⟩] := by
    decide +kernel
  have helse : Lexeme.scan strayElse =
      .ok [⟨.word "cask", 1⟩, ⟨.text "x", 1⟩, ⟨.word "do", 1⟩, ⟨.newline, 1⟩,
        ⟨.word "version", 2⟩, ⟨.text "1", 2⟩, ⟨.newline, 2⟩, ⟨.word "else", 3⟩, ⟨.newline, 3⟩,
        ⟨.word "sha256", 4⟩, ⟨.symbol "no_check", 4⟩, ⟨.newline, 4⟩, ⟨.word "end", 5⟩] := by
    decide +kernel
  refine ⟨⟨_, hscan, by decide⟩, ?_, ?_⟩
  · rw [parse_eq, hscan]
    rfl
  · rw [parse_eq, helse]
    rfl

end CaskAudit.Definition
