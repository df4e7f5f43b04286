import CaskAudit.Proofs.Source.Conditionals

/-!
# Definitions are unambiguous

The statements of a definition have one composition at most (`Composition.eq_of_statements_eq`). An
item ends where the block that it opens is closed, and items end where a statement begins with a
word that is reserved there; so what two compositions write can be compared from left to right, and
neither of them can stop early.
-/

namespace CaskAudit.Definition

variable {reserved reserved' : List String} {i i' : Item} {items items' : List Item}
  {sts sts' : List Statement}

/-! ## Items -/

/-- Statements that close as many blocks can be told from what follows them. -/
lemma ClosesBlocks.append_cancel {depth : Nat} {block block' : List Statement}
    (h : ClosesBlocks depth block) (h' : ClosesBlocks depth block')
    (heq : block ++ sts = block' ++ sts') : block = block' ∧ sts = sts' := by
  induction h generalizing block' with
  | nil =>
    cases h' with
    | nil => exact ⟨rfl, heq⟩
    | cons hd _ => cases hd
  | cons hd _ ih =>
    cases h' with
    | nil => cases hd
    | cons _ h' =>
      obtain ⟨rfl, hrest⟩ := List.cons.inj heq
      obtain ⟨rfl, rfl⟩ := ih h' hrest
      exact ⟨rfl, rfl⟩

/-- A kind of stanza is told by its word. -/
lemma ofWord?_word (kind : Stanza.Kind) : Stanza.Kind.ofWord? kind.word = some kind := by
  cases kind <;> decide

/-- An item can be told from what follows it. -/
lemma Item.Fits.append_cancel (hi : i.Fits reserved) (hi' : i'.Fits reserved')
    (heq : i.statements ++ sts = i'.statements ++ sts') : i = i' ∧ sts = sts' := by
  cases i with
  | stanza kind line args =>
    cases i' with
    | stanza kind' line' args' =>
      obtain ⟨hword, hrest⟩ := List.cons.inj heq
      simp only [Statement.mk.injEq, Placed.mk.injEq, Lexeme.word.injEq] at hword
      obtain ⟨⟨hword, rfl⟩, rfl⟩ := hword
      have hkind := congrArg Stanza.Kind.ofWord? hword
      rw [ofWord?_word, ofWord?_word] at hkind
      obtain rfl := Option.some.inj hkind
      exact ⟨rfl, hrest⟩
    | foreign word line' args' block =>
      have hword : kind.word = word := by
        simpa using congrArg (fun st => st.head.lexeme) (List.cons.inj heq).1
      have hnone := hi'.1
      rw [← hword, ofWord?_word] at hnone
      cases hnone
  | foreign word line args block =>
    cases i' with
    | stanza kind line' args' =>
      have hword : word = kind.word := by
        simpa using congrArg (fun st => st.head.lexeme) (List.cons.inj heq).1
      have hnone := hi.1
      rw [hword, ofWord?_word] at hnone
      cases hnone
    | foreign word' line' args' block' =>
      obtain ⟨hhead, hrest⟩ := List.cons.inj heq
      simp only [Statement.mk.injEq, Placed.mk.injEq, Lexeme.word.injEq] at hhead
      obtain ⟨⟨rfl, rfl⟩, rfl⟩ := hhead
      obtain ⟨rfl, rfl⟩ := hi.2.2.append_cancel hi'.2.2 hrest
      exact ⟨rfl, rfl⟩

/-- The first of the statements begins with a reserved word. -/
def Begins (reserved : List String) (sts : List Statement) : Prop :=
  ∃ st rest w, sts = st :: rest ∧ w ∈ reserved ∧ st.head.lexeme = .word w

/-- No item begins with a word that is reserved where it stands. -/
lemma Item.Fits.not_begins (hreserved : ∀ kind : Stanza.Kind, kind.word ∉ reserved)
    (hi : i.Fits reserved) : ¬Begins reserved (i.statements ++ sts) := by
  rintro ⟨st, rest, w, heq, hw, hword⟩
  cases i with
  | stanza kind line args =>
    obtain ⟨rfl, -⟩ := List.cons.inj heq
    exact hreserved kind (Lexeme.word.inj hword ▸ hw)
  | foreign word line args block =>
    obtain ⟨rfl, -⟩ := List.cons.inj heq
    exact hi.2.1 (Lexeme.word.inj hword ▸ hw)

/-- Items can be told from what follows them, if that begins with a reserved word. -/
lemma items_append_cancel (hreserved : ∀ kind : Stanza.Kind, kind.word ∉ reserved)
    (hi : ∀ i ∈ items, i.Fits reserved) (hi' : ∀ i ∈ items', i.Fits reserved)
    (hsts : Begins reserved sts) (hsts' : Begins reserved sts')
    (heq : items.flatMap Item.statements ++ sts = items'.flatMap Item.statements ++ sts') :
    items = items' ∧ sts = sts' := by
  -- Neither side can end first: the other would go on with an item where a reserved word stands.
  induction items generalizing items' with
  | nil =>
    cases items' with
    | nil => exact ⟨rfl, heq⟩
    | cons i' items' =>
      rw [List.flatMap_nil, List.nil_append, List.flatMap_cons, List.append_assoc] at heq
      rw [heq] at hsts
      exact absurd hsts ((hi' i' List.mem_cons_self).not_begins hreserved)
  | cons i items ih =>
    cases items' with
    | nil =>
      rw [List.flatMap_nil, List.nil_append, List.flatMap_cons, List.append_assoc] at heq
      rw [← heq] at hsts'
      exact absurd hsts' ((hi i List.mem_cons_self).not_begins hreserved)
    | cons i' items' =>
      obtain ⟨hfirst, hrest⟩ := List.forall_mem_cons.1 hi
      obtain ⟨hfirst', hrest'⟩ := List.forall_mem_cons.1 hi'
      simp only [List.flatMap_cons, List.append_assoc] at heq
      obtain ⟨rfl, htail⟩ := hfirst.append_cancel hfirst' heq
      obtain ⟨rfl, rfl⟩ := ih hrest hrest' htail
      exact ⟨rfl, rfl⟩

/-! ## Conditionals -/

/-- The statements after the branches with a condition: the branch without one, if there is one, and
the end. -/
def closing (o : Option (Nat × List Item)) (endLine : Nat) (rest : List Statement) :
    List Statement :=
  o.toList.flatMap otherwiseStatements ++ endStatement endLine :: rest

/-- The word after the branches with a condition is `else` or `end`. -/
lemma exists_closing (o : Option (Nat × List Item)) (endLine : Nat) (rest : List Statement) :
    ∃ st sts w, closing o endLine rest = st :: sts ∧ (w = "else" ∨ w = "end") ∧
      st.head.lexeme = .word w := by
  cases o with
  | none => exact ⟨_, _, _, rfl, .inr rfl, rfl⟩
  | some o => exact ⟨_, _, _, rfl, .inl rfl, rfl⟩

/-- What comes after a branch begins with a reserved word. -/
lemma begins_others (others : List Branch) (o : Option (Nat × List Item)) (endLine : Nat)
    (rest : List Statement) :
    Begins branchReserved
      (others.flatMap (Branch.statements "elsif") ++ closing o endLine rest) := by
  cases others with
  | nil =>
    obtain ⟨st, sts, w, hclosing, hw, hword⟩ := exists_closing o endLine rest
    refine ⟨st, sts, w, hclosing, ?_, hword⟩
    rcases hw with rfl | rfl <;> decide
  | cons b others => exact ⟨_, _, "elsif", rfl, by decide, rfl⟩

/-- The end of a block begins with a reserved word. -/
lemma begins_end {reserved : List String} (h : "end" ∈ reserved) (endLine : Nat)
    (rest : List Statement) : Begins reserved (endStatement endLine :: rest) :=
  ⟨_, _, "end", rfl, h, rfl⟩

variable {o o' : Option (Nat × List Item)} {others others' : List Branch} {n n' : Nat}
  {c c' : Conditional}

/-- Statements that begin with other words are other statements. -/
lemma cons_ne_cons {w w' : String} (h : w ≠ w') {line line' : Nat} {args args' : List Placed} :
    (⟨⟨.word w, line⟩, args⟩ : Statement) :: sts ≠ ⟨⟨.word w', line'⟩, args'⟩ :: sts' := by
  intro heq
  exact h (by simpa using congrArg (fun st => st.head.lexeme) (List.cons.inj heq).1)

/-- The branch without a condition and the end can be told from what follows them. -/
lemma closing_cancel (ho : ∀ i ∈ o.toList.flatMap Prod.snd, i.Fits branchReserved)
    (ho' : ∀ i ∈ o'.toList.flatMap Prod.snd, i.Fits branchReserved)
    (heq : closing o n sts = closing o' n' sts') : o = o' ∧ n = n' ∧ sts = sts' := by
  have hend : ∀ {k k' : Nat}, endStatement k :: sts = endStatement k' :: sts' →
      k = k' ∧ sts = sts' := by
    intro k k' h
    obtain ⟨hhead, hrest⟩ := List.cons.inj h
    exact ⟨congrArg (fun st => st.head.line) hhead, hrest⟩
  cases o with
  | none =>
    cases o' with
    | none => exact ⟨rfl, hend heq⟩
    | some o' =>
      exact absurd heq (cons_ne_cons (by decide))
  | some o =>
    cases o' with
    | none =>
      exact absurd heq (cons_ne_cons (by decide))
    | some o' =>
      obtain ⟨line, items⟩ := o
      obtain ⟨line', items'⟩ := o'
      rw [Option.toList_some, List.flatMap_singleton] at ho ho'
      simp only [closing, Option.toList_some, List.flatMap_singleton, otherwiseStatements,
        List.cons_append, List.cons.injEq, Statement.mk.injEq, Placed.mk.injEq, true_and,
        and_true] at heq
      obtain ⟨rfl, hitems⟩ := heq
      obtain ⟨rfl, hrest⟩ := items_append_cancel word_notMem_branchReserved ho ho'
        (begins_end (by decide) n sts) (begins_end (by decide) n' sts') hitems
      exact ⟨rfl, hend hrest⟩

/-- The branches after the first can be told from what follows them. -/
lemma others_cancel (hb : ∀ i ∈ others.flatMap Branch.items, i.Fits branchReserved)
    (hb' : ∀ i ∈ others'.flatMap Branch.items, i.Fits branchReserved)
    (ho : ∀ i ∈ o.toList.flatMap Prod.snd, i.Fits branchReserved)
    (ho' : ∀ i ∈ o'.toList.flatMap Prod.snd, i.Fits branchReserved)
    (heq : others.flatMap (Branch.statements "elsif") ++ closing o n sts =
      others'.flatMap (Branch.statements "elsif") ++ closing o' n' sts') :
    others = others' ∧ o = o' ∧ n = n' ∧ sts = sts' := by
  have hclash : ∀ {o : Option (Nat × List Item)} {n : Nat} {sts rest : List Statement} {b : Branch},
      closing o n sts ≠ b.statements "elsif" ++ rest := by
    intro o n sts rest b h
    obtain ⟨st, sts', w, hclosing, hw, hword⟩ := exists_closing o n sts
    rw [hclosing] at h
    rw [(List.cons.inj h).1] at hword
    obtain rfl := Lexeme.word.inj hword
    revert hw
    decide
  induction others generalizing others' with
  | nil =>
    cases others' with
    | nil => exact ⟨rfl, closing_cancel ho ho' heq⟩
    | cons b' others' =>
      rw [List.flatMap_cons, List.append_assoc] at heq
      exact absurd heq hclash
  | cons b others ih =>
    cases others' with
    | nil =>
      rw [List.flatMap_cons, List.append_assoc] at heq
      exact absurd heq.symm hclash
    | cons b' others' =>
      obtain ⟨line, condition, items⟩ := b
      obtain ⟨line', condition', items'⟩ := b'
      rw [List.flatMap_cons] at hb hb'
      obtain ⟨hitems, hrest⟩ := List.forall_mem_append.1 hb
      obtain ⟨hitems', hrest'⟩ := List.forall_mem_append.1 hb'
      simp only [List.flatMap_cons, Branch.statements, List.cons_append, List.append_assoc,
        List.cons.injEq, Statement.mk.injEq, Placed.mk.injEq, true_and] at heq
      obtain ⟨⟨rfl, rfl⟩, htail⟩ := heq
      obtain ⟨rfl, hothers⟩ := items_append_cancel word_notMem_branchReserved hitems hitems'
        (begins_others others o n sts) (begins_others others' o' n' sts') htail
      obtain ⟨rfl, hclosing⟩ := ih hrest hrest' hothers
      exact ⟨rfl, hclosing⟩

/-- A conditional can be told from what follows it. -/
lemma Conditional.append_cancel (h : ∀ i ∈ c.items, i.Fits branchReserved)
    (h' : ∀ i ∈ c'.items, i.Fits branchReserved)
    (heq : c.statements ++ sts = c'.statements ++ sts') : c = c' ∧ sts = sts' := by
  obtain ⟨⟨line, condition, items⟩, others, o, n⟩ := c
  obtain ⟨⟨line', condition', items'⟩, others', o', n'⟩ := c'
  rw [Conditional.items] at h h'
  obtain ⟨hitems, hrest⟩ := List.forall_mem_append.1 h
  obtain ⟨hitems', hrest'⟩ := List.forall_mem_append.1 h'
  obtain ⟨hothers, ho⟩ := List.forall_mem_append.1 hrest
  obtain ⟨hothers', ho'⟩ := List.forall_mem_append.1 hrest'
  simp only [Conditional.statements, Conditional.tail, List.cons_append, List.append_assoc,
    List.nil_append, List.cons.injEq, Statement.mk.injEq, Placed.mk.injEq, true_and] at heq
  obtain ⟨⟨rfl, rfl⟩, htail⟩ := heq
  obtain ⟨rfl, hbranches⟩ := items_append_cancel word_notMem_branchReserved hitems hitems'
    (begins_others others o n sts) (begins_others others' o' n' sts') htail
  obtain ⟨rfl, rfl, rfl, rfl⟩ := others_cancel hothers hothers' ho ho' hbranches
  exact ⟨rfl, rfl⟩

/-! ## Compositions -/

namespace Composition

/-- Every item stands where its first word is not reserved. -/
structure Fits (c : Composition) : Prop where
  outside : ∀ i ∈ c.before ++ c.conditional.toList.flatMap Prod.snd, i.Fits blockReserved
  inside : ∀ i ∈ c.conditional.toList.flatMap fun p => p.1.items, i.Fits branchReserved

/-- What comes after the first items of a definition begins with a reserved word. -/
lemma begins_after (conditional : Option (Conditional × List Item)) (endLine : Nat) :
    Begins blockReserved
      (conditional.toList.flatMap (fun p => p.1.statements ++ p.2.flatMap Item.statements) ++
        [endStatement endLine]) := by
  cases conditional with
  | none => exact begins_end (by decide) endLine []
  | some p => exact ⟨_, _, "if", rfl, by decide, rfl⟩

/-- The statements of a definition have one composition. -/
theorem eq_of_statements_eq {c c' : Composition} (h : c.Fits) (h' : c'.Fits)
    (heq : c.statements = c'.statements) : c = c' := by
  obtain ⟨before, conditional, n⟩ := c
  obtain ⟨before', conditional', n'⟩ := c'
  obtain ⟨hbefore, hafter⟩ := List.forall_mem_append.1 h.outside
  obtain ⟨hbefore', hafter'⟩ := List.forall_mem_append.1 h'.outside
  obtain ⟨rfl, hrest⟩ := items_append_cancel word_notMem_blockReserved hbefore hbefore'
    (begins_after conditional n) (begins_after conditional' n') heq
  cases conditional with
  | none =>
    cases conditional' with
    | none =>
      obtain rfl : n = n' := congrArg (fun st => st.head.line) (List.cons.inj hrest).1
      rfl
    | some p' =>
      exact absurd hrest (cons_ne_cons (by decide))
  | some p =>
    cases conditional' with
    | none =>
      exact absurd hrest (cons_ne_cons (by decide))
    | some p' =>
      obtain ⟨cond, after⟩ := p
      obtain ⟨cond', after'⟩ := p'
      have hinside := h.inside
      have hinside' := h'.inside
      simp only [Option.toList_some, List.flatMap_singleton] at hinside hinside' hafter hafter'
      simp only [Option.toList_some, List.flatMap_singleton, List.append_assoc] at hrest
      obtain ⟨rfl, hend⟩ := Conditional.append_cancel hinside hinside' hrest
      obtain ⟨rfl, hn⟩ := items_append_cancel word_notMem_blockReserved hafter hafter'
        (begins_end (by decide) n []) (begins_end (by decide) n' []) hend
      obtain rfl : n = n' := congrArg (fun st => st.head.line) (List.cons.inj hn).1
      rfl

end Composition

end CaskAudit.Definition
