import CaskAudit.Proofs.Source.Statements

/-!
# What a written definition says

`Tells s rows r` says that the rows `rows`, read in the state `s`, give `r`, on whatever line they
begin. The rows of a scope give what its fields declare (`tells_stanzas`), a condition gives its
guard (`tells_condition`), and a conditional the clauses of its branches (`tells_chain`). So a
definition gives the manifest of its outline, `manifest?`, in which neither rows nor tables occur
(`toOption_parse_source`).
-/

namespace CaskAudit

namespace Outline

open Definition Lexeme Statement

/-! ## The manifest of an outline -/

/-- The clause of a condition and fields. -/
def clause? (c : Option String × Fields) : Option Clause :=
  match c.1 with
  | none => (declared c.2.entries).map .fallback
  | some t => (guard? t).bind fun guard => (declared c.2.entries).map (.guarded guard)

/-- What an outline declares outside the clauses, and its clauses. -/
def parts? (o : Outline) : Option (Declarations × List Clause) :=
  (declared o.outerFields.entries).bind fun outer =>
    (o.clauses.mapM clause?).map fun clauses => (outer, clauses)

/-- The manifest of an outline. -/
def manifest? (o : Outline) : Option Manifest :=
  o.parts?.bind fun p => (Manifest.build o.token p.1 p.2).toOption

/-! ## Reading rows -/

/-- What statements say that are read in a state up to the end of the text. -/
def told (last : Nat) (s : Reading) (sts : List Statement) : Option (Declarations × List Clause) :=
  ((readStatements s sts).bind (finish last)).toOption

/-- Statements are read one after the other. -/
lemma told_cons (last : Nat) (s : Reading) (st : Statement) (sts : List Statement) :
    told last s (st :: sts) = (readStatement s st).toOption.bind fun s' => told last s' sts := by
  unfold told
  rw [readStatements]
  cases readStatement s st <;> rfl

/-- Rows that are read in a state give a result, on whatever lines they stand. -/
def Tells (s : Reading) (rows : List Row) (r : Option (Declarations × List Clause)) : Prop :=
  ∀ line last, told last s (Statement.ofLexemes (place line (lexemes rows))) = r

/-- The lexemes of rows on their lines. -/
lemma place_lexemes (line : Nat) (r : Row) (rows : List Row) :
    ∃ ps nl line', place line (lexemes (r :: rows)) =
        ⟨.word r.word, line⟩ :: (ps ++ nl :: place line' (lexemes rows)) ∧
      ps.map Placed.lexeme = r.args ∧ nl.lexeme = .newline := by
  obtain ⟨line', h⟩ := exists_place_append line r.args (.newline :: lexemes rows)
  refine ⟨place line r.args, ⟨.newline, line'⟩, line' + 1, ?_, map_lexeme_place line r.args, rfl⟩
  have hrow : lexemes (r :: rows) = .word r.word :: (r.args ++ .newline :: lexemes rows) := by
    simp [lexemes]
  rw [hrow, place]
  exact congrArg _ h

/-- A row that is complete is read, and then the rows after it. -/
lemma tells_cons {s : Reading} {r : Row} {rows : List Row}
    {res : Option (Declarations × List Clause)} (hnewline : Lexeme.newline ∉ r.args)
    (hdepth : depth r.args ≤ 0) (hcomma : r.args.getLast? ≠ some .comma)
    (h : ∀ line ps, ps.map Placed.lexeme = r.args → ∀ last line',
      ((readStatement s ⟨⟨.word r.word, line⟩, ps⟩).toOption.bind fun s' =>
        told last s' (Statement.ofLexemes (place line' (lexemes rows)))) = res) :
    Tells s (r :: rows) res := by
  intro line last
  obtain ⟨ps, nl, line', hplace, hps, hnl⟩ := place_lexemes line r rows
  have hc : endsWithComma ⟨.word r.word, line⟩ ps.reverse = false := by
    rw [← hps, List.getLast?_map, ← List.head?_reverse] at hcomma
    cases hr : ps.reverse with
    | nil => rfl
    | cons p rs => simpa [endsWithComma, hr] using hcomma
  have hd : bracketChange (.word r.word) + depth (ps.map Placed.lexeme) ≤ 0 := by
    rw [hps]
    simpa [bracketChange] using hdepth
  rw [hplace, ofLexemes_complete (by simp) (by rwa [hps]) hnl hd hc, told_cons]
  exact h line ps hps last line'

/-! ## Scopes -/

section

variable {put : Declarations → Reading} {rows : List Row}
  {k : Declarations → Option (Declarations × List Clause)}

/-- The rows of stanzas give what their fields declare, wherever stanzas may stand. -/
lemma tells_stanzas
    (hput : ∀ d (k : Stanza.Kind) line ps, readStatement (put d) ⟨⟨.word k.word, line⟩, ps⟩ =
      (Stanza.declare ⟨k, line, ps⟩ d).map put)
    {es : List Entry} (hes : (es.map Entry.kind).Nodup) {d : Declarations}
    (hd : ∀ e ∈ es, declares d e.kind = false)
    (h : ∀ d', es.foldl give (some d) = some d' → Tells (put d') rows (k d')) :
    Tells (put d) (es.map .stanza ++ rows) ((es.foldl give (some d)).bind k) := by
  induction es generalizing d with
  | nil => exact h d rfl
  | cons e es ih =>
    have hargs : Lexeme.newline ∉ e.args ∧ depth e.args ≤ 0 ∧ e.args.getLast? ≠ some .comma := by
      cases e <;> simp [Entry.args, depth, bracketChange]
    obtain ⟨hnewline, hdepth, hcomma⟩ := hargs
    obtain ⟨he, hes⟩ := List.nodup_cons.1 hes
    refine tells_cons hnewline hdepth hcomma fun line ps hps last line' => ?_
    have hread := hput d e.kind line ps
    rw [List.foldl_cons, give, Option.bind_some] at h ⊢
    have hword : Row.word (.stanza e) = e.kind.word := rfl
    rw [hword, hread, toOption_map,
      toOption_declare (hd e List.mem_cons_self) hps]
    cases hv : e.value? with
    | none =>
      rw [Option.map_none, foldl_give_none]
      rfl
    | some v =>
      rw [hv] at h
      have hv' : ∀ e' ∈ es, declares (v.put d) e'.kind = false := by
        intro e' he'
        have hk : v.kind ≠ e'.kind := by
          rw [kind_of_value? hv]
          exact fun hk => he (hk ▸ List.mem_map_of_mem he')
        rw [Bool.eq_false_iff, ne_eq, declares_put, or_iff_right hk, Bool.not_eq_true]
        exact hd e' (List.mem_cons_of_mem _ he')
      exact ih hes hv' h line' last

/-- The rows of the stanzas of a scope give what its fields declare, in whatever order they
stand. -/
lemma tells_scope
    (hput : ∀ d (k : Stanza.Kind) line ps, readStatement (put d) ⟨⟨.word k.word, line⟩, ps⟩ =
      (Stanza.declare ⟨k, line, ps⟩ d).map put)
    (h : ∀ d, Tells (put d) rows (k d)) (st : Style) (scope : Nat) (f : Fields) :
    Tells (put .empty) (st.stanzas scope f ++ rows) ((declared f.entries).bind k) := by
  have hperm := st.order_perm scope f
  have hnodup := (hperm.map Entry.kind).nodup_iff.2 (nodup_kinds f)
  rw [declared, ← foldl_give_of_perm hperm]
  refine tells_stanzas hput hnodup (fun e _ => ?_) fun d _ => h d
  cases e <;> rfl

end

/-- The state between two statements of the block, outside a conditional. -/
def inBlock (clauses : Option (List Clause)) (d : Declarations) : Reading :=
  ⟨d, clauses, .block, none⟩

/-- The state between two statements of a branch. -/
def inBranch (outer : Declarations) (line : Nat) (done : List Clause) (condition : Option Guard)
    (d : Declarations) : Reading :=
  ⟨outer, none, .branch ⟨line, done, condition, d⟩, none⟩

/-- A stanza of the block goes to what is declared outside the clauses. -/
lemma readStatement_inBlock (clauses : Option (List Clause)) (d : Declarations) (k : Stanza.Kind)
    (line : Nat) (ps : List Placed) :
    readStatement (inBlock clauses d) ⟨⟨.word k.word, line⟩, ps⟩ =
      (Stanza.declare ⟨k, line, ps⟩ d).map (inBlock clauses) := by
  cases k <;> rfl

/-- A stanza of a branch goes to what the branch declares. -/
lemma readStatement_inBranch (outer : Declarations) (l : Nat) (done : List Clause)
    (condition : Option Guard) (d : Declarations) (k : Stanza.Kind) (line : Nat)
    (ps : List Placed) :
    readStatement (inBranch outer l done condition d) ⟨⟨.word k.word, line⟩, ps⟩ =
      (Stanza.declare ⟨k, line, ps⟩ d).map (inBranch outer l done condition) := by
  cases k <;> rfl

/-! ## Conditionals -/

/-- The row of a condition gives what its guard gives, and nothing if its text is no guard. -/
lemma tells_condition {s : Reading} (r : Row) {text : String} (hr : r.args = guardLexemes text)
    (hg : OneLine text) {put : Nat → Guard → Reading}
    (hread : ∀ line ps, readStatement s ⟨⟨.word r.word, line⟩, ps⟩ =
      (readCondition line ps).map (put line))
    {rows : List Row} (hne : rows ≠ []) {k : Guard → Option (Declarations × List Clause)}
    (h : ∀ line g, Tells (put line g) rows (k g)) : Tells s (r :: rows) ((guard? text).bind k) := by
  intro line last
  obtain ⟨ps, nl, line', hplace, hps, hnl⟩ := place_lexemes line r rows
  rw [hr] at hps
  have hnewline : Lexeme.newline ∉ ps.map Placed.lexeme := by
    rw [hps]
    exact hg.scans.newline_notMem hg.1
  have hh : (⟨.word r.word, line⟩ : Placed).lexeme ≠ .newline := by simp
  rw [hplace]
  by_cases hc : bracketChange (.word r.word) + depth (ps.map Placed.lexeme) ≤ 0 ∧
      endsWithComma ⟨.word r.word, line⟩ ps.reverse = false
  · rw [ofLexemes_complete hh hnewline hnl hc.1 hc.2, told_cons, hread, toOption_map,
      hg.toOption_readCondition line hps]
    cases guard? text with
    | none => rfl
    | some g => exact h line g line' last
  · -- The statement goes on with the next row, of which the first word is refused.
    obtain ⟨r', rows, rfl⟩ := List.exists_cons_of_ne_nil hne
    obtain ⟨qs, nl', line'', hplace', -, -⟩ := place_lexemes line' r' rows
    have hp : (⟨.word r'.word, line'⟩ : Placed).lexeme ≠ .newline := by simp
    obtain ⟨more, sts, hsts⟩ := exists_ofLexemes_incomplete hh hnewline hnl hc hp
      (qs ++ nl' :: place line'' (lexemes rows))
    rw [hplace', hsts, told_cons, hread, toOption_map,
      hg.guard?_eq_none ⟨.word r.word, line⟩ rfl (by simp) hps hc]
    have hrefused :
        (readCondition line (ps ++ ⟨.word r'.word, line'⟩ :: more)).toOption = none := by
      rw [readCondition, if_neg (by simp), toOption_mapError]
      exact Guard.toOption_ofLexemes_append r'.refused_word line line' ps more
    rw [hrefused]
    rfl

/-- The row of a single word is read, and then the rows after it. -/
lemma tells_plain {s : Reading} {r : Row} {rows : List Row}
    {res : Option (Declarations × List Clause)} (put : Nat → Reading) (hr : r.args = [])
    (hread : ∀ line, readStatement s ⟨⟨.word r.word, line⟩, []⟩ = .ok (put line))
    (h : ∀ line, Tells (put line) rows res) : Tells s (r :: rows) res := by
  refine tells_cons (by simp [hr]) (by simp [hr, depth]) (by simp [hr])
    fun line ps hps last line' => ?_
  obtain rfl : ps = [] := by simpa [hr] using hps
  rw [hread, toOption_ok, Option.bind_some]
  exact h line line' last

/-- The clauses of a condition and fields, and of what follows them. -/
lemma mapM_clause?_cons {β : Type} (c : Option String × Fields) (cs : List (Option String × Fields))
    (k : List Clause → Option β) :
    ((c :: cs).mapM clause?).bind k =
      (clause? c).bind fun x => (cs.mapM clause?).bind fun xs => k (x :: xs) := by
  rw [List.mapM_cons]
  cases clause? c with
  | none => rfl
  | some x => cases cs.mapM clause? <;> rfl

/-- The clause of a guard and fields, and the clauses of what follows them. -/
lemma bind_mapM_guarded {β : Type} (t : String) (f : Fields) (cs : List (Option String × Fields))
    (k : List Clause → Option β) :
    (((some t, f) :: cs).mapM clause?).bind k =
      (guard? t).bind fun g => (declared f.entries).bind fun d =>
        (cs.mapM clause?).bind fun xs => k (.guarded g d :: xs) := by
  rw [mapM_clause?_cons, clause?]
  dsimp only
  cases guard? t with
  | none => rfl
  | some g => cases declared f.entries <;> rfl

section

variable {outer : Declarations} {rows : List Row}
  {k : List Clause → Option (Declarations × List Clause)}
  (h : ∀ clauses, Tells (inBlock (some clauses) outer) rows (k clauses))

include h

/-- The last branch gives its clause, and then the fields for all other hosts give theirs, if there
are any. -/
lemma tells_otherwise (st : Style) (scope line : Nat) (f : Option Fields) (done : List Clause)
    (g : Guard) (d : Declarations) :
    Tells (inBranch outer line done (some g) d) (st.otherwise scope f ++ .endRow :: rows)
      (((f.toList.map fun f => (none, f)).mapM clause?).bind fun clauses =>
        k ((Clause.guarded g d :: done).reverse ++ clauses)) := by
  cases f with
  | none =>
    have hres : ((((none : Option Fields).toList.map fun f => (none, f)).mapM clause?).bind
        fun clauses => k ((Clause.guarded g d :: done).reverse ++ clauses)) =
        k (Clause.guarded g d :: done).reverse :=
      congrArg k (List.append_nil _)
    rw [hres]
    exact tells_plain (fun _ => inBlock (some (Clause.guarded g d :: done).reverse) outer) rfl
      (fun _ => rfl) fun _ => h _
  | some f =>
    have hres : ((((some f).toList.map fun f => (none, f)).mapM clause?).bind
        fun clauses => k ((Clause.guarded g d :: done).reverse ++ clauses)) =
        (declared f.entries).bind fun d' =>
          k (Clause.fallback d' :: Clause.guarded g d :: done).reverse := by
      rw [Option.toList_some, List.map_singleton, mapM_clause?_cons, clause?]
      cases declared f.entries with
      | none => rfl
      | some d' => exact congrArg k (by simp)
    rw [hres]
    refine tells_plain (fun _ => inBranch outer line (Clause.guarded g d :: done) none .empty) rfl
      (fun _ => rfl) fun _ => ?_
    refine tells_scope (readStatement_inBranch outer line _ none) (fun d' => ?_) st scope f
    exact tells_plain
      (fun _ => inBlock (some (Clause.fallback d' :: Clause.guarded g d :: done).reverse) outer) rfl
      (fun _ => rfl) fun _ => h _

/-- Branches give their clauses one after the other. -/
lemma tells_branches (st : Style) (scope scope' : Nat) {bs : List Branch}
    (hbs : ∀ b ∈ bs, OneLine b.guard) (f : Option Fields) (line : Nat) (done : List Clause)
    (g : Guard) (d : Declarations) :
    Tells (inBranch outer line done (some g) d)
      (st.branches scope bs ++ (st.otherwise scope' f ++ .endRow :: rows))
      (((bs.map (fun b : Branch => (some b.guard, b.fields)) ++
        f.toList.map fun f => (none, f)).mapM clause?).bind fun clauses =>
          k ((Clause.guarded g d :: done).reverse ++ clauses)) := by
  induction bs generalizing scope line done g d with
  | nil => exact tells_otherwise h st scope' line f done g d
  | cons b bs ih =>
    have hread : ∀ l ps, readStatement (inBranch outer line done (some g) d)
        ⟨⟨.word "elsif", l⟩, ps⟩ = (readCondition l ps).map fun g' =>
          inBranch outer line (Clause.guarded g d :: done) (some g') .empty := by
      intro l ps
      change (readCondition l ps).bind _ = _
      cases readCondition l ps <;> rfl
    have hnext := fun (l : Nat) (g' : Guard) =>
      tells_scope (readStatement_inBranch outer line (Clause.guarded g d :: done) (some g'))
        (fun d' => ih (scope + 1) (fun b' hb' => hbs b' (List.mem_cons_of_mem _ hb')) line
          (Clause.guarded g d :: done) g' d') st scope b.fields
    have hcondition := tells_condition (.elsifGuard b.guard) rfl (hbs b List.mem_cons_self) hread
      (by simp) hnext
    rw [List.map_cons, List.cons_append, bind_mapM_guarded, Style.branches, List.cons_append,
      List.append_assoc]
    simpa only [List.reverse_cons, List.append_assoc, List.cons_append, List.nil_append] using
      hcondition

/-- A conditional gives the clauses of its branches. -/
lemma tells_chain (st : Style) {c : Chain} (hc : ∀ b ∈ c.first :: c.others, OneLine b.guard) :
    Tells (inBlock none outer) (st.chain c ++ rows) ((c.clauses.mapM clause?).bind k) := by
  have hread : ∀ l ps, readStatement (inBlock none outer) ⟨⟨.word "if", l⟩, ps⟩ =
      (readCondition l ps).map fun g => inBranch outer l [] (some g) .empty := by
    intro l ps
    change (readCondition l ps).bind _ = _
    cases readCondition l ps <;> rfl
  have hnext := fun (l : Nat) (g : Guard) =>
    tells_scope (readStatement_inBranch outer l [] (some g))
      (fun d => tells_branches h st 2 (2 + c.others.length)
        (fun b hb => hc b (List.mem_cons_of_mem _ hb)) c.otherwise l [] g d) st 1 c.first.fields
  have hcondition := tells_condition (.ifGuard c.first.guard) rfl (hc c.first List.mem_cons_self)
    hread (by simp) hnext
  have hrows : st.chain c ++ rows = .ifGuard c.first.guard :: (st.stanzas 1 c.first.fields ++
      (st.branches 2 c.others ++ (st.otherwise (2 + c.others.length) c.otherwise ++
        .endRow :: rows))) := by
    simp only [Style.chain, List.cons_append, List.append_assoc, List.nil_append]
  rw [Chain.clauses, List.map_cons, List.cons_append, bind_mapM_guarded, hrows]
  exact hcondition

end

/-! ## Definitions -/

/-- The end of the block gives what has been said. -/
lemma tells_end (clauses : Option (List Clause)) (d : Declarations) :
    Tells (inBlock clauses d) [.endRow]
      (some (match clauses with
        | some cs => (d, cs)
        | none => (d.descriptiveFields, [.fallback d.releaseFields]))) := by
  refine tells_plain (fun _ => { inBlock clauses d with place := .afterBlock }) rfl
    (fun _ => rfl) fun _ line last => ?_
  cases clauses <;> rfl

/-- Without a conditional, the fields of the block are split between the outer scope and a single
clause. -/
lemma tells_rows_of_none (f : Fields) (st : Style) :
    Tells .start (st.stanzas 0 f ++ [.endRow])
      ((declared f.descriptiveFields.entries).bind fun outer =>
        (declared f.releaseFields.entries).map fun body => (outer, [.fallback body])) := by
  have hscope := tells_scope (readStatement_inBlock none) (tells_end none) st 0 f
  have hres : ((declared f.descriptiveFields.entries).bind fun outer =>
      (declared f.releaseFields.entries).map fun body => (outer, [Clause.fallback body])) =
      (declared f.entries).bind fun d =>
        some (d.descriptiveFields, [Clause.fallback d.releaseFields]) := by
    have hsplit := congrArg (Option.map fun p => (p.1, [Clause.fallback p.2])) (declared_split f)
    simpa only [Option.map_eq_bind, Option.bind_assoc, Function.comp_def, Option.bind_some] using
      hsplit.symm
  rw [hres]
  exact hscope

/-- The clauses of a conditional do not depend on where it stands among the stanzas. -/
lemma tells_rows_of_some (f : Fields) {c : Chain} (st : Style)
    (hc : ∀ b ∈ c.first :: c.others, OneLine b.guard) :
    Tells .start ((st.stanzas 0 f).take st.before ++
        (st.chain c ++ ((st.stanzas 0 f).drop st.before ++ [.endRow])))
      ((declared f.entries).bind fun outer =>
        (c.clauses.mapM clause?).map fun clauses => (outer, clauses)) := by
  have hperm := st.order_perm 0 f
  have hnodup : ((st.order 0 f).map Entry.kind).Nodup :=
    (hperm.map Entry.kind).nodup_iff.2 (nodup_kinds f)
  have hsplit := List.take_append_drop st.before (st.order 0 f)
  rw [Style.stanzas, ← List.map_take, ← List.map_drop, declared, ← foldl_give_of_perm hperm]
  generalize (st.order 0 f).take st.before = es at hsplit ⊢
  generalize (st.order 0 f).drop st.before = es' at hsplit ⊢
  rw [← hsplit, List.map_append, List.nodup_append] at hnodup
  obtain ⟨hes, hes', hdisjoint⟩ := hnodup
  -- The stanzas after the conditional find nothing of their kinds in what those before it declare.
  have hlater : ∀ d, es.foldl give (some .empty) = some d → ∀ clauses,
      Tells (inBlock (some clauses) d) (es'.map .stanza ++ [.endRow])
        ((es'.foldl give (some d)).bind fun d' => some (d', clauses)) := by
    intro d hd clauses
    refine tells_stanzas (readStatement_inBlock (some clauses)) hes' (fun e he => ?_)
      fun d' _ => tells_end (some clauses) d'
    have hk : e.kind ∉ es.map Entry.kind := fun hk =>
      hdisjoint e.kind hk e.kind (List.mem_map_of_mem he) rfl
    rw [Bool.eq_false_iff, ne_eq, declares_of_foldl_give hd, or_iff_right hk]
    cases e <;> exact Bool.false_ne_true
  have hall := tells_stanzas (readStatement_inBlock none) hes (d := .empty)
    (fun e _ => by cases e <;> rfl) fun d hd => tells_chain (hlater d hd) st hc
  have hres : ((es.foldl give (some .empty)).bind fun d =>
      (c.clauses.mapM clause?).bind fun clauses =>
        (es'.foldl give (some d)).bind fun d' => some (d', clauses)) =
      ((st.order 0 f).foldl give (some .empty)).bind fun outer =>
        (c.clauses.mapM clause?).map fun clauses => (outer, clauses) := by
    rw [← hsplit, List.foldl_append]
    cases es.foldl give (some .empty) with
    | none =>
      rw [foldl_give_none]
      rfl
    | some d =>
      cases c.clauses.mapM clause? with
      | none => cases es'.foldl give (some d) <;> rfl
      | some clauses => rfl
  rw [← hres]
  exact hall

/-- The rows of an outline after the first give what it declares and its clauses. -/
lemma tells_rows {o : Outline} (h : o.Legible) (st : Style) :
    Tells .start ((st.stanzas 0 o.fields).take st.before ++
      ((o.chain.map st.chain).getD [] ++ ((st.stanzas 0 o.fields).drop st.before ++ [.endRow])))
      o.parts? := by
  cases hchain : o.chain with
  | none =>
    have hnone := tells_rows_of_none o.fields st
    have hparts : o.parts? = (declared o.fields.descriptiveFields.entries).bind fun outer =>
        (declared o.fields.releaseFields.entries).map fun body =>
          (outer, [Clause.fallback body]) := by
      have hone : [((none : Option String), o.fields.releaseFields)].mapM clause? =
          (declared o.fields.releaseFields.entries).map fun body => [Clause.fallback body] := by
        rw [List.mapM_cons, List.mapM_nil, clause?]
        cases declared o.fields.releaseFields.entries <;> rfl
      rw [parts?, outerFields, clauses, hchain]
      simp only [hone, Option.map_map]
      rfl
    rw [hparts]
    simpa [← List.append_assoc] using hnone
  | some c =>
    have hparts : o.parts? = (declared o.fields.entries).bind fun outer =>
        (c.clauses.mapM clause?).map fun clauses => (outer, clauses) := by
      rw [parts?, outerFields, clauses, hchain]
    rw [hparts]
    exact tells_rows_of_some o.fields st (h.branches hchain)

/-- The first row gives the token, and leaves the rows after it. -/
lemma readOpening_place (token : String) (rows : List Row) :
    ∃ line, readOpening (place 1 (lexemes (.opening token :: rows))) =
      .ok (token, place line (lexemes rows)) := by
  obtain ⟨ps, nl, line, hplace, hps, hnl⟩ := place_lexemes 1 (.opening token) rows
  obtain ⟨⟨l, n⟩, qs, rfl, rfl, hqs⟩ := List.map_eq_cons_iff.1 hps
  obtain ⟨p, rs, rfl, hp, hrs⟩ := List.map_eq_cons_iff.1 hqs
  obtain rfl : rs = [] := by simpa using hrs
  refine ⟨line, ?_⟩
  rw [hplace]
  simp [readOpening, expectWord, expectToken, expectLineEnd, isWord, hp, hnl, Row.word, bind,
    Except.bind, pure, Except.pure]

/-- A definition gives the manifest that is built of what its statements say. -/
lemma toOption_parse {src token : String} {ps body : List Placed} (hs : scan src = .ok ps)
    (ho : readOpening ps = .ok (token, body)) :
    (Definition.parse src).toOption =
      (told (lastLine ps) .start (Statement.ofLexemes body)).bind fun p =>
        (Manifest.build token p.1 p.2).toOption := by
  simp only [told, Definition.parse, hs, ho, bind, toOption_bind, toOption_mapError, toOption_ok,
    Option.bind_some, Option.bind_assoc]

/-- A written definition gives the manifest of its outline. -/
theorem toOption_parse_source {o : Outline} (h : o.Legible) (st : Style) :
    (Definition.parse (o.source st)).toOption = o.manifest? := by
  have hscan : scan (o.source st) = .ok (place 1 (lexemes (st.rows o))) :=
    (scans_source h st).scanFrom_eq 1
  obtain ⟨line, hopening⟩ := readOpening_place o.token ((st.stanzas 0 o.fields).take st.before ++
    ((o.chain.map st.chain).getD [] ++ ((st.stanzas 0 o.fields).drop st.before ++ [.endRow])))
  rw [toOption_parse hscan hopening, tells_rows h st, manifest?]

end Outline

end CaskAudit
