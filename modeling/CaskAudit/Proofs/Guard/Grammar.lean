import CaskAudit.Guard.Reader
import CaskAudit.Proofs.Lexeme.Scans
import Mathlib.Control.Monad.Basic

/-!
# The grammar of guards

`Derives ls p` says that the lexemes `ls` form the phrase `p`:

    or      := and ('||' and)*
    and     := unary ('&&' unary)*
    unary   := '!' unary | primary
    primary := '(' or ')' | release comparison (symbol, string or number) | capability

A chain of several operands is a junction of them in their order, a single operand is itself. The
grammar knows nothing of the reader, which goes once over the lexemes and keeps a stack of levels.

The main statement is `ofLexemes_eq_ok_iff_derives`: on the lexemes of a text the reader accepts
what the grammar derives and nothing else, and gives the derived guard. One direction reads a
derivation (`Derives.reads`), the other is an invariant of the reader: `Reading.Explains` says what
the lexemes read so far are in terms of the grammar, `Reading.Explains.readNext` that each lexeme
keeps it.
-/

namespace CaskAudit.Guard

open CaskAudit (Lexeme Placed)

/-! ## Phrases and derivations -/

/-- The two connectives that join operands. -/
inductive Connective where
  | or | and
  deriving DecidableEq, Repr

namespace Connective

/-- The operator that stands between the operands. -/
def operator : Connective → Operator
  | or => .or
  | and => .and

/-- The guard that joins several operands. -/
def combine : Connective → List Guard → Guard
  | or => .any
  | and => .all

end Connective

/-- What lexemes may form: the operands of a connective, a junction by a connective, an operand
that may be negated, and an operand that is not. -/
inductive Phrase where
  | operands (k : Connective) (gs : List Guard)
  | junction (k : Connective) (g : Guard)
  | unary (g : Guard)
  | primary (g : Guard)

/-- An operand of a connective: conjunctions are the operands of disjunctions. -/
def Connective.operand : Connective → Guard → Phrase
  | or, g => .junction .and g
  | and, g => .unary g

/-- A path asks for a capability, with or without the question mark. -/
def Asks (path : String) (c : Capability) : Prop := path = c.term ∨ path ++ "?" = c.term

/-- A lexeme names a release: a symbol by its name, a version number that is known by the name of
its release, and any other string or number by itself. -/
inductive Names : Lexeme → String → Prop
  | symbol {name : String} : Names (.symbol name) name
  | knownText {s : String} {r : Release} (h : Release.ofVersion? s = some r) :
      Names (.text s) r.name
  | unknownText {s : String} (h : Release.ofVersion? s = none) : Names (.text s) s
  | knownNumber {s : String} {r : Release} (h : Release.ofVersion? s = some r) :
      Names (.number s) r.name
  | unknownNumber {s : String} (h : Release.ofVersion? s = none) : Names (.number s) s

/-- Lexemes form a phrase. -/
inductive Derives : List Lexeme → Phrase → Prop
  | last {k : Connective} {ls : List Lexeme} {g : Guard} (h : Derives ls (k.operand g)) :
      Derives ls (.operands k [g])
  | more {k : Connective} {ls ms : List Lexeme} {g : Guard} {gs : List Guard}
      (h : Derives ls (k.operand g)) (hs : Derives ms (.operands k gs)) :
      Derives (ls ++ .operator k.operator :: ms) (.operands k (g :: gs))
  | single {k : Connective} {ls : List Lexeme} {g : Guard} (h : Derives ls (.operands k [g])) :
      Derives ls (.junction k g)
  | several {k : Connective} {ls : List Lexeme} {gs : List Guard} (hl : 2 ≤ gs.length)
      (h : Derives ls (.operands k gs)) : Derives ls (.junction k (k.combine gs))
  | not {ls : List Lexeme} {g : Guard} (h : Derives ls (.unary g)) :
      Derives (.operator .not :: ls) (.unary (.not g))
  | plain {ls : List Lexeme} {g : Guard} (h : Derives ls (.primary g)) : Derives ls (.unary g)
  | parentheses {ls : List Lexeme} {g : Guard} (h : Derives ls (.junction .or g)) :
      Derives (.openParen :: (ls ++ [.closeParen])) (.primary g)
  | release {path name : String} {o : Operator} {op : Comparison} {l : Lexeme}
      (hp : path = "MacOS.release" ∨ path = "MacOS.version") (ho : o.symbol = op.symbol)
      (hn : Names l name) : Derives [.word path, .operator o, l] (.primary (.ofComparison op name))
  | capability {path : String} {c : Capability} (h : Asks path c) :
      Derives [.word path] (.primary (.capability c))

/-! ## Operands one after the other -/

/-- Operands are never missing. -/
lemma Derives.operands_ne_nil {k : Connective} {ls : List Lexeme} {gs : List Guard}
    (h : Derives ls (.operands k gs)) : gs ≠ [] := by
  cases h <;> simp

/-- Operands may be followed by one more. -/
lemma Derives.snoc {k : Connective} {ls ms : List Lexeme} {gs : List Guard} {g : Guard}
    (h : Derives ls (.operands k gs)) (hg : Derives ms (k.operand g)) :
    Derives (ls ++ .operator k.operator :: ms) (.operands k (gs ++ [g])) := by
  generalize hp : Phrase.operands k gs = p at h
  induction h generalizing gs with
  | last h =>
    obtain ⟨rfl, rfl⟩ : _ = k ∧ [_] = gs := by simpa [eq_comm] using hp
    exact .more h (.last hg)
  | @more k' ls' ms' g' gs' h hs ih₁ ih =>
    obtain ⟨rfl, rfl⟩ : k = k' ∧ gs = g' :: gs' := by simpa using hp
    rw [List.append_assoc, List.cons_append]
    exact .more h (ih rfl)
  | _ => simp at hp

/-- The junction of operands is their combination, or the only operand itself. -/
lemma Derives.junction {k : Connective} {ls : List Lexeme} {gs : List Guard}
    (h : Derives ls (.operands k gs)) : Derives ls (.junction k (junction k.combine gs)) := by
  match gs, h with
  | [], h => exact absurd rfl h.operands_ne_nil
  | [g], h => exact .single h
  | g :: g' :: gs', h => exact .several (by simp) h

/-- An operand under negations is one that may be negated. -/
lemma Derives.negate {ls : List Lexeme} {g : Guard} (h : Derives ls (.primary g)) (n : Nat) :
    Derives (List.replicate n (.operator .not) ++ ls) (.unary (negate n g)) := by
  induction n with
  | zero => exact .plain h
  | succ n ih => exact .not ih

/-! ## Reading what a phrase derives -/

/-- Reading goes on from lexeme to lexeme. -/
lemma readAll_cons (s : Reading) (p : Placed) (ps : List Placed) :
    readAll s (p :: ps) = (readNext s p).bind (readAll · ps) := by
  rw [readAll]
  cases readNext s p <;> rfl

/-- Negations are taken one after the other, in any order. -/
lemma negate_not (n : Nat) (g : Guard) : negate n (.not g) = negate (n + 1) g := by
  induction n with
  | zero => rfl
  | succ n ih => exact congrArg Guard.not ih

/-- The end of a path that asks for a capability is a question for it. -/
lemma Asks.ofMethod?_eq {path : String} {c : Capability} (h : Asks path c) :
    ∃ method, path.toList = processorPath ++ method ∧
      Capability.ofMethod? (String.ofList method) = some c := by
  rcases h with rfl | h
  · refine ⟨c.method.toList, by rw [Capability.term, String.toList_append]; rfl, ?_⟩
    cases c <;> decide
  · refine ⟨c.method.toList.dropLast, ?_, by cases c <;> decide⟩
    have hl : path.toList ++ ['?'] = processorPath ++ c.method.toList.dropLast ++ ['?'] := by
      have hterm : path.toList ++ "?".toList = c.term.toList := by
        rw [← String.toList_append, h]
      have hmark : "?".toList = ['?'] := by decide
      rw [← hmark, hterm]
      cases c <;> decide
    exact List.append_cancel_right hl

/-- A question mark at the end of a text is dropped. -/
lemma dropMarks_eq {body method : List Char} (hb : '?' ∉ body)
    (hm : method = body ∨ method = body ++ ['?']) :
    (method.reverse.dropWhile (· = '?')).reverse = body := by
  have key : body.reverse.dropWhile (· = '?') = body.reverse := by
    cases hr : body.reverse with
    | nil => rfl
    | cons c cs =>
      have hc : c ∈ body := List.mem_reverse.1 (hr ▸ List.mem_cons_self)
      have hne : c ≠ '?' := fun h => hb (h ▸ hc)
      simp [hne]
  rcases hm with rfl | rfl
  · rw [key, List.reverse_reverse]
  · rw [List.reverse_append, List.reverse_singleton, List.singleton_append,
      List.dropWhile_cons_of_pos (by simp), key, List.reverse_reverse]

/-- The capability that a text without question marks asks for has the text and a question mark as
its method. -/
lemma method_eq_of_ofMethod? {body method : List Char} {c : Capability} (hb : '?' ∉ body)
    (hm : method = body ∨ method = body ++ ['?'])
    (hc : Capability.ofMethod? (String.ofList method) = some c) :
    body ++ ['?'] = c.method.toList := by
  unfold Capability.ofMethod? at hc
  rw [String.toList_ofList, dropMarks_eq hb hm] at hc
  have key : ∀ s : String, String.ofList body = s → body = s.toList := by
    rintro s rfl
    exact String.toList_ofList.symm
  split at hc
  · next h => rw [key _ h, ← Option.some.inj hc]; decide
  · next h => rw [key _ h, ← Option.some.inj hc]; decide
  · next h => rw [key _ h, ← Option.some.inj hc]; decide
  · next h => rw [key _ h, ← Option.some.inj hc]; decide
  · next h => rw [key _ h, ← Option.some.inj hc]; decide
  · simp at hc

/-- A path that ends with a question for a capability asks for it, when a question mark stands
nowhere in it but at its end. -/
lemma asks_of_ofMethod? {path : String} {method : List Char} {c : Capability}
    (he : Lexeme.EndsOnce path) (hp : path.toList = processorPath ++ method)
    (hc : Capability.ofMethod? (String.ofList method) = some c) : Asks path c := by
  have hterm : c.term.toList = processorPath ++ c.method.toList := by
    rw [Capability.term, String.toList_append]
    rfl
  obtain ⟨body, hb, hbody⟩ := he
  obtain ⟨rest, rfl, hm⟩ : ∃ rest, body = processorPath ++ rest ∧
      (method = rest ∨ method = rest ++ ['?']) := by
    rcases hbody with h | h
    · exact ⟨method, h.symm.trans hp, .inl rfl⟩
    · rcases List.append_eq_append_iff.1 (h.symm.trans hp) with ⟨rest, hr, ht⟩ | ⟨rest, hr, ht⟩
      · cases rest with
        | nil => exact ⟨[], by rw [hr]; simp, .inr (by simpa using ht.symm)⟩
        | cons d ds =>
          obtain ⟨rfl, -⟩ : '?' = d ∧ [] = ds ++ method := by simpa using ht
          exact absurd (hr ▸ by simp : '?' ∈ processorPath) (by decide)
      · exact ⟨rest, hr, .inr ht⟩
  have hrest : '?' ∉ rest := fun h => hb (List.mem_append_right _ h)
  have hmethod := method_eq_of_ofMethod? hrest hm hc
  rcases hbody with h | h
  · right
    rw [← String.toList_inj, String.toList_append, h, hterm, ← hmethod, List.append_assoc]
    rfl
  · left
    rw [← String.toList_inj, h, hterm, ← hmethod, List.append_assoc]

/-- Whatever waits around a phrase, the reader takes the lexemes of the phrase and is left with the
phrase at the end of what it has read. -/
def Phrase.Reads (ps : List Placed) : Phrase → Prop
  | .operands .or gs => ∀ ds w, ∃ l, l.negations = 0 ∧
      l.endConjunction.disjuncts = gs.reverse ++ ds ∧
      ∀ rest, readAll ⟨⟨ds, [], 0⟩, w, .operand⟩ (ps ++ rest) = readAll ⟨l, w, .connective⟩ rest
  | .operands .and gs => ∀ ds cs w rest,
      readAll ⟨⟨ds, cs, 0⟩, w, .operand⟩ (ps ++ rest) =
        readAll ⟨⟨ds, gs.reverse ++ cs, 0⟩, w, .connective⟩ rest
  | .junction .or g => ∀ w, ∃ l, l.guard = g ∧
      ∀ rest, readAll ⟨.empty, w, .operand⟩ (ps ++ rest) = readAll ⟨l, w, .connective⟩ rest
  | .junction .and g => ∀ ds w, ∃ cs, Guard.junction .all cs.reverse = g ∧
      ∀ rest, readAll ⟨⟨ds, [], 0⟩, w, .operand⟩ (ps ++ rest) =
        readAll ⟨⟨ds, cs, 0⟩, w, .connective⟩ rest
  | .unary g => ∀ l w rest,
      readAll ⟨l, w, .operand⟩ (ps ++ rest) = readAll ⟨l.push g, w, .connective⟩ rest
  | .primary g => ∀ l w rest,
      readAll ⟨l, w, .operand⟩ (ps ++ rest) = readAll ⟨l.push g, w, .connective⟩ rest

/-- The lexemes of a chain are those of its first operand, the operator and those of the others. -/
lemma exists_of_map_eq_append_cons {ls ms : List Lexeme} {l : Lexeme} {ps : List Placed}
    (h : ps.map Placed.lexeme = ls ++ l :: ms) :
    ∃ qs q rs, ps = qs ++ q :: rs ∧ qs.map Placed.lexeme = ls ∧ q.lexeme = l ∧
      rs.map Placed.lexeme = ms := by
  obtain ⟨qs, ts, rfl, hq, ht⟩ := List.map_eq_append_iff.1 h
  obtain ⟨q, rs, rfl, hql, hr⟩ := List.map_eq_cons_iff.1 ht
  exact ⟨qs, q, rs, rfl, hq, hql, hr⟩

/-- The operator of a comparison is read as it. -/
lemma comparison?_eq_some_iff {l : Lexeme} {op : Comparison} :
    comparison? l = some op ↔ ∃ o, l = .operator o ∧ o.symbol = op.symbol := by
  constructor
  · intro h
    cases l with
    | operator o =>
      refine ⟨o, rfl, ?_⟩
      cases o <;> cases op <;> revert h <;> decide
    | _ => simp [comparison?] at h
  · rintro ⟨o, rfl, ho⟩
    cases o <;> cases op <;> revert ho <;> decide

/-- The release that a lexeme names is read from it. -/
lemma releaseName?_eq_some_iff {l : Lexeme} {name : String} :
    releaseName? l = some name ↔ Names l name := by
  constructor
  · intro h
    cases l with
    | symbol n =>
      obtain rfl : n = name := by simpa [releaseName?] using h
      exact .symbol
    | text s =>
      cases hr : Release.ofVersion? s with
      | none =>
        obtain rfl : s = name := by simpa [releaseName?, hr] using h
        exact .unknownText hr
      | some r =>
        obtain rfl : r.name = name := by simpa [releaseName?, hr] using h
        exact .knownText hr
    | number s =>
      cases hr : Release.ofVersion? s with
      | none =>
        obtain rfl : s = name := by simpa [releaseName?, hr] using h
        exact .unknownNumber hr
      | some r =>
        obtain rfl : r.name = name := by simpa [releaseName?, hr] using h
        exact .knownNumber hr
    | _ => simp [releaseName?] at h
  · intro h
    cases h <;> simp_all [releaseName?]

/-- A path that stands for the release of the host is read as one. -/
lemma isReleasePath_iff {path : String} :
    isReleasePath path = true ↔ path = "MacOS.release" ∨ path = "MacOS.version" := by
  simp [isReleasePath]

/-- A path that asks for a capability stands for no release. -/
lemma Asks.not_isReleasePath {path : String} {c : Capability} (h : Asks path c) :
    isReleasePath path = false := by
  obtain ⟨method, hp, -⟩ := h.ofMethod?_eq
  have hhead : path.toList.head? = some 'H' := by
    rw [hp]
    rfl
  rw [Bool.eq_false_iff, Ne, isReleasePath_iff]
  rintro (rfl | rfl) <;> exact absurd hhead (by decide)

/-- Reading goes on after a lexeme that is taken. -/
lemma readAll_of_readNext {s s' : Reading} {p : Placed} (h : readNext s p = .ok s')
    (ps : List Placed) : readAll s (p :: ps) = readAll s' ps := by
  rw [readAll_cons, h]
  rfl

section Reads

variable {k : Connective} {g : Guard} {gs : List Guard} {ps qs : List Placed} {p q : Placed}

/-- An operand is read as the only one of a chain. -/
lemma Phrase.Reads.last (h : (k.operand g).Reads ps) : (Phrase.operands k [g]).Reads ps := by
  cases k with
  | or =>
    intro ds w
    obtain ⟨cs, rfl, hread⟩ := h ds w
    exact ⟨⟨ds, cs, 0⟩, rfl, rfl, hread⟩
  | and =>
    intro ds cs w rest
    exact h ⟨ds, cs, 0⟩ w rest

/-- An operand, an operator and the operands of a chain are read as one chain. -/
lemma Phrase.Reads.more (h : (k.operand g).Reads ps) (hq : q.lexeme = .operator k.operator)
    (hs : (Phrase.operands k gs).Reads qs) :
    (Phrase.operands k (g :: gs)).Reads (ps ++ q :: qs) := by
  cases k with
  | or =>
    intro ds w
    obtain ⟨cs, rfl, hfirst⟩ := h ds w
    obtain ⟨l, hl, hds, hothers⟩ := hs (Guard.junction .all cs.reverse :: ds) w
    have hor : readNext ⟨⟨ds, cs, 0⟩, w, .connective⟩ q =
        .ok ⟨⟨Guard.junction .all cs.reverse :: ds, [], 0⟩, w, .operand⟩ := by
      simp only [readNext, readConnective, hq, Connective.operator, Level.endConjunction]
    refine ⟨l, hl, by rw [hds]; simp, fun rest => ?_⟩
    rw [List.append_assoc, List.cons_append]
    calc readAll ⟨⟨ds, [], 0⟩, w, .operand⟩ (ps ++ q :: (qs ++ rest))
        = readAll ⟨⟨ds, cs, 0⟩, w, .connective⟩ (q :: (qs ++ rest)) := hfirst _
      _ = readAll ⟨⟨Guard.junction .all cs.reverse :: ds, [], 0⟩, w, .operand⟩ (qs ++ rest) :=
        readAll_of_readNext hor _
      _ = readAll ⟨l, w, .connective⟩ rest := hothers rest
  | and =>
    intro ds cs w rest
    have hand : readNext ⟨⟨ds, g :: cs, 0⟩, w, .connective⟩ q =
        .ok ⟨⟨ds, g :: cs, 0⟩, w, .operand⟩ := by
      simp only [readNext, readConnective, hq, Connective.operator]
    rw [List.append_assoc, List.cons_append, List.reverse_cons, List.append_assoc,
      List.singleton_append]
    calc readAll ⟨⟨ds, cs, 0⟩, w, .operand⟩ (ps ++ q :: (qs ++ rest))
        = readAll ⟨⟨ds, g :: cs, 0⟩, w, .connective⟩ (q :: (qs ++ rest)) := h ⟨ds, cs, 0⟩ w _
      _ = readAll ⟨⟨ds, g :: cs, 0⟩, w, .operand⟩ (qs ++ rest) := readAll_of_readNext hand _
      _ = readAll ⟨⟨ds, gs.reverse ++ g :: cs, 0⟩, w, .connective⟩ rest := hs ds (g :: cs) w rest

/-- A chain is read as the junction of its operands. -/
lemma Phrase.Reads.junction (h : (Phrase.operands k gs).Reads ps) :
    (Phrase.junction k (Guard.junction k.combine gs)).Reads ps := by
  cases k with
  | or =>
    intro w
    obtain ⟨l, -, hds, hread⟩ := h [] w
    refine ⟨l, ?_, hread⟩
    rw [Level.guard, hds, List.append_nil, List.reverse_reverse]
    rfl
  | and =>
    intro ds w
    refine ⟨gs.reverse ++ [], ?_, fun rest => h ds [] w rest⟩
    rw [List.append_nil, List.reverse_reverse]
    rfl

/-- A negation is taken into the level until its operand comes. -/
lemma Phrase.Reads.not (hp : p.lexeme = .operator .not) (h : (Phrase.unary g).Reads ps) :
    (Phrase.unary (.not g)).Reads (p :: ps) := by
  intro l w rest
  have hnot : readNext ⟨l, w, .operand⟩ p =
      .ok ⟨{ l with negations := l.negations + 1 }, w, .operand⟩ := by
    simp only [readNext, readOperand, hp]
  have hpush : Level.push { l with negations := l.negations + 1 } g = l.push (.not g) := by
    rw [Level.push, Level.push, negate_not]
  rw [List.cons_append, readAll_of_readNext hnot, h, hpush]

/-- What stands in parentheses is read as an operand of the level around them. -/
lemma Phrase.Reads.parentheses (hp : p.lexeme = .openParen) (h : (Phrase.junction .or g).Reads ps)
    (hq : q.lexeme = .closeParen) : (Phrase.primary g).Reads (p :: (ps ++ [q])) := by
  intro l w rest
  obtain ⟨inner, rfl, hread⟩ := h (l :: w)
  have hopen : readNext ⟨l, w, .operand⟩ p = .ok ⟨.empty, l :: w, .operand⟩ := by
    simp only [readNext, readOperand, hp]
  have hclose : readNext ⟨inner, l :: w, .connective⟩ q =
      .ok ⟨l.push inner.guard, w, .connective⟩ := by
    simp only [readNext, readConnective, hq]
  rw [List.cons_append, List.append_assoc, List.singleton_append]
  calc readAll ⟨l, w, .operand⟩ (p :: (ps ++ q :: rest))
      = readAll ⟨.empty, l :: w, .operand⟩ (ps ++ q :: rest) := readAll_of_readNext hopen _
    _ = readAll ⟨inner, l :: w, .connective⟩ (q :: rest) := hread _
    _ = readAll ⟨l.push inner.guard, w, .connective⟩ rest := readAll_of_readNext hclose _

/-- A comparison with a release is read over its three lexemes. -/
lemma reads_release {path name : String} {o : Operator} {op : Comparison} {r : Placed}
    (hpath : path = "MacOS.release" ∨ path = "MacOS.version") (ho : o.symbol = op.symbol)
    (hname : Names r.lexeme name) (hp : p.lexeme = .word path) (hq : q.lexeme = .operator o) :
    (Phrase.primary (.ofComparison op name)).Reads [p, q, r] := by
  intro l w rest
  have hterm : readNext ⟨l, w, .operand⟩ p = .ok ⟨l, w, .comparison p.line⟩ := by
    simp only [readNext, readOperand, hp, readTerm, isReleasePath_iff.2 hpath, if_true]
  have hcomparison : readNext ⟨l, w, .comparison p.line⟩ q = .ok ⟨l, w, .release p.line op⟩ := by
    simp only [readNext, comparison?_eq_some_iff.2 ⟨o, hq, ho⟩]
  have hrelease : readNext ⟨l, w, .release p.line op⟩ r =
      .ok ⟨l.push (.ofComparison op name), w, .connective⟩ := by
    simp only [readNext, releaseName?_eq_some_iff.2 hname, Reading.push]
  calc readAll ⟨l, w, .operand⟩ (p :: q :: r :: rest)
      = readAll ⟨l, w, .comparison p.line⟩ (q :: r :: rest) := readAll_of_readNext hterm _
    _ = readAll ⟨l, w, .release p.line op⟩ (r :: rest) := readAll_of_readNext hcomparison _
    _ = readAll ⟨l.push (.ofComparison op name), w, .connective⟩ rest :=
        readAll_of_readNext hrelease _

/-- A question for a capability is read at once. -/
lemma reads_capability {path : String} {c : Capability} (h : Asks path c)
    (hp : p.lexeme = .word path) : (Phrase.primary (.capability c)).Reads [p] := by
  intro l w rest
  obtain ⟨method, hmethod, hc⟩ := h.ofMethod?_eq
  have hterm : readNext ⟨l, w, .operand⟩ p =
      .ok ⟨l.push (.capability c), w, .connective⟩ := by
    simp only [readNext, readOperand, hp, readTerm, h.not_isReleasePath, Bool.false_eq_true,
      if_false, Text.dropLeading?_eq_some_iff.2 hmethod, hc, Reading.push]
  rw [List.singleton_append, readAll_of_readNext hterm]

end Reads

/-- The reader takes a derived phrase, whatever waits around it. -/
lemma Derives.reads {ls : List Lexeme} {p : Phrase} (h : Derives ls p) :
    ∀ ps : List Placed, ps.map Placed.lexeme = ls → p.Reads ps := by
  induction h with
  | last h ih => exact fun ps hps => (ih ps hps).last
  | more h hs ih ihs =>
    intro ps hps
    obtain ⟨qs, q, rs, rfl, hq, hop, hr⟩ := exists_of_map_eq_append_cons hps
    exact (ih qs hq).more hop (ihs rs hr)
  | single h ih => exact fun ps hps => (ih ps hps).junction
  | @several k ls gs hl h ih =>
    intro ps hps
    have hjunction : Guard.junction k.combine gs = k.combine gs := by
      match gs, hl with
      | g :: g' :: gs', _ => rfl
    rw [← hjunction]
    exact (ih ps hps).junction
  | not h ih =>
    intro ps hps
    obtain ⟨p, ps, rfl, hp, hps⟩ := List.map_eq_cons_iff.1 hps
    exact .not hp (ih ps hps)
  | plain h ih => exact ih
  | parentheses h ih =>
    intro ps hps
    obtain ⟨p, ps, rfl, hp, hps⟩ := List.map_eq_cons_iff.1 hps
    obtain ⟨qs, q, rs, rfl, hq, hclose, hr⟩ := exists_of_map_eq_append_cons hps
    obtain rfl : rs = [] := List.map_eq_nil_iff.1 hr
    exact .parentheses hp (ih qs hq) hclose
  | release hpath ho hn =>
    intro ps hps
    obtain ⟨p, ps, rfl, hp, hps⟩ := List.map_eq_cons_iff.1 hps
    obtain ⟨q, ps, rfl, hq, hps⟩ := List.map_eq_cons_iff.1 hps
    obtain ⟨r, ps, rfl, hr, hps⟩ := List.map_eq_cons_iff.1 hps
    obtain rfl : ps = [] := List.map_eq_nil_iff.1 hps
    rw [← hr] at hn
    exact reads_release hpath ho hn hp hq
  | capability h =>
    intro ps hps
    obtain ⟨p, ps, rfl, hp, hps⟩ := List.map_eq_cons_iff.1 hps
    obtain rfl : ps = [] := List.map_eq_nil_iff.1 hps
    exact reads_capability h hp

/-- The reader accepts what the grammar derives and gives the derived guard. -/
lemma Derives.ofLexemes_eq {ls : List Lexeme} {g : Guard} (h : Derives ls (.junction .or g))
    {ps : List Placed} (hps : ps.map Placed.lexeme = ls) (line : Nat) :
    ofLexemes line ps = .ok g := by
  obtain ⟨l, rfl, hr⟩ := h.reads ps hps []
  have hread : readAll .start ps = .ok ⟨l, [], .connective⟩ := by
    simpa [readAll, Reading.start] using hr []
  rw [ofLexemes, hread]
  rfl

/-! ## What has been read so far -/

/-- The lexemes of a chain that an operand has to go on with, and its operands, newest first. -/
def Begun (k : Connective) (ls : List Lexeme) (gs : List Guard) : Prop :=
  (ls = [] ∧ gs = []) ∨
    ∃ ms, ls = ms ++ [.operator k.operator] ∧ Derives ms (.operands k gs.reverse)

/-- Nothing needs to have been begun. -/
lemma Begun.nil (k : Connective) : Begun k [] [] := .inl ⟨rfl, rfl⟩

/-- One more operand completes what has been begun. -/
lemma Begun.push {k : Connective} {ls ms : List Lexeme} {gs : List Guard} {g : Guard}
    (h : Begun k ls gs) (hg : Derives ms (k.operand g)) :
    Derives (ls ++ ms) (.operands k (g :: gs).reverse) := by
  rw [List.reverse_cons]
  rcases h with ⟨rfl, rfl⟩ | ⟨ls, rfl, h⟩
  · exact .last hg
  · rw [List.append_assoc]
    exact h.snoc hg

namespace Level

/-- The lexemes of a level on which an operand is expected. -/
def Open (l : Level) (ls : List Lexeme) : Prop :=
  ∃ ds cs, ls = ds ++ (cs ++ List.replicate l.negations (.operator .not)) ∧
    Begun .or ds l.disjuncts ∧ Begun .and cs l.conjuncts

/-- The lexemes of a level on which a connective is expected. -/
def Closed (l : Level) (ls : List Lexeme) : Prop :=
  l.negations = 0 ∧ ∃ ds cs, ls = ds ++ cs ∧ Begun .or ds l.disjuncts ∧
    Derives cs (.operands .and l.conjuncts.reverse)

/-- At first nothing has been read. -/
lemma open_empty : Level.empty.Open [] := ⟨[], [], rfl, .nil _, .nil _⟩

/-- A negation leaves an operand expected. -/
lemma Open.not {l : Level} {ls : List Lexeme} (h : l.Open ls) :
    Level.Open { l with negations := l.negations + 1 } (ls ++ [.operator .not]) := by
  obtain ⟨ds, cs, rfl, hd, hc⟩ := h
  refine ⟨ds, cs, ?_, hd, hc⟩
  rw [List.replicate_succ', List.append_assoc, List.append_assoc]

/-- An operand leaves a connective expected. -/
lemma Open.push {l : Level} {ls ms : List Lexeme} {g : Guard} (h : l.Open ls)
    (hg : Derives ms (.primary g)) : (l.push g).Closed (ls ++ ms) := by
  obtain ⟨ds, cs, rfl, hd, hc⟩ := h
  refine ⟨rfl, ds, cs ++ (List.replicate l.negations (.operator .not) ++ ms), ?_, hd, ?_⟩
  · simp only [List.append_assoc]
  · exact hc.push (k := .and) (hg.negate l.negations)

/-- A conjunction goes on with an operand. -/
lemma Closed.and {l : Level} {ls : List Lexeme} (h : l.Closed ls) :
    l.Open (ls ++ [.operator .and]) := by
  obtain ⟨hn, ds, cs, rfl, hd, hc⟩ := h
  refine ⟨ds, cs ++ [.operator .and], ?_, hd, .inr ⟨cs, rfl, hc⟩⟩
  rw [hn, List.replicate_zero, List.append_nil, List.append_assoc]

/-- The operands of a disjunction at the end of its last conjunction. -/
lemma Closed.disjuncts {l : Level} {ls : List Lexeme} (h : l.Closed ls) :
    Derives ls (.operands .or l.endConjunction.disjuncts.reverse) := by
  obtain ⟨-, ds, cs, rfl, hd, hc⟩ := h
  exact hd.push (k := .or) hc.junction

/-- A disjunction goes on with an operand. -/
lemma Closed.or {l : Level} {ls : List Lexeme} (h : l.Closed ls) :
    l.endConjunction.Open (ls ++ [.operator .or]) := by
  have hn : l.endConjunction.negations = 0 := h.1
  refine ⟨ls ++ [.operator .or], [], ?_, .inr ⟨ls, rfl, h.disjuncts⟩, .nil _⟩
  rw [hn, List.replicate_zero, List.append_nil, List.append_nil]

/-- A level that may end here has read its guard. -/
lemma Closed.guard {l : Level} {ls : List Lexeme} (h : l.Closed ls) :
    Derives ls (.junction .or l.guard) :=
  h.disjuncts.junction

end Level

/-- The lexemes before the level at hand: those of each level around it and its parenthesis, the
innermost last. -/
inductive Waits : List Level → List Lexeme → Prop
  | nil : Waits [] []
  | cons {l : Level} {w : List Level} {ls ms : List Lexeme} (hw : Waits w ls) (hl : l.Open ms) :
      Waits (l :: w) (ls ++ (ms ++ [.openParen]))

/-- The lexemes of the level at hand, where a comparison may have been begun. -/
def Expected.Explains (l : Level) (ls : List Lexeme) : Expected → Prop
  | .operand => l.Open ls
  | .connective => l.Closed ls
  | .comparison _ => ∃ ms path, ls = ms ++ [.word path] ∧ isReleasePath path = true ∧ l.Open ms
  | .release _ op => ∃ ms path o, ls = ms ++ [.word path, .operator o] ∧
      isReleasePath path = true ∧ o.symbol = op.symbol ∧ l.Open ms

/-- What the reader has read is what its state says. -/
def Reading.Explains (s : Reading) (ls : List Lexeme) : Prop :=
  ∃ ws ms, ls = ws ++ ms ∧ Waits s.waiting ws ∧ s.expected.Explains s.level ms

/-- Before the first lexeme nothing has been read. -/
lemma explains_start : Reading.start.Explains [] := ⟨[], [], rfl, .nil, Level.open_empty⟩

/-- A path begins an operand or is one. -/
lemma explains_of_readTerm {s s' : Reading} {ws ms : List Lexeme} {line : Nat} {path : String}
    (hw : Waits s.waiting ws) (hl : s.level.Open ms) (he : Lexeme.EndsOnce path)
    (hs : readTerm s line path = .ok s') : s'.Explains (ws ++ (ms ++ [.word path])) := by
  unfold readTerm at hs
  split at hs
  · next hp =>
    obtain rfl := Except.ok.inj hs
    exact ⟨ws, _, rfl, hw, ms, path, rfl, hp, hl⟩
  · split at hs
    · simp at hs
    · next method hm =>
      split at hs
      · next c hc =>
        obtain rfl := Except.ok.inj hs
        have hasks := asks_of_ofMethod? he (Text.dropLeading?_eq_some_iff.1 hm) hc
        exact ⟨ws, _, rfl, hw, hl.push (.capability hasks)⟩
      · simp at hs

/-- Where an operand has to begin, a lexeme is taken as the grammar has it. -/
lemma explains_of_readOperand {s s' : Reading} {ls : List Lexeme} {p : Placed}
    (h : s.Explains ls) (hx : s.expected = .operand)
    (he : ∀ path, p.lexeme = .word path → Lexeme.EndsOnce path)
    (hs : readOperand s p = .ok s') : s'.Explains (ls ++ [p.lexeme]) := by
  obtain ⟨ws, ms, rfl, hw, hl⟩ := h
  rw [hx] at hl
  rw [List.append_assoc]
  unfold readOperand at hs
  split at hs
  · next hp =>
    obtain rfl := Except.ok.inj hs
    exact ⟨ws, _, rfl, hw, by rw [hx, hp]; exact Level.Open.not hl⟩
  · next hp =>
    obtain rfl := Except.ok.inj hs
    rw [hp]
    exact ⟨_, [], (List.append_nil _).symm, .cons hw hl, Level.open_empty⟩
  · next path hp =>
    rw [hp]
    exact explains_of_readTerm hw hl (he path hp) hs
  · simp at hs

/-- After an operand, a lexeme is taken as the grammar has it. -/
lemma explains_of_readConnective {s s' : Reading} {ls : List Lexeme} {p : Placed}
    (h : s.Explains ls) (hx : s.expected = .connective) (hs : readConnective s p = .ok s') :
    s'.Explains (ls ++ [p.lexeme]) := by
  obtain ⟨ws, ms, rfl, hw, hl⟩ := h
  rw [hx] at hl
  rw [List.append_assoc]
  unfold readConnective at hs
  split at hs
  · next hp =>
    obtain rfl := Except.ok.inj hs
    exact ⟨ws, _, rfl, hw, by rw [hp]; exact Level.Closed.and hl⟩
  · next hp =>
    obtain rfl := Except.ok.inj hs
    exact ⟨ws, _, rfl, hw, by rw [hp]; exact Level.Closed.or hl⟩
  · next outer waiting hp hwait =>
    obtain rfl := Except.ok.inj hs
    rw [hwait] at hw
    cases hw with
    | @cons _ _ ws os hw ho =>
      refine ⟨ws, os ++ (.openParen :: (ms ++ [.closeParen])), ?_, hw, ?_⟩
      · simp [hp]
      · exact ho.push (.parentheses hl.guard)
  · simp at hs
  · simp at hs

/-- Every lexeme that the reader takes keeps what has been read explained. -/
theorem Reading.Explains.readNext {s s' : Reading} {ls : List Lexeme} {p : Placed}
    (h : s.Explains ls) (he : ∀ path, p.lexeme = .word path → Lexeme.EndsOnce path)
    (hs : Guard.readNext s p = .ok s') : s'.Explains (ls ++ [p.lexeme]) := by
  unfold Guard.readNext at hs
  split at hs
  · next hx => exact explains_of_readOperand h hx he hs
  · next hx => exact explains_of_readConnective h hx hs
  · next line hx =>
    obtain ⟨ws, ms, rfl, hw, hl⟩ := h
    rw [hx] at hl
    obtain ⟨os, path, rfl, hp, ho⟩ := hl
    split at hs
    · next op hop =>
      obtain rfl := Except.ok.inj hs
      obtain ⟨o, hlex, hsym⟩ := comparison?_eq_some_iff.1 hop
      exact ⟨ws, _, List.append_assoc .., hw, os, path, o, by simp [hlex], hp, hsym, ho⟩
    · simp at hs
  · next line op hx =>
    obtain ⟨ws, ms, rfl, hw, hl⟩ := h
    rw [hx] at hl
    obtain ⟨os, path, o, rfl, hp, hsym, ho⟩ := hl
    split at hs
    · next name hname =>
      obtain rfl := Except.ok.inj hs
      refine ⟨ws, os ++ [.word path, .operator o, p.lexeme], by simp, hw, ?_⟩
      exact ho.push (.release (isReleasePath_iff.1 hp) hsym (releaseName?_eq_some_iff.1 hname))
    · simp at hs

/-- What the reader has taken after any number of lexemes is explained. -/
theorem explains_of_readAll {s s' : Reading} {ls : List Lexeme} {ps : List Placed}
    (h : s.Explains ls) (he : Lexeme.WordsEndOnce (ps.map Placed.lexeme))
    (hs : readAll s ps = .ok s') : s'.Explains (ls ++ ps.map Placed.lexeme) := by
  induction ps generalizing s ls with
  | nil =>
    obtain rfl : s = s' := by simpa [readAll] using hs
    simpa using h
  | cons p ps ih =>
    rw [readAll] at hs
    split at hs
    · next s₁ hn =>
      have h₁ := h.readNext (fun path hp => he path (by simp [hp])) hn
      have := ih h₁ (fun path hp => he path (List.mem_cons_of_mem _ hp)) hs
      simpa using this
    · simp at hs

/-- The reader gives only what the grammar derives, when question marks stand nowhere in words but
at their ends. -/
theorem derives_of_ofLexemes {line : Nat} {ps : List Placed} {g : Guard}
    (he : Lexeme.WordsEndOnce (ps.map Placed.lexeme)) (h : ofLexemes line ps = .ok g) :
    Derives (ps.map Placed.lexeme) (.junction .or g) := by
  unfold ofLexemes at h
  split at h
  · next s hs =>
    obtain ⟨ws, ms, hls, hw, hl⟩ := explains_of_readAll explains_start he hs
    unfold finish at h
    split at h
    · next hx hwait =>
      obtain rfl := Except.ok.inj h
      rw [hwait] at hw
      cases hw
      rw [hx] at hl
      rw [List.nil_append, List.nil_append] at hls
      rw [hls]
      exact hl.guard
    · simp at h
  · simp at h

/-- The reader accepts exactly what the grammar derives, when question marks stand nowhere in words
but at their ends. -/
lemma ofLexemes_eq_ok_iff {line : Nat} {ps : List Placed} {g : Guard}
    (he : Lexeme.WordsEndOnce (ps.map Placed.lexeme)) :
    ofLexemes line ps = .ok g ↔ Derives (ps.map Placed.lexeme) (.junction .or g) := by
  constructor
  · intro hg
    exact derives_of_ofLexemes he hg
  · intro hd
    exact hd.ofLexemes_eq rfl line

/-- Lexemes derive at most one guard. -/
lemma Derives.unique {ls : List Lexeme} {g g' : Guard} (h : Derives ls (.junction .or g))
    (h' : Derives ls (.junction .or g')) : g = g' := by
  have hps := Lexeme.map_lexeme_place 1 ls
  exact Except.ok.inj ((h.ofLexemes_eq hps 1).symm.trans (h'.ofLexemes_eq hps 1))

/-! ## Consequences -/

mutual

/-- Every junction in a guard joins at least two operands. -/
def Branches : Guard → Prop
  | .release _ _ => True
  | .capability _ => True
  | .not g => Branches g
  | .all gs => 2 ≤ gs.length ∧ AllBranch gs
  | .any gs => 2 ≤ gs.length ∧ AllBranch gs

/-- Every junction in several guards joins at least two operands. -/
def AllBranch : List Guard → Prop
  | [] => True
  | g :: gs => Branches g ∧ AllBranch gs

end

/-- Every junction in the guards of a phrase joins at least two operands. -/
def Phrase.Branches : Phrase → Prop
  | .operands _ gs => AllBranch gs
  | .junction _ g => g.Branches
  | .unary g => g.Branches
  | .primary g => g.Branches

/-- Whatever is derived joins at least two operands in every junction. -/
lemma Derives.branches {ls : List Lexeme} {p : Phrase} (h : Derives ls p) : p.Branches := by
  induction h with
  | @last k _ _ _ ih => cases k <;> exact ⟨ih, trivial⟩
  | @more k _ _ _ _ _ _ ih₁ ih₂ => cases k <;> exact ⟨ih₁, ih₂⟩
  | single _ ih => exact ih.1
  | @several k _ _ hl _ ih => cases k <;> exact ⟨hl, ih⟩
  | not _ ih => exact ih
  | plain _ ih => exact ih
  | parentheses _ ih => exact ih
  | release => trivial
  | capability => trivial

/-- Two operands with a connective between them derive their combination. -/
lemma Derives.pair {k : Connective} {ls ms : List Lexeme} {g g' : Guard}
    (h : Derives ls (k.operand g)) (h' : Derives ms (k.operand g')) :
    Derives (ls ++ .operator k.operator :: ms) (.junction k (k.combine [g, g'])) :=
  .several (by simp) (.more h (.last h'))

/-- An operand that may be negated is a conjunction by itself. -/
lemma Derives.conjunction {ls : List Lexeme} {g : Guard} (h : Derives ls (.unary g)) :
    Derives ls (.junction .and g) :=
  .single (.last (k := .and) h)

/-- The lexemes that are no line breaks. -/
def significant (ps : List Placed) : List Lexeme :=
  (ps.map Placed.lexeme).filter (· ≠ .newline)

/-- In the words of a scanned text, a question mark stands nowhere but at the end. -/
lemma wordsEndOnce_significant {text : String} {ps : List Placed}
    (h : Lexeme.scan text = .ok ps) : Lexeme.WordsEndOnce (significant ps) := by
  intro path hp
  exact (Lexeme.scans_of_scanFrom h).wordsEndOnce path (List.mem_filter.1 hp).1

/-- A text writes the guard that its lexemes without the line breaks derive. -/
lemma ofText_eq_ok_iff {line : Nat} {text : String} {found : List Placed} {g : Guard}
    (h : Lexeme.scan text = .ok found) :
    ofText line text = .ok g ↔ Derives (significant found) (.junction .or g) := by
  have hplaced : (found.filter (·.lexeme ≠ .newline)).map (fun l => (⟨l.lexeme, line⟩ : Placed)) =
      (significant found).map fun l => ⟨l, line⟩ := by
    simp [significant, List.filter_map, Function.comp_def]
  have hlexemes : ((significant found).map fun l => (⟨l, line⟩ : Placed)).map Placed.lexeme =
      significant found := by
    simp [Function.comp_def]
  have hreads := @ofLexemes_eq_ok_iff line ((significant found).map fun l => ⟨l, line⟩) g
  rw [hlexemes] at hreads
  rw [← hreads (wordsEndOnce_significant h), ofText, h]
  dsimp only
  rw [hplaced]
  cases ofLexemes line ((significant found).map fun l => ⟨l, line⟩) <;> simp

/-- On the lexemes of any text, line breaks left out, the reader accepts exactly what the grammar
derives and gives the derived guard, wherever the lexemes are placed. So lexemes derive one guard at
most, every junction in it joins at least two operands, and conjunctions bind tighter than
disjunctions. -/
theorem ofLexemes_eq_ok_iff_derives {text : String} {found : List Placed}
    (h : Lexeme.scan text = .ok found) :
    (∀ line ps g, ps.map Placed.lexeme = significant found →
      (ofLexemes line ps = .ok g ↔ Derives (significant found) (.junction .or g))) ∧
    (∀ line g, ofText line text = .ok g ↔ Derives (significant found) (.junction .or g)) ∧
    (∀ g, Derives (significant found) (.junction .or g) →
      g.Branches ∧
      (∀ g', Derives (significant found) (.junction .or g') → g' = g) ∧
      ∀ as bs cs x y z,
        Derives as (.unary x) → Derives bs (.unary y) → Derives cs (.unary z) →
          (significant found = as ++ .operator .or :: (bs ++ .operator .and :: cs) →
            g = .any [x, .all [y, z]]) ∧
          (significant found = (as ++ .operator .and :: bs) ++ .operator .or :: cs →
            g = .any [.all [x, y], z])) := by
  refine ⟨?_, fun _ _ => ofText_eq_ok_iff h, ?_⟩
  · intro line ps g hps
    rw [← hps]
    exact ofLexemes_eq_ok_iff (hps ▸ wordsEndOnce_significant h)
  · intro g hg
    refine ⟨hg.branches, fun g' hg' => hg'.unique hg, ?_⟩
    intro as bs cs x y z hx hy hz
    constructor
    · intro hls
      rw [hls] at hg
      exact hg.unique (.pair (k := .or) hx.conjunction (.pair (k := .and) hy hz))
    · intro hls
      rw [hls] at hg
      exact hg.unique (.pair (k := .or) (.pair (k := .and) hx hy) hz.conjunction)

/-- A disjunction of a release and a conjunction, as it is written. -/
def releaseOrConjunction : String :=
  "MacOS.release == :lion || !Hardware::CPU.ppc? && MacOS.version < 10.7"

/-- A disjunction of a release and a conjunction is read from its text. -/
theorem ofText_release_or_conjunction :
    Lexeme.scan releaseOrConjunction =
      .ok [⟨.word "MacOS.release", 1⟩, ⟨.operator .eq, 1⟩, ⟨.symbol "lion", 1⟩, ⟨.operator .or, 1⟩,
        ⟨.operator .not, 1⟩, ⟨.word "Hardware::CPU.ppc?", 1⟩, ⟨.operator .and, 1⟩,
        ⟨.word "MacOS.version", 1⟩, ⟨.operator .lt, 1⟩, ⟨.number "10.7", 1⟩] ∧
    ofText 7 releaseOrConjunction =
      .ok (.any [.release .eq "lion",
        .all [.not (.capability .powerPc), .release .lt "lion"]]) := by
  have hscan : Lexeme.scan releaseOrConjunction =
      .ok [⟨.word "MacOS.release", 1⟩, ⟨.operator .eq, 1⟩, ⟨.symbol "lion", 1⟩, ⟨.operator .or, 1⟩,
        ⟨.operator .not, 1⟩, ⟨.word "Hardware::CPU.ppc?", 1⟩, ⟨.operator .and, 1⟩,
        ⟨.word "MacOS.version", 1⟩, ⟨.operator .lt, 1⟩, ⟨.number "10.7", 1⟩] := by
    decide +kernel
  refine ⟨hscan, ((ofLexemes_eq_ok_iff_derives hscan).2.1 7 _).2 ?_⟩
  have hlion : Derives [.word "MacOS.release", .operator .eq, .symbol "lion"]
      (.unary (.release .eq "lion")) :=
    .plain (@Derives.release _ "lion" _ .eq _ (.inl rfl) rfl .symbol)
  have hppc : Derives [.operator .not, .word "Hardware::CPU.ppc?"]
      (.unary (.not (.capability .powerPc))) := .not (.plain (.capability (.inl rfl)))
  have hnumber : Derives [.word "MacOS.version", .operator .lt, .number "10.7"]
      (.unary (.release .lt "lion")) :=
    .plain (@Derives.release _ "lion" _ .lt _ (.inr rfl) rfl
      (.knownNumber (r := .lion) (by decide)))
  exact .pair (k := .or) hlion.conjunction (.pair (k := .and) hppc hnumber)

end CaskAudit.Guard
