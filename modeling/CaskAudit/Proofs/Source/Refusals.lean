import CaskAudit.Proofs.Source.Layout
import CaskAudit.Proofs.Source.Steps

/-!
# What definitions are refused for

`Fails E x` says that a result is refused for nothing but what has the property `E`. Results that go
on one after the other are so if each is (`Fails.bind`), so that the readers are gone through once:
a stanza is refused for its shape or for one of its values (`Stanza.Rejects`,
`Stanza.fails_declare`), and a statement on the line of its head, on that of one of its other
lexemes, for its guard or for what the stanza is that it begins (`Refuses`, `fails_readStatement`).

A definition is refused for the first of its statements that is (`StopsAt`), or for its shape: where
its opening line is not as expected, or where it ends too early (`fails_readLexemes`). Faults of its
shape are on the lines of lexemes, of which some are kept while statements are taken: those of an
open conditional and of a block that is skipped (`Reading.On`, kept by the rules of `Takes`).
-/

namespace CaskAudit

/-! ## Results and their errors -/

/-- A result is refused for nothing but what has a property. -/
def Fails {ε α : Type} (E : ε → Prop) (x : Except ε α) : Prop := ∀ e, x = .error e → E e

section

variable {ε ε' α β : Type} {E E' : ε → Prop} {x : Except ε α}

/-- A value is not refused. -/
lemma fails_ok (a : α) : Fails E (.ok a : Except ε α) := nofun

/-- An error is what a result is refused for. -/
lemma fails_error {e : ε} (h : E e) : Fails E (.error e : Except ε α) := by
  rintro e' he
  obtain rfl := Except.error.inj he
  exact h

/-- Results that go on are refused for what one of them is refused for. -/
lemma Fails.bind {f : α → Except ε β} (hx : Fails E x) (hf : ∀ a, x = .ok a → Fails E (f a)) :
    Fails E (x.bind f) := by
  intro e he
  cases hxa : x with
  | error e' =>
    rw [hxa] at he
    obtain rfl := Except.error.inj he
    exact hx e' hxa
  | ok a =>
    rw [hxa] at he
    exact hf a hxa e he

/-- A result of which the value is changed is refused for the same. -/
lemma Fails.map (hx : Fails E x) (f : α → β) : Fails E (x.map f) := by
  intro e he
  cases hxa : x with
  | error e' =>
    rw [hxa] at he
    obtain rfl := Except.error.inj he
    exact hx e' hxa
  | ok a =>
    rw [hxa] at he
    cases he

/-- A result of which the error is changed is refused for what the errors are changed to. -/
lemma fails_mapError {y : Except ε' α} {g : ε' → ε} (h : ∀ e, y = .error e → E (g e)) :
    Fails E (y.mapError g) := by
  intro e he
  cases hy : y with
  | error e' =>
    rw [hy] at he
    obtain rfl := Except.error.inj he
    exact h e' hy
  | ok a =>
    rw [hy] at he
    cases he

/-- What a result is refused for has all properties that follow. -/
lemma Fails.imp (hx : Fails E x) (h : ∀ e, E e → E' e) : Fails E' x :=
  fun e he => h e (hx e he)

end

/-! ## Stanzas -/

namespace Stanza

/-- What a stanza is refused for: its shape, or one of its values. -/
inductive Rejects (s : Stanza) : SourceError → Prop
  | shape (fault : DefinitionFault) : Rejects s (.definition s.line fault)
  | version {t : String} {e : VersionError} (hk : s.kind = .version) (ht : s.text = .ok t)
      (he : Version.ofText t = .error e) : Rejects s (.version s.line e)
  | checksum {t : String} {e : DigestError} (hk : s.kind = .sha256) (ht : s.text = .ok t)
      (he : Checksum.ofText t = .error e) : Rejects s (.digest s.line e)
  | checkpoint {t : String} {e : DigestError} (hk : s.kind = .appcast)
      (ht : keyword? "checkpoint" s.args = some (.text t)) (he : Digest.ofText t = .error e) :
      Rejects s (.digest s.line e)
  | template {t : String} {e : TemplateError} (hk : s.kind = .url ∨ s.kind = .appcast)
      (ht : s.text = .ok t) (he : Template.parse t = .error e) : Rejects s (.template s.line e)

lemma fails_text (s : Stanza) : Fails s.Rejects s.text := by
  unfold text
  split
  · exact fails_ok _
  · exact fails_ok _
  · exact fails_ok _
  · exact fails_error (.shape _)

lemma fails_truth (s : Stanza) : Fails s.Rejects s.truth := by
  unfold truth
  split
  · exact fails_ok _
  · exact fails_ok _
  · exact fails_error (.shape _)

lemma fails_once {α : Type} (s : Stanza) (old : Option α) (value : α) :
    Fails s.Rejects (s.once old value) := by
  unfold once
  split
  · exact fails_error (.shape _)
  · exact fails_ok _

lemma fails_template {s : Stanza} (hk : s.kind = .url ∨ s.kind = .appcast) {t : String}
    (ht : s.text = .ok t) : Fails s.Rejects (s.template t) :=
  fails_mapError fun _ he => .template hk ht he

lemma fails_checkpoint {s : Stanza} (hk : s.kind = .appcast) :
    Fails s.Rejects s.checkpoint := by
  unfold checkpoint
  split
  · next digest hdigest => exact fails_mapError fun _ he => .checkpoint hk hdigest he
  · exact fails_error (.shape _)
  · exact fails_error (.shape _)

/-- A stanza is refused for its shape or for one of its values. -/
lemma fails_declare (s : Stanza) (d : Declarations) : Fails s.Rejects (s.declare d) := by
  have honce : ∀ {α : Type} (old : Option α) (value : α) (put : Option α → Declarations),
      Fails s.Rejects ((s.once old value).bind fun a => .ok (put a)) := by
    intro α old value put
    exact (s.fails_once old value).bind fun a _ => fails_ok (put a)
  unfold declare
  cases hk : s.kind with
  | version =>
    refine s.fails_text.bind fun t ht => Fails.bind ?_ fun v _ => honce _ _ _
    exact fails_mapError fun _ he => .version hk ht he
  | sha256 =>
    refine s.fails_text.bind fun t ht => Fails.bind ?_ fun c _ => honce _ _ _
    exact fails_mapError fun _ he => .checksum hk ht he
  | url =>
    exact s.fails_text.bind fun t ht => (fails_template (.inl hk) ht).bind fun _ _ => honce _ _ _
  | appcast =>
    exact s.fails_text.bind fun t ht => (fails_template (.inr hk) ht).bind fun _ _ =>
      (fails_checkpoint hk).bind fun _ _ => honce _ _ _
  | name => exact s.fails_text.bind fun t _ => fails_ok _
  | homepage => exact s.fails_text.bind fun t _ => honce _ _ _
  | license => exact s.fails_text.bind fun t _ => honce _ _ _
  | autoUpdates => exact s.fails_truth.bind fun b _ => honce _ _ _
  | app => exact s.fails_text.bind fun t _ => honce _ _ _

end Stanza

/-! ## Statements -/

namespace Definition

/-- What a statement is refused for. -/
inductive Refuses (st : Statement) : SourceError → Prop
  | head (fault : DefinitionFault) : Refuses st (.definition st.head.line fault)
  | tail {l : Placed} (hl : l ∈ st.tail) (fault : DefinitionFault) :
      Refuses st (.definition l.line fault)
  | guard {e : Guard.ReadError} (he : Guard.ofLexemes st.head.line st.tail = .error e) :
      Refuses st (.guard e)
  | stanza {kind : Stanza.Kind} {e : SourceError} (hw : st.head.lexeme = .word kind.word)
      (he : Stanza.Rejects ⟨kind, st.head.line, st.tail⟩ e) : Refuses st e

lemma fails_readCondition (st : Statement) :
    Fails (Refuses st) (readCondition st.head.line st.tail) := by
  unfold readCondition
  split
  · exact fails_error (.head _)
  · exact fails_mapError fun _ he => .guard he

/-- Lexemes at the end of a line are refused on the line of the statement that they come after. -/
lemma fails_expectLineEnd {E : SourceError → Prop} {line : Nat}
    (h : ∀ fault, E (.definition line fault)) (ls : List Placed) :
    Fails E (expectLineEnd line ls) := by
  unfold expectLineEnd
  split
  · exact fails_ok _
  · split
    · exact fails_ok _
    · exact fails_error (h _)

lemma fails_readStanza {st : Statement} {w : String} (hw : st.head.lexeme = .word w) (s : Reading)
    (d : Declarations) (put : Declarations → Reading) :
    Fails (Refuses st) (readStanza s d st.head.line w st.tail put) := by
  unfold readStanza
  split
  · next kind hkind =>
    have hfails := Stanza.fails_declare ⟨kind, st.head.line, st.tail⟩ d
    rw [← word_of_ofWord? hkind] at hw
    exact (hfails.imp fun e he => .stanza hw he).map put
  · exact fails_ok _

lemma fails_readInBlock (s : Reading) (st : Statement) :
    Fails (Refuses st) (readInBlock s st) := by
  unfold readInBlock
  dsimp only
  split
  · split
    · exact fails_ok _
    · next hst =>
      refine fails_error (.tail ?_ _)
      rw [hst]
      exact List.mem_cons_self
  · split
    · exact fails_error (.head _)
    · exact (fails_readCondition st).bind fun _ _ => fails_ok _
  · exact fails_error (.head _)
  · next hw => exact fails_readStanza hw _ _ _
  · exact fails_error (.head _)

lemma fails_readInBranch (s : Reading) (c : Chain) (st : Statement) :
    Fails (Refuses st) (readInBranch s c st) := by
  unfold readInBranch
  dsimp only
  split
  · exact (fails_expectLineEnd .head _).bind fun _ _ => fails_ok _
  · split
    · exact fails_error (.head _)
    · exact (fails_readCondition st).bind fun _ _ => fails_ok _
  · split
    · exact fails_error (.head _)
    · exact (fails_expectLineEnd .head _).bind fun _ _ => fails_ok _
  · exact fails_error (.head _)
  · exact fails_error (.head _)
  · next hw => exact fails_readStanza hw _ _ _
  · exact fails_error (.head _)

/-- A statement is refused on the line of its head or of one of its other lexemes, for its guard or
for what its stanza is refused for. -/
theorem fails_readStatement (s : Reading) (st : Statement) :
    Fails (Refuses st) (readStatement s st) := by
  unfold readStatement
  split
  · exact fails_ok _
  · split
    · exact fails_readInBlock s st
    · exact fails_readInBranch s _ st
    · exact fails_error (.head _)

/-- A statement is not refused for a fault of the manifest as a whole. -/
lemma Refuses.ne_manifest {st : Statement} {e : SourceError} (h : Refuses st e)
    (m : ManifestError) :
    e ≠ .manifest m := by
  rintro rfl
  cases h with
  | stanza _ he => cases he

/-- Statements are refused for the first of them that is refused. -/
lemma exists_refused {s : Reading} {sts : List Statement} {e : SourceError}
    (h : readStatements s sts = .error e) :
    ∃ before st after t, sts = before ++ st :: after ∧ readStatements s before = .ok t ∧
      readStatement t st = .error e := by
  induction sts generalizing s with
  | nil => cases h
  | cons st sts ih =>
    rw [readStatements] at h
    split at h
    · next s' hs =>
      obtain ⟨before, st', after, t, rfl, hbefore, hst⟩ := ih h
      refine ⟨st :: before, st', after, t, rfl, ?_, hst⟩
      rw [readStatements, hs]
      exact hbefore
    · next e' hs =>
      obtain rfl := Except.error.inj h
      exact ⟨[], st, sts, s, rfl, rfl, hs⟩

end Definition

/-! ## The end of the block -/

/-- An error is about the shape of a definition, on a line with a property. -/
def SourceError.OfShape (P : Nat → Prop) (e : SourceError) : Prop :=
  ∃ line fault, P line ∧ e = .definition line fault

/-- A fault of the shape is none of the manifest as a whole. -/
lemma SourceError.OfShape.ne_manifest {P : Nat → Prop} {e : SourceError} (h : e.OfShape P)
    (m : ManifestError) : e ≠ .manifest m := by
  obtain ⟨line, fault, -, rfl⟩ := h
  exact nofun

namespace Definition

open Statement (lexemes Unbroken)
open SourceError (OfShape)

variable {P : Nat → Prop} {st : Statement} {ls body : List Placed} {e : SourceError}

/-- An open conditional begins on a line with a property. -/
def Place.On (P : Nat → Prop) : Place → Prop
  | .block => True
  | .branch c => P c.line
  | .afterBlock => True

/-- The lines that are kept while statements are taken have a property: that of an open conditional
and that of a block which is skipped. -/
structure Reading.On (P : Nat → Prop) (s : Reading) : Prop where
  place : s.place.On P
  block : ∀ p ∈ s.skipping, P p.1

/-- A reading that skips no block keeps no line but that of its place. -/
lemma on_of_place {outer : Declarations} {clauses : Option (List Clause)} {place : Place}
    (h : place.On P) : Reading.On P ⟨outer, clauses, place, none⟩ := by
  refine ⟨h, fun p hp => ?_⟩
  cases hp

/-- What is skipped begins on a line with a property. -/
lemma on_skippingFrom {line : Nat} (hline : P line) (depth : Nat) :
    ∀ p ∈ skippingFrom line depth, P p.1 := by
  intro p hp
  rw [skippingFrom] at hp
  split at hp
  · cases hp
  · obtain rfl := Option.some.inj hp
    exact hline

/-- A statement leaves kept lines as they are, or puts its own in their place. -/
lemma Takes.on {s t : Reading} (h : Takes s st t) (hs : s.On P) (hst : P st.head.line) :
    t.On P := by
  have hplace := hs.place
  cases h with
  | skipped outer clauses place line depth =>
    exact ⟨hplace, on_skippingFrom (hs.block _ rfl) _⟩
  | foreign outer clauses line tail hw hp => exact ⟨hplace, on_skippingFrom hst _⟩
  | blockStanza clauses hd => exact on_of_place trivial
  | branchStanza outer clauses hd => exact on_of_place hplace
  | chainIf outer hg => exact on_of_place hst
  | chainElsif outer clauses hc hg => exact on_of_place hplace
  | chainElse outer clauses line hc => exact on_of_place hplace
  | chainEnd outer clauses c line => exact on_of_place trivial
  | blockEnd outer clauses line => exact on_of_place trivial

/-- Statements keep no lines but those of their first lexemes. -/
lemma on_readStatements {sts : List Statement} {s t : Reading} (hunbroken : Unbroken sts)
    (hsts : ∀ st ∈ sts, P st.head.line) (hs : s.On P) (h : readStatements s sts = .ok t) :
    t.On P := by
  induction sts generalizing s with
  | nil =>
    obtain rfl := Except.ok.inj h
    exact hs
  | cons st sts ih =>
    rw [readStatements] at h
    split at h
    · next s' hread =>
      have htakes := takes_of_readStatement (hunbroken st List.mem_cons_self) hread
      exact ih (fun st' hst' => hunbroken st' (List.mem_cons_of_mem _ hst'))
        (fun st' hst' => hsts st' (List.mem_cons_of_mem _ hst'))
        (htakes.on hs (hsts st List.mem_cons_self)) h
    · cases h

/-- A text that ends inside the block is refused on a line that is kept, or on the last one. -/
lemma fails_finish {last : Nat} {s : Reading} (hlast : P last) (hs : s.On P) :
    Fails (OfShape P) (finish last s) := by
  unfold finish
  split
  · next hskipping => exact fails_error ⟨_, _, hs.block _ hskipping, rfl⟩
  · split
    · exact fails_error ⟨_, _, hlast, rfl⟩
    · next hplace =>
      have hchain := hs.place
      rw [hplace] at hchain
      exact fails_error ⟨_, _, hchain, rfl⟩
    · split
      · exact fails_ok _
      · exact fails_ok _

/-! ## The opening line -/

/-- The last line is that of a lexeme, or the first line. -/
lemma on_lastLine (hfirst : P 1) (hls : ∀ l ∈ ls, P l.line) : P (lastLine ls) := by
  unfold lastLine
  cases hlast : ls.getLast? with
  | none => exact hfirst
  | some l => exact hls l (List.mem_of_getLast? hlast)

lemma fails_expectWord {word : String} {last : Nat} (hlast : P last) (hls : ∀ l ∈ ls, P l.line) :
    Fails (OfShape P) (expectWord word last ls) := by
  cases ls with
  | nil => exact fails_error ⟨_, _, hlast, rfl⟩
  | cons l ls =>
    rw [expectWord]
    split
    · exact fails_ok _
    · exact fails_error ⟨_, _, hls l List.mem_cons_self, rfl⟩

lemma fails_expectToken {line : Nat} (hline : P line) (ls : List Placed) :
    Fails (OfShape P) (expectToken line ls) := by
  unfold expectToken
  split
  · exact fails_ok _
  · exact fails_ok _
  · exact fails_error ⟨_, _, hline, rfl⟩

/-- The opening line is refused on the line of a lexeme, or on the last one. -/
lemma fails_readOpeningLine {last : Nat} (hlast : P last) (hls : ∀ l ∈ ls, P l.line) :
    Fails (OfShape P) (readOpeningLine last ls) := by
  refine (fails_expectWord hlast hls).bind fun p hp => ?_
  obtain ⟨c, rfl, -, hline⟩ := expectWord_eq_ok hp
  have hcask : P p.1 := hline ▸ hls c List.mem_cons_self
  refine (fails_expectToken hcask p.2).bind fun q hq => ?_
  obtain ⟨t, ht, -⟩ := expectToken_eq_ok hq
  have hrest : ∀ l ∈ q.2, P l.line := by
    intro l hl
    refine hls l (List.mem_cons_of_mem _ ?_)
    rw [ht]
    exact List.mem_cons_of_mem _ hl
  refine (fails_expectWord hlast hrest).bind fun r _ => ?_
  exact (fails_expectLineEnd (fun fault => ⟨_, fault, hcask, rfl⟩) r.2).bind fun _ _ => fails_ok _

/-- What comes after the opening line are lexemes of the text. -/
lemma mem_of_readOpening {token : String} (h : readOpening ls = .ok (token, body)) {l : Placed}
    (hl : l ∈ body) : l ∈ ls := by
  rw [readOpening_eq] at h
  obtain ⟨front, t, hfront, -⟩ := readOpeningLine_eq_ok h
  have hmem : l ∈ front ++ body := List.mem_append_right _ hl
  rw [← hfront] at hmem
  exact (List.dropWhile_sublist _).mem hmem

/-! ## Definitions -/

/-- The statements of a body are taken up to one that is refused. -/
def StopsAt (body : List Placed) (st : Statement) (e : SourceError) : Prop :=
  ∃ before after s, Statement.ofLexemes body = before ++ st :: after ∧
    readStatements .start before = .ok s ∧ readStatement s st = .error e

/-- A definition is refused for one of the statements after its opening line. -/
def IsRefused (ls : List Placed) (st : Statement) (e : SourceError) : Prop :=
  ∃ token body, readOpening ls = .ok (token, body) ∧ StopsAt body st e

/-- A body is refused for what its statement is refused for. -/
lemma StopsAt.refuses (h : StopsAt body st e) : Refuses st e := by
  obtain ⟨before, after, s, -, -, hread⟩ := h
  exact fails_readStatement s st e hread

/-- Statements have lexemes of the text that they are statements of. -/
lemma mem_of_mem_lexemes (hst : st ∈ Statement.ofLexemes body) {l : Placed}
    (hl : l ∈ st.lexemes) : l ∈ body := by
  have hmem : l ∈ (Statement.ofLexemes body).flatMap lexemes := List.mem_flatMap.2 ⟨st, hst, hl⟩
  rw [Statement.flatMap_lexemes_ofLexemes] at hmem
  exact List.mem_of_mem_filter hmem

/-- A definition is refused for a statement that is one of its own. -/
lemma IsRefused.mem (h : IsRefused ls st e) {l : Placed} (hl : l ∈ st.lexemes) : l ∈ ls := by
  obtain ⟨token, body, hopening, before, after, s, hsts, -⟩ := h
  refine mem_of_readOpening hopening (mem_of_mem_lexemes ?_ hl)
  rw [hsts]
  exact List.mem_append_right _ List.mem_cons_self

/-- A definition is refused for what its statement is refused for. -/
lemma IsRefused.refuses (h : IsRefused ls st e) : Refuses st e := by
  obtain ⟨token, body, -, hstops⟩ := h
  exact hstops.refuses

/-- A body is refused for one of its statements, or where it ends too early. -/
lemma fails_readBody {last : Nat} (hlast : P last) (hbody : ∀ l ∈ body, P l.line) :
    Fails (fun e => e.OfShape P ∨ ∃ st, StopsAt body st e) (readBody last body) := by
  refine Fails.bind ?_ fun s hs => ?_
  · intro e he
    obtain ⟨before, st, after, s, hsts, hbefore, hst⟩ := exists_refused he
    exact .inr ⟨st, before, after, s, hsts, hbefore, hst⟩
  · have hstart : Reading.start.On P := on_of_place trivial
    have hheads : ∀ st ∈ Statement.ofLexemes body, P st.head.line := fun st hst =>
      hbody _ (mem_of_mem_lexemes hst List.mem_cons_self)
    have hend := on_readStatements (Statement.unbroken_ofLexemes body) hheads hstart hs
    exact (fails_finish hlast hend).imp fun e he => .inl he

/-- Lexemes are refused for the shape of the definition, for a statement or for the manifest. -/
theorem fails_readLexemes (hfirst : P 1) (hls : ∀ l ∈ ls, P l.line) :
    Fails (fun e => e.OfShape P ∨ (∃ st, IsRefused ls st e) ∨ ∃ m, e = .manifest m)
      (readLexemes ls) := by
  have hlast := on_lastLine hfirst hls
  have hfront : ∀ l ∈ ls.dropWhile (·.lexeme = .newline), P l.line :=
    fun l hl => hls l ((List.dropWhile_sublist _).mem hl)
  refine ((fails_readOpeningLine hlast hfront).imp fun e he => .inl he).bind fun p hp => ?_
  obtain ⟨token, body⟩ := p
  have hopening : readOpening ls = .ok (token, body) := hp
  have hbody : ∀ l ∈ body, P l.line := fun l hl => hls l (mem_of_readOpening hopening hl)
  refine Fails.bind ?_ fun q _ => fails_mapError fun m _ => .inr (.inr ⟨m, rfl⟩)
  refine (fails_readBody hlast hbody).imp fun e he => ?_
  rcases he with hshape | ⟨st, hst⟩
  · exact .inl hshape
  · exact .inr (.inl ⟨st, token, body, hopening, hst⟩)

/-- A text is refused by the scan or for its lexemes. -/
lemma parse_eq_error {src : String} (h : parse src = .error e) :
    (∃ fault, Lexeme.scan src = .error fault ∧ e = .scan fault) ∨
      ∃ ls, Lexeme.scan src = .ok ls ∧ readLexemes ls = .error e := by
  rw [parse_eq] at h
  cases hscan : Lexeme.scan src with
  | error fault =>
    rw [hscan] at h
    exact .inl ⟨fault, rfl, (Except.error.inj h).symm⟩
  | ok ls =>
    rw [hscan] at h
    exact .inr ⟨ls, rfl, h⟩

end Definition

end CaskAudit
