import CaskAudit.Proofs.Results
import CaskAudit.Source.Definition

/-!
# Lines do not decide anything

The lines of lexemes are looked at for reports alone. `Placed.unlined` moves a lexeme to line zero,
and so do its namesakes with what holds lexemes and lines: statements, the states of the readers,
errors. What is read from lexemes on line zero is what is read from the lexemes where they stand,
apart from the lines in it; this is shown for each reader, from the one of guards
(`Guard.ofLexemes_unlined`) over those of stanzas and statements (`Stanza.declare_unlined`,
`readStatement_unlined`) to the one of definitions. So two lists of the same lexemes give the same
manifest, or errors that differ in nothing but the line (`readLexemes_congr`).
-/

namespace CaskAudit

/-- A lexeme on line zero. -/
def Placed.unlined (l : Placed) : Placed := ⟨l.lexeme, 0⟩

@[simp] lemma Placed.lexeme_unlined (l : Placed) : l.unlined.lexeme = l.lexeme := rfl

/-- Lexemes that stand on line zero. -/
def bare (ls : List Lexeme) : List Placed := ls.map fun l => ⟨l, 0⟩

@[simp] lemma map_lexeme_bare (ls : List Lexeme) : (bare ls).map Placed.lexeme = ls := by
  rw [bare, List.map_map]
  exact List.map_id ls

/-- On line zero, lexemes are all that there is. -/
lemma map_unlined (ls : List Placed) : ls.map Placed.unlined = bare (ls.map Placed.lexeme) := by
  rw [bare, List.map_map]
  rfl

/-! ## Guards -/

namespace Guard

/-- A fault on line zero. -/
def ReadError.unlined (e : ReadError) : ReadError := ⟨0, e.fault⟩

/-- What is expected, for a comparison that begins on line zero. -/
def Expected.unlined : Expected → Expected
  | operand => operand
  | connective => connective
  | comparison _ => comparison 0
  | release _ op => release 0 op

/-- A guard that is being read on line zero. -/
def Reading.unlined (s : Reading) : Reading := { s with expected := s.expected.unlined }

/-- A path is taken alike on every line. -/
lemma readTerm_unlined (s : Reading) (line : Nat) (path : String) :
    readTerm s.unlined 0 path =
      ((readTerm s line path).map Reading.unlined).mapError ReadError.unlined := by
  unfold readTerm
  split
  · rfl
  · split
    · rfl
    · split <;> rfl

/-- A lexeme is taken alike on every line. -/
lemma readNext_unlined (s : Reading) (l : Placed) :
    readNext s.unlined l.unlined =
      ((readNext s l).map Reading.unlined).mapError ReadError.unlined := by
  obtain ⟨level, waiting, expected⟩ := s
  cases expected with
  | operand =>
    change readOperand _ l.unlined = ((readOperand _ l).map _).mapError _
    unfold readOperand
    rw [Placed.lexeme_unlined]
    cases l.lexeme with
    | word path => exact readTerm_unlined _ l.line path
    | operator op => cases op <;> rfl
    | _ => rfl
  | connective =>
    change readConnective _ l.unlined = ((readConnective _ l).map _).mapError _
    unfold readConnective
    rw [Placed.lexeme_unlined]
    cases l.lexeme with
    | operator op => cases op <;> cases waiting <;> rfl
    | _ => cases waiting <;> rfl
  | comparison line =>
    simp only [readNext, Reading.unlined, Expected.unlined, Placed.lexeme_unlined]
    cases comparison? l.lexeme <;> rfl
  | release line op =>
    simp only [readNext, Reading.unlined, Expected.unlined, Placed.lexeme_unlined]
    cases releaseName? l.lexeme <;> rfl

/-- Lexemes are taken alike on every line. -/
lemma readAll_unlined (s : Reading) (ls : List Placed) :
    readAll s.unlined (ls.map Placed.unlined) =
      ((readAll s ls).map Reading.unlined).mapError ReadError.unlined := by
  induction ls generalizing s with
  | nil => rfl
  | cons l ls ih =>
    rw [List.map_cons, readAll, readNext_unlined, readAll]
    cases readNext s l with
    | error e => rfl
    | ok s' => exact ih s'

/-- Lexemes form the same guard on every line. -/
lemma ofLexemes_unlined (line : Nat) (ls : List Placed) :
    ofLexemes 0 (ls.map Placed.unlined) = (ofLexemes line ls).mapError ReadError.unlined := by
  have hstart : Reading.start = Reading.start.unlined := rfl
  rw [ofLexemes, hstart, readAll_unlined, ofLexemes]
  cases readAll .start ls with
  | error e => rfl
  | ok s =>
    obtain ⟨level, waiting, expected⟩ := s
    cases expected <;> cases waiting <;> rfl

end Guard

/-! ## Stanzas -/

/-- An error on line zero. -/
def SourceError.unlined : SourceError → SourceError
  | .scan e => .scan ⟨0, e.fault⟩
  | .guard e => .guard e.unlined
  | .definition _ fault => .definition 0 fault
  | .document _ fault => .document 0 fault
  | .template _ e => .template 0 e
  | .digest _ e => .digest 0 e
  | .version _ e => .version 0 e
  | e => e

/-- An error on line zero stays there. -/
@[simp] lemma SourceError.unlined_unlined (e : SourceError) : e.unlined.unlined = e.unlined := by
  cases e <;> rfl

/-- Results that agree but for the lines of errors give the same values. -/
lemma eq_ok_of_unlined {α : Type} {x y : Except SourceError α} {a : α}
    (h : x.mapError SourceError.unlined = y.mapError SourceError.unlined) (hx : x = .ok a) :
    y = .ok a := by
  rw [hx] at h
  cases y with
  | error e => cases h
  | ok b =>
    cases h
    rfl

namespace Stanza

/-- A stanza on line zero. -/
def unlined (s : Stanza) : Stanza := ⟨s.kind, 0, s.args.map Placed.unlined⟩

variable (s : Stanza)

/-- The first argument is the same on every line. -/
lemma head?_unlined : s.unlined.args.head?.map Placed.lexeme = s.args.head?.map Placed.lexeme := by
  rw [unlined, List.head?_map, Option.map_map]
  rfl

lemma text_unlined : s.unlined.text = s.text.mapError SourceError.unlined := by
  unfold text
  rw [head?_unlined]
  split <;> rfl

lemma truth_unlined : s.unlined.truth = s.truth.mapError SourceError.unlined := by
  unfold truth
  rw [head?_unlined]
  split <;> rfl

/-- A key is followed by the same lexeme on every line. -/
lemma keyword?_unlined (key : String) (ls : List Placed) :
    keyword? key (ls.map Placed.unlined) = keyword? key ls := by
  induction ls with
  | nil => rfl
  | cons l ls ih =>
    cases ls with
    | nil => rfl
    | cons l' ls =>
      rw [List.map_cons, List.map_cons] at *
      rw [keyword?, keyword?, ih]
      rfl

lemma checkpoint_unlined : s.unlined.checkpoint = s.checkpoint.mapError SourceError.unlined := by
  unfold checkpoint
  have hargs : s.unlined.args = s.args.map Placed.unlined := rfl
  rw [hargs, keyword?_unlined]
  split
  · rw [mapError_mapError]
    rfl
  · rfl
  · rfl

lemma template_unlined (source : String) :
    s.unlined.template source = (s.template source).mapError SourceError.unlined := by
  rw [template, template, mapError_mapError]
  rfl

lemma once_unlined {α : Type} (old : Option α) (value : α) :
    s.unlined.once old value = (s.once old value).mapError SourceError.unlined := by
  unfold once
  split <;> rfl

/-- A stanza declares the same on every line. -/
lemma declare_unlined (d : Declarations) :
    s.unlined.declare d = (s.declare d).mapError SourceError.unlined := by
  have hkind : s.unlined.kind = s.kind := rfl
  unfold declare
  rw [hkind]
  cases s.kind <;>
    simp only [bind, mapError_bind, mapError_mapError, text_unlined, truth_unlined,
      checkpoint_unlined, template_unlined, once_unlined] <;> rfl

end Stanza

/-! ## Statements -/

namespace Statement

/-- A statement on line zero. -/
def unlined (st : Statement) : Statement := ⟨st.head.unlined, st.tail.map Placed.unlined⟩

/-- A statement so far ends with a comma or not, on every line. -/
lemma endsWithComma_unlined (head : Placed) (read : List Placed) :
    endsWithComma head.unlined (read.map Placed.unlined) = endsWithComma head read := by
  cases read <;> rfl

mutual

/-- Lexemes are grouped alike on every line. -/
lemma ofLexemes_unlined (ls : List Placed) :
    ofLexemes (ls.map Placed.unlined) = (ofLexemes ls).map unlined := by
  cases ls with
  | nil => rfl
  | cons l ls =>
    rw [List.map_cons, ofLexemes, ofLexemes, Placed.lexeme_unlined]
    split
    · exact ofLexemes_unlined ls
    · exact continued_unlined l [] _ ls

/-- A statement goes on alike on every line. -/
lemma continued_unlined (head : Placed) (read : List Placed) (depth : Int) (ls : List Placed) :
    continued head.unlined (read.map Placed.unlined) depth (ls.map Placed.unlined) =
      (continued head read depth ls).map unlined := by
  cases ls with
  | nil =>
    rw [List.map_nil, continued, continued, ← List.map_reverse]
    rfl
  | cons l ls =>
    rw [List.map_cons, continued, continued, Placed.lexeme_unlined, endsWithComma_unlined]
    split
    · split
      · exact continued_unlined head read depth ls
      · rw [ofLexemes_unlined, ← List.map_reverse]
        rfl
    · exact continued_unlined head (l :: read) _ ls

end

end Statement

/-! ## Definitions -/

namespace Definition

/-- A lexeme is a word or not, on every line. -/
lemma isWord_unlined (word : String) (l : Placed) : isWord word l.unlined = isWord word l := rfl

/-- Lexemes open a block or not, on every line. -/
lemma opensBlock_unlined (ls : List Placed) :
    opensBlock (ls.map Placed.unlined) = opensBlock ls := by
  rw [opensBlock, List.any_map]
  rfl

/-- A conditional on line zero. -/
def Chain.unlined (c : Chain) : Chain := { c with line := 0 }

/-- A place in a text on line zero. -/
def Place.unlined : Place → Place
  | .block => .block
  | .branch c => .branch c.unlined
  | .afterBlock => .afterBlock

/-- What has been said, on line zero. -/
def Reading.unlined (s : Reading) : Reading :=
  { s with place := s.place.unlined, skipping := s.skipping.map fun p => (0, p.2) }

/-- A condition gives the same guard on every line. -/
lemma readCondition_unlined (line : Nat) (tail : List Placed) :
    readCondition 0 (tail.map Placed.unlined) =
      (readCondition line tail).mapError SourceError.unlined := by
  rw [readCondition, readCondition, List.isEmpty_map]
  split
  · rfl
  · rw [Guard.ofLexemes_unlined line, mapError_mapError, mapError_mapError]
    rfl

/-- What goes on after a statement is refused on every line. -/
lemma expectLineEnd_unlined (line : Nat) (ls : List Placed) :
    expectLineEnd 0 (ls.map Placed.unlined) =
      ((expectLineEnd line ls).map (List.map Placed.unlined)).mapError SourceError.unlined := by
  cases ls with
  | nil => rfl
  | cons l ls =>
    rw [List.map_cons, expectLineEnd, expectLineEnd, Placed.lexeme_unlined]
    split <;> rfl

/-- A statement that begins with a word is taken alike on every line. -/
lemma readStanza_unlined (s : Reading) (d : Declarations) (line : Nat) (word : String)
    (tail : List Placed) {put put' : Declarations → Reading}
    (hput : ∀ d, put' d = (put d).unlined) :
    readStanza s.unlined d 0 word (tail.map Placed.unlined) put' =
      ((readStanza s d line word tail put).map Reading.unlined).mapError SourceError.unlined := by
  unfold readStanza
  split
  · next kind _ =>
    have hdeclare := Stanza.declare_unlined ⟨kind, line, tail⟩ d
    rw [Stanza.unlined] at hdeclare
    rw [hdeclare]
    cases Stanza.declare ⟨kind, line, tail⟩ d with
    | error e => rfl
    | ok d' => exact congrArg Except.ok (hput d')
  · rw [opensBlock_unlined]
    split <;> rfl

/-- A statement of the block begins a stanza unless it begins with a word of the conditional or with
the end. -/
lemma readInBlock_word {w : String} (hw : w ∉ ["end", "if", "unless"]) (s : Reading) (line : Nat)
    (tail : List Placed) :
    readInBlock s ⟨⟨.word w, line⟩, tail⟩ =
      readStanza s s.outer line w tail fun d => { s with outer := d } := by
  unfold readInBlock
  dsimp only
  split
  · next h => simp [Lexeme.word.inj h] at hw
  · next h => simp [Lexeme.word.inj h] at hw
  · next h => simp [Lexeme.word.inj h] at hw
  · next h => rw [Lexeme.word.inj h]
  · next h => exact absurd rfl (h w)

/-- A statement of a branch begins a stanza unless it begins with a word of the conditional. -/
lemma readInBranch_word {w : String} (hw : w ∉ ["end", "elsif", "else", "if", "unless"])
    (s : Reading) (c : Chain) (line : Nat) (tail : List Placed) :
    readInBranch s c ⟨⟨.word w, line⟩, tail⟩ =
      readStanza s c.body line w tail fun d =>
        { s with place := .branch { c with body := d } } := by
  unfold readInBranch
  dsimp only
  split
  · next h => simp [Lexeme.word.inj h] at hw
  · next h => simp [Lexeme.word.inj h] at hw
  · next h => simp [Lexeme.word.inj h] at hw
  · next h => simp [Lexeme.word.inj h] at hw
  · next h => simp [Lexeme.word.inj h] at hw
  · next h => rw [Lexeme.word.inj h]
  · next h => exact absurd rfl (h w)

/-- A statement of the block is taken alike on every line. -/
lemma readInBlock_unlined (s : Reading) (st : Statement) :
    readInBlock s.unlined st.unlined =
      ((readInBlock s st).map Reading.unlined).mapError SourceError.unlined := by
  obtain ⟨⟨l, line⟩, tail⟩ := st
  change readInBlock s.unlined ⟨⟨l, 0⟩, tail.map Placed.unlined⟩ = _
  cases l with
  | word w =>
    by_cases hw : w ∈ ["end", "if", "unless"]
    · simp only [List.mem_cons, List.not_mem_nil, or_false] at hw
      rcases hw with rfl | rfl | rfl
      · cases tail <;> rfl
      · change (if s.clauses.isSome then _ else (readCondition 0 _).bind _) =
          ((if s.clauses.isSome then _ else (readCondition line tail).bind _).map _).mapError _
        rw [readCondition_unlined line]
        split
        · rfl
        · cases readCondition line tail <;> rfl
      · rfl
    · rw [readInBlock_word hw, readInBlock_word hw]
      exact readStanza_unlined s s.outer line w tail fun d => rfl
  | _ => rfl

/-- A statement of a branch is taken alike on every line. -/
lemma readInBranch_unlined (s : Reading) (c : Chain) (st : Statement) :
    readInBranch s.unlined c.unlined st.unlined =
      ((readInBranch s c st).map Reading.unlined).mapError SourceError.unlined := by
  obtain ⟨⟨l, line⟩, tail⟩ := st
  change readInBranch s.unlined c.unlined ⟨⟨l, 0⟩, tail.map Placed.unlined⟩ = _
  cases l with
  | word w =>
    by_cases hw : w ∈ ["end", "elsif", "else", "if", "unless"]
    · simp only [List.mem_cons, List.not_mem_nil, or_false] at hw
      rcases hw with rfl | rfl | rfl | rfl | rfl
      · change (expectLineEnd 0 _).bind _ = (((expectLineEnd line tail).bind _).map _).mapError _
        rw [expectLineEnd_unlined line]
        cases expectLineEnd line tail <;> rfl
      · change (if c.condition.isNone then _ else (readCondition 0 _).bind _) =
          ((if c.condition.isNone then _ else (readCondition line tail).bind _).map _).mapError _
        rw [readCondition_unlined line]
        split
        · rfl
        · cases readCondition line tail <;> rfl
      · change (if c.condition.isNone then _ else (expectLineEnd 0 _).bind _) =
          ((if c.condition.isNone then _ else (expectLineEnd line tail).bind _).map _).mapError _
        rw [expectLineEnd_unlined line]
        split
        · rfl
        · cases expectLineEnd line tail <;> rfl
      · rfl
      · rfl
    · rw [readInBranch_word hw, readInBranch_word hw]
      exact readStanza_unlined s c.body line w tail fun d => rfl
  | _ => rfl

/-- A statement leaves the same number of open blocks on every line. -/
lemma openBlocks_unlined (depth : Nat) (st : Statement) :
    openBlocks depth st.unlined = openBlocks depth st := by
  have hlexemes : st.unlined.head :: st.unlined.tail =
      (st.head :: st.tail).map Placed.unlined := rfl
  unfold openBlocks
  rw [hlexemes, opensBlock_unlined]
  rfl

/-- A statement is taken alike on every line. -/
lemma readStatement_unlined (s : Reading) (st : Statement) :
    readStatement s.unlined st.unlined =
      ((readStatement s st).map Reading.unlined).mapError SourceError.unlined := by
  obtain ⟨outer, clauses, place, skipping⟩ := s
  cases skipping with
  | none =>
    cases place with
    | block => exact readInBlock_unlined _ st
    | branch c => exact readInBranch_unlined _ c st
    | afterBlock => rfl
  | some p =>
    change Except.ok _ = Except.ok _
    rw [openBlocks_unlined]
    dsimp only
    split <;> rfl

/-- Statements are taken alike on every line. -/
lemma readStatements_unlined (s : Reading) (sts : List Statement) :
    readStatements s.unlined (sts.map Statement.unlined) =
      ((readStatements s sts).map Reading.unlined).mapError SourceError.unlined := by
  induction sts generalizing s with
  | nil => rfl
  | cons st sts ih =>
    rw [List.map_cons, readStatements, readStatement_unlined, readStatements]
    cases readStatement s st with
    | error e => rfl
    | ok s' => exact ih s'

/-- A text ends alike on every line. -/
lemma finish_unlined (last last' : Nat) (s : Reading) :
    (finish last' s.unlined).mapError SourceError.unlined =
      (finish last s).mapError SourceError.unlined := by
  obtain ⟨outer, clauses, place, skipping⟩ := s
  cases skipping with
  | none => cases place <;> cases clauses <;> rfl
  | some p => rfl

/-- Results that go on are alike if they are and go on alike. -/
lemma bind_unlined {α β γ δ : Type} {x : Except SourceError α} {y : Except SourceError β}
    {f : β → α} {g : α → Except SourceError γ} {h : β → Except SourceError δ} {k : δ → γ}
    (hxy : x.mapError SourceError.unlined = (y.map f).mapError SourceError.unlined)
    (hgh : ∀ b, (g (f b)).mapError SourceError.unlined =
      ((h b).map k).mapError SourceError.unlined) :
    (x.bind g).mapError SourceError.unlined =
      ((y.bind h).map k).mapError SourceError.unlined := by
  rw [mapError_bind, hxy]
  cases y with
  | error e => rfl
  | ok b => exact hgh b

/-- A word that has to come next comes or not, on every line. -/
lemma expectWord_unlined (word : String) (last last' : Nat) (ls : List Placed) :
    (expectWord word last' (ls.map Placed.unlined)).mapError SourceError.unlined =
      ((expectWord word last ls).map fun p => (0, p.2.map Placed.unlined)).mapError
        SourceError.unlined := by
  cases ls with
  | nil => rfl
  | cons l ls =>
    rw [List.map_cons, expectWord, expectWord, isWord_unlined]
    split <;> rfl

/-- The token of the cask comes next or not, on every line. -/
lemma expectToken_unlined (line : Nat) (ls : List Placed) :
    (expectToken 0 (ls.map Placed.unlined)).mapError SourceError.unlined =
      ((expectToken line ls).map fun p => (p.1, p.2.map Placed.unlined)).mapError
        SourceError.unlined := by
  cases ls with
  | nil => rfl
  | cons l ls =>
    obtain ⟨lexeme, line'⟩ := l
    cases lexeme <;> rfl

/-- Takes the line that opens the definition, of a text with a last line, where the text begins with
that line. -/
def readOpeningLine (last : Nat) (ls : List Placed) :
    Except SourceError (String × List Placed) :=
  (expectWord "cask" last ls).bind fun p => (expectToken p.1 p.2).bind fun q =>
    (expectWord "do" last q.2).bind fun r => (expectLineEnd p.1 r.2).bind fun ls => .ok (q.1, ls)

/-- The line that opens the definition comes after line breaks. -/
lemma readOpening_eq (ls : List Placed) :
    readOpening ls = readOpeningLine (lastLine ls) (ls.dropWhile (·.lexeme = .newline)) := rfl

/-- The opening line gives the same token on every line. -/
lemma readOpeningLine_unlined (last last' : Nat) (ls : List Placed) :
    (readOpeningLine last' (ls.map Placed.unlined)).mapError SourceError.unlined =
      ((readOpeningLine last ls).map fun p => (p.1, p.2.map Placed.unlined)).mapError
        SourceError.unlined := by
  refine bind_unlined (expectWord_unlined "cask" last last' ls) fun p => ?_
  refine bind_unlined (expectToken_unlined p.1 p.2) fun q => ?_
  refine bind_unlined (expectWord_unlined "do" last last' q.2) fun r => ?_
  refine bind_unlined (f := List.map Placed.unlined) ?_ fun ls => rfl
  simp only [expectLineEnd_unlined p.1, mapError_mapError, SourceError.unlined_unlined]

/-- The statements of a definition, read to the end. -/
def readBody (last : Nat) (body : List Placed) : Except SourceError (Declarations × List Clause) :=
  (readStatements .start (Statement.ofLexemes body)).bind (finish last)

/-- The manifest that a definition gives, of a text with a last line, where the text begins with the
opening line. -/
def readDefinition (last : Nat) (ls : List Placed) : Except SourceError Manifest :=
  (readOpeningLine last ls).bind fun p => (readBody last p.2).bind fun q =>
    (Manifest.build p.1 q.1 q.2).mapError .manifest

/-- The manifest that the lexemes of a definition give. -/
def readLexemes (ls : List Placed) : Except SourceError Manifest :=
  readDefinition (lastLine ls) (ls.dropWhile (·.lexeme = .newline))

/-- A text gives what its lexemes do. -/
lemma parse_eq (src : String) :
    parse src = ((Lexeme.scan src).mapError .scan).bind readLexemes := by
  rw [parse]
  cases Lexeme.scan src with
  | error e => rfl
  | ok ls =>
    change (readOpening ls).bind _ = (readOpening ls).bind _
    cases readOpening ls with
    | error e => rfl
    | ok p =>
      change (readStatements _ _).bind _ = ((readStatements _ _).bind _).bind _
      cases readStatements .start (Statement.ofLexemes p.2) <;> rfl

/-- The statements of a definition say the same on every line. -/
lemma readBody_unlined (last last' : Nat) (body : List Placed) :
    (readBody last' (body.map Placed.unlined)).mapError SourceError.unlined =
      (readBody last body).mapError SourceError.unlined := by
  have hstart : Reading.start = Reading.start.unlined := rfl
  rw [readBody, Statement.ofLexemes_unlined, hstart, readStatements_unlined, readBody]
  cases readStatements .start (Statement.ofLexemes body) with
  | error e => exact congrArg Except.error e.unlined_unlined
  | ok s => exact finish_unlined last last' s

/-- A definition gives the same manifest on every line. -/
lemma readDefinition_unlined (last last' : Nat) (ls : List Placed) :
    (readDefinition last' (ls.map Placed.unlined)).mapError SourceError.unlined =
      (readDefinition last ls).mapError SourceError.unlined := by
  rw [readDefinition, mapError_bind, readOpeningLine_unlined last, readDefinition, mapError_bind]
  cases readOpeningLine last ls with
  | error e => rfl
  | ok p =>
    change ((readBody _ (p.2.map Placed.unlined)).bind _).mapError _ =
      Except.mapError _ ((readBody last p.2).bind _)
    rw [mapError_bind, readBody_unlined last, ← mapError_bind]

/-- It does not matter which line is the last. -/
lemma readDefinition_last (last last' : Nat) (ls : List Placed) :
    (readDefinition last ls).mapError SourceError.unlined =
      (readDefinition last' ls).mapError SourceError.unlined := by
  rw [← readDefinition_unlined last 0, readDefinition_unlined last']

/-- Lexemes give the same manifest on every line. -/
lemma readLexemes_unlined (ls : List Placed) :
    (readLexemes (ls.map Placed.unlined)).mapError SourceError.unlined =
      (readLexemes ls).mapError SourceError.unlined := by
  rw [readLexemes, List.dropWhile_map]
  exact readDefinition_unlined _ _ _

/-- The same lexemes on other lines give the same manifest, or an error that differs in nothing but
the line. -/
theorem readLexemes_congr {ls ms : List Placed} (h : ls.map Placed.lexeme = ms.map Placed.lexeme) :
    (readLexemes ls).mapError SourceError.unlined =
      (readLexemes ms).mapError SourceError.unlined := by
  have hunlined : ls.map Placed.unlined = ms.map Placed.unlined := by
    rw [map_unlined, h, ← map_unlined]
  rw [← readLexemes_unlined, hunlined, readLexemes_unlined]

end Definition

end CaskAudit
