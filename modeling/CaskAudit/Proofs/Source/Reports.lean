import CaskAudit.Proofs.Lexeme.Positions
import CaskAudit.Proofs.Source.Refusals

/-!
# The lines of reports

A reader takes the line of an error from a lexeme that it has at hand, from one that it has kept
(the `if` of an open conditional, the statement that opened a skipped block, the beginning of a
comparison), or from the last lexeme of the text. So whatever holds of the lines of all lexemes,
and of the first line of a text without lexemes, holds of the line of every error
(`Guard.fails_ofLexemes`, `Definition.Refuses.on`), and lexemes are on lines of the text.

An error about a value comes from no reader but that of a stanza, so that the statement which is
refused tells what is invalid (`Definition.IsRefused`, `Stanza.Rejects`).
-/

namespace CaskAudit

variable {P : Nat → Prop}

/-! ## Guards -/

namespace Guard

/-- The comparison that has to go on begins on a line with a property. -/
def Expected.On (P : Nat → Prop) : Expected → Prop
  | .operand => True
  | .connective => True
  | .comparison line => P line
  | .release line _ => P line

/-- A guard is read on, or refused, on lines with a property. -/
def Keeps (P : Nat → Prop) : Except ReadError Reading → Prop
  | .ok s => s.expected.On P
  | .error e => P e.line

variable {s : Reading} {l : Placed} {ls : List Placed} {line : Nat}

/-- A path begins a comparison on its own line. -/
lemma keeps_readTerm (hline : P line) (s : Reading) (path : String) :
    Keeps P (readTerm s line path) := by
  unfold readTerm
  split
  · exact hline
  · split
    · exact hline
    · split
      · exact trivial
      · exact hline

/-- An operand is refused on the line of the lexeme that should begin it. -/
lemma keeps_readOperand (hs : s.expected.On P) (hl : P l.line) : Keeps P (readOperand s l) := by
  unfold readOperand
  split
  · exact hs
  · exact trivial
  · exact keeps_readTerm hl s _
  · exact hl

/-- After an operand, a guard is refused on the line of the lexeme at hand. -/
lemma keeps_readConnective (s : Reading) (hl : P l.line) : Keeps P (readConnective s l) := by
  unfold readConnective
  split
  · exact trivial
  · exact trivial
  · exact trivial
  · exact hl
  · exact hl

/-- A lexeme is refused on its own line, or on that of the comparison that it should go on with. -/
lemma keeps_readNext (hs : s.expected.On P) (hl : P l.line) : Keeps P (readNext s l) := by
  have hoperand := keeps_readOperand hs hl
  unfold readNext
  cases hexpected : s.expected with
  | operand => exact hoperand
  | connective => exact keeps_readConnective s hl
  | comparison line =>
    rw [hexpected] at hs
    dsimp only
    split
    · exact hs
    · exact hs
  | release line op =>
    rw [hexpected] at hs
    dsimp only
    split
    · exact trivial
    · exact hs

/-- Lexemes are refused on lines with a property, if they are on such lines. -/
lemma keeps_readAll (hs : s.expected.On P) (hls : ∀ l ∈ ls, P l.line) :
    Keeps P (readAll s ls) := by
  induction ls generalizing s with
  | nil => exact hs
  | cons l ls ih =>
    have hnext := keeps_readNext hs (hls l List.mem_cons_self)
    rw [readAll]
    cases hread : readNext s l with
    | error e =>
      rw [hread] at hnext
      exact hnext
    | ok t =>
      rw [hread] at hnext
      exact ih hnext fun l hl => hls l (List.mem_cons_of_mem _ hl)

/-- A guard is refused on its first line or on that of one of its lexemes. -/
theorem fails_ofLexemes (hline : P line) (hls : ∀ l ∈ ls, P l.line) :
    Fails (fun e => P e.line) (ofLexemes line ls) := by
  have hstart : Reading.start.expected.On P := trivial
  have hread := keeps_readAll hstart hls
  unfold ofLexemes
  cases hall : readAll .start ls with
  | error e =>
    rw [hall] at hread
    exact fails_error hread
  | ok s =>
    dsimp only
    unfold finish
    split
    · exact fails_ok _
    · exact fails_error hline

end Guard

/-! ## Errors -/

namespace SourceError

/-- The line that an error is about, where it is about one. -/
def line? : SourceError → Option Nat
  | .scan e => some e.line
  | .guard e => some e.line
  | .definition line _ => some line
  | .document line _ => some line
  | .template line _ => some line
  | .digest line _ => some line
  | .version line _ => some line
  | .unreadable _ _ => none
  | .unsupportedFormat _ => none
  | .malformedDocument => none
  | .manifest _ => none

/-- The report of an error begins with the line that the error is about. -/
lemma message_eq_onLine (e : SourceError) {line : Nat} (h : e.line? = some line) :
    ∃ text, e.message = onLine line text := by
  cases e with
  | unreadable | unsupportedFormat | malformedDocument | manifest => cases h
  | _ =>
    obtain rfl := Option.some.inj h
    exact ⟨_, rfl⟩

/-- The line that an error is about has a property. -/
def On (P : Nat → Prop) (e : SourceError) : Prop := ∀ line, e.line? = some line → P line

/-- An error is about a value that a stanza gives. -/
def OfValue : SourceError → Prop
  | .version _ _ => True
  | .digest _ _ => True
  | .template _ _ => True
  | _ => False

lemma OfShape.on {e : SourceError} (h : e.OfShape P) : e.On P := by
  obtain ⟨line, fault, hline, rfl⟩ := h
  rintro n hn
  obtain rfl := Option.some.inj hn
  exact hline

lemma OfShape.not_ofValue {e : SourceError} (h : e.OfShape P) : ¬e.OfValue := by
  obtain ⟨line, fault, -, rfl⟩ := h
  exact id

end SourceError

/-- A stanza is refused on its first line. -/
lemma Stanza.Rejects.line? {s : Stanza} {e : SourceError} (h : s.Rejects e) :
    e.line? = some s.line := by
  cases h with
  | shape => rfl
  | version => rfl
  | checksum => rfl
  | checkpoint => rfl
  | template => rfl

namespace Definition

variable {st : Statement} {e : SourceError}

/-- A statement is refused on the line of one of its lexemes. -/
lemma Refuses.on (h : Refuses st e) (hst : ∀ l ∈ st.lexemes, P l.line) : e.On P := by
  have hhead := hst _ List.mem_cons_self
  have htail : ∀ l ∈ st.tail, P l.line := fun l hl => hst l (List.mem_cons_of_mem _ hl)
  intro n hn
  cases h with
  | head fault =>
    obtain rfl := Option.some.inj hn
    exact hhead
  | tail hl fault =>
    obtain rfl := Option.some.inj hn
    exact htail _ hl
  | guard he =>
    obtain rfl := Option.some.inj hn
    exact Guard.fails_ofLexemes hhead htail _ he
  | stanza hw he =>
    obtain rfl := Option.some.inj (he.line?.symm.trans hn)
    exact hhead

/-- An error is about a line of the text. -/
lemma on_of_parse_eq_error {src : String} (h : parse src = .error e) :
    e.On (Lexeme.IsLineOf src.toList) := by
  rcases parse_eq_error h with ⟨fault, hscan, rfl⟩ | ⟨ls, hscan, hread⟩
  · intro line hline
    obtain rfl := Option.some.inj hline
    exact Lexeme.isLineOf_of_scan_eq_error hscan
  · have hfirst : Lexeme.IsLineOf src.toList 1 := Lexeme.isLineOf_lineAfter [] src.toList
    have hls := Lexeme.isLineOf_of_scan hscan
    rcases fails_readLexemes hfirst hls e hread with hshape | ⟨st, hst⟩ | ⟨m, rfl⟩
    · exact hshape.on
    · exact hst.refuses.on fun l hl => hls l (hst.mem hl)
    · nofun

/-- An error about a value is that of a statement which is a stanza with an invalid value. -/
lemma exists_stanza_of_ofValue {src : String} (h : parse src = .error e) (hvalue : e.OfValue) :
    ∃ ls st kind, Lexeme.scan src = .ok ls ∧ IsRefused ls st e ∧ st.head ∈ ls ∧
      st.head.lexeme = .word (Stanza.Kind.word kind) ∧
      Stanza.Rejects ⟨kind, st.head.line, st.tail⟩ e := by
  rcases parse_eq_error h with ⟨fault, hscan, rfl⟩ | ⟨ls, hscan, hread⟩
  · exact hvalue.elim
  · have hfails : Fails _ (readLexemes ls) :=
      fails_readLexemes (P := fun _ => True) trivial fun _ _ => trivial
    rcases hfails e hread with hshape | ⟨st, hst⟩ | ⟨m, rfl⟩
    · exact absurd hvalue hshape.not_ofValue
    · have hhead := hst.mem (l := st.head) List.mem_cons_self
      cases hst.refuses with
      | head fault => exact hvalue.elim
      | tail hl fault => exact hvalue.elim
      | guard he => exact hvalue.elim
      | stanza hw he => exact ⟨ls, st, _, hscan, hst, hhead, hw, he⟩
    · exact hvalue.elim

/-- Lines point at the source. Every lexeme of a text is on the line of the first character of its
spelling, and a scan that stops tells the line of the character that begins no lexeme, which is the
opening quote where a string is not closed. An error about a line is reported with it, and it is a
line of the text; one about a version, a digest or a template is on the line of the first lexeme of
the stanza that gives the invalid value. -/
theorem reports_point_at_source (src : String) :
    (∀ ls, Lexeme.scan src = .ok ls →
      ∃ pieces gap, Lexeme.Cuts src.toList pieces gap [] ∧ ls = Lexeme.located [] pieces) ∧
    (∀ e, Lexeme.scan src = .error e →
      ∃ pieces gap c rest, Lexeme.Cuts src.toList pieces gap (c :: rest) ∧
        Lexeme.Offends c rest e.fault ∧ e.line = Lexeme.lineAfter (Lexeme.written pieces ++ gap)) ∧
    (∀ e line, parse src = .error e → e.line? = some line →
      (∃ text, e.message = onLine line text) ∧ 1 ≤ line ∧ line ≤ 1 + src.toList.count '\n') ∧
    ∀ e, parse src = .error e → e.OfValue →
      ∃ ls st kind, Lexeme.scan src = .ok ls ∧ IsRefused ls st e ∧ st.head ∈ ls ∧
        st.head.lexeme = .word (Stanza.Kind.word kind) ∧ e.line? = some st.head.line ∧
        Stanza.Rejects ⟨kind, st.head.line, st.tail⟩ e := by
  refine ⟨fun ls h => Lexeme.exists_pieces_of_scan h,
    fun e h => Lexeme.exists_pieces_of_scan_eq_error h,
    fun e line h hline => ⟨e.message_eq_onLine hline, on_of_parse_eq_error h line hline⟩,
    fun e h hvalue => ?_⟩
  obtain ⟨ls, st, kind, hscan, hst, hhead, hword, hrejects⟩ := exists_stanza_of_ofValue h hvalue
  exact ⟨ls, st, kind, hscan, hst, hhead, hword, hrejects.line?, hrejects⟩

/-- A definition with a checkpoint that is no digest, in a stanza of two lines behind a comment and
a string with an escaped line break. -/
def brokenCheckpoint : String :=
  "# a\ncask 'x' do\nname 'a\\\nb'\nappcast 'u',\ncheckpoint: 'z'\nend"

/-- A string that is not closed behind another of two lines. -/
def unclosedString : String := "'a\nb' \"c"

/-- A checkpoint that is no digest is reported in the line of its stanza, and a string that is not
closed in the line in which it begins. -/
theorem reports_point_at_source_checkpoint :
    (∃ ls pieces gap, Lexeme.scan brokenCheckpoint = .ok ls ∧ ⟨.word "appcast", 5⟩ ∈ ls ∧
      Lexeme.Cuts brokenCheckpoint.toList pieces gap [] ∧ ls = Lexeme.located [] pieces) ∧
    (∃ pieces gap c rest, Lexeme.scan unclosedString = .error ⟨2, .unterminatedString⟩ ∧
      Lexeme.Cuts unclosedString.toList pieces gap (c :: rest) ∧
      Lexeme.Offends c rest .unterminatedString ∧
      2 = Lexeme.lineAfter (Lexeme.written pieces ++ gap)) ∧
    ∃ e, parse brokenCheckpoint = .error (.digest 5 e) ∧
      (∃ text, (SourceError.digest 5 e).message = onLine 5 text) ∧ 1 ≤ 5 ∧ 5 ≤ 7 ∧
      ∃ ls st kind, Lexeme.scan brokenCheckpoint = .ok ls ∧ IsRefused ls st (.digest 5 e) ∧
        st.head ∈ ls ∧ st.head.lexeme = .word (Stanza.Kind.word kind) ∧
        some 5 = some st.head.line ∧
          Stanza.Rejects ⟨kind, st.head.line, st.tail⟩ (.digest 5 e) := by
  have hscan : Lexeme.scan brokenCheckpoint =
      .ok [⟨.newline, 1⟩, ⟨.word "cask", 2⟩, ⟨.text "x", 2⟩, ⟨.word "do", 2⟩, ⟨.newline, 2⟩,
        ⟨.word "name", 3⟩, ⟨.text "a\nb", 3⟩, ⟨.newline, 4⟩, ⟨.word "appcast", 5⟩, ⟨.text "u", 5⟩,
        ⟨.comma, 5⟩, ⟨.newline, 5⟩, ⟨.key "checkpoint", 6⟩, ⟨.text "z", 6⟩, ⟨.newline, 6⟩,
        ⟨.word "end", 7⟩] := by
    decide +kernel
  have hunclosed : Lexeme.scan unclosedString = .error ⟨2, .unterminatedString⟩ := by
    decide +kernel
  have hparse : parse brokenCheckpoint = .error (.digest 5 (.length 1 "z")) := by
    have hread : (parse brokenCheckpoint).map (fun _ => ()) =
        .error (.digest 5 (.length 1 "z")) := by
      decide +kernel
    cases hm : parse brokenCheckpoint with
    | ok m =>
      rw [hm] at hread
      cases hread
    | error e =>
      rw [hm] at hread
      obtain rfl := Except.error.inj hread
      rfl
  obtain ⟨hpieces, -, hlines, hvalues⟩ := reports_point_at_source brokenCheckpoint
  obtain ⟨pieces, gap, hcuts, hlocated⟩ := hpieces _ hscan
  obtain ⟨pieces', gap', c, rest, hcuts', hoffends, hline⟩ :=
    (reports_point_at_source unclosedString).2.1 _ hunclosed
  refine ⟨⟨_, pieces, gap, hscan, by decide, hcuts, hlocated⟩,
    ⟨pieces', gap', c, rest, hunclosed, hcuts', hoffends, hline⟩, _, hparse, ?_⟩
  obtain ⟨hmessage, hfirst, hlast⟩ := hlines _ _ hparse rfl
  exact ⟨hmessage, hfirst, hlast, hvalues _ hparse trivial⟩

end Definition

end CaskAudit
