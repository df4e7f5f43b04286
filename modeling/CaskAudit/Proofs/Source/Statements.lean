import CaskAudit.Proofs.Guard.Grammar
import CaskAudit.Proofs.Source.Values
import CaskAudit.Source.Definition

/-!
# The statements of a written definition

A row of a definition is a statement, unless a guard in it leaves a bracket open or ends with a
comma. Such a guard goes on with the next row, but it is refused all the same: the grammar derives
only guards that are complete (`Derives.complete`), and no guard goes on with a word that begins a
row (`toOption_ofLexemes_append`). So a guard that stands in a row is accepted exactly if it is
accepted by itself (`toOption_readCondition`).
-/

namespace CaskAudit

/-! ## Where a statement ends -/

namespace Statement

/-- The number of brackets that lexemes leave open. -/
def depth : List Lexeme → Int
  | [] => 0
  | l :: ls => bracketChange l + depth ls

/-- Lexemes one after the other leave open what each of them does. -/
@[simp] lemma depth_append (ls ms : List Lexeme) : depth (ls ++ ms) = depth ls + depth ms := by
  induction ls with
  | nil => simp [depth]
  | cons l ls ih => rw [List.cons_append, depth, ih, depth, Int.add_assoc]

/-- A statement goes on with lexemes that are no line breaks. -/
lemma continued_append {head : Placed} {read : List Placed} {d : Int} {ps : List Placed}
    (h : Lexeme.newline ∉ ps.map Placed.lexeme) (rest : List Placed) :
    continued head read d (ps ++ rest) =
      continued head (ps.reverse ++ read) (d + depth (ps.map Placed.lexeme)) rest := by
  induction ps generalizing read d with
  | nil => simp [depth]
  | cons p ps ih =>
    obtain ⟨hp, hps⟩ : p.lexeme ≠ .newline ∧ Lexeme.newline ∉ ps.map Placed.lexeme := by
      simpa [eq_comm] using h
    rw [List.cons_append, continued, if_neg hp, ih hps]
    simp [depth, Int.add_assoc]

/-- A statement keeps what has been read of it. -/
lemma exists_continued (head : Placed) (read : List Placed) (d : Int) (ps : List Placed) :
    ∃ more sts, continued head read d ps = ⟨head, read.reverse ++ more⟩ :: sts := by
  induction ps generalizing read d with
  | nil => exact ⟨[], [], by rw [continued, List.append_nil]⟩
  | cons p ps ih =>
    rw [continued]
    split
    · split
      · exact ih read d
      · exact ⟨[], ofLexemes ps, by rw [List.append_nil]⟩
    · obtain ⟨more, sts, h⟩ := ih (p :: read) (d + bracketChange p.lexeme)
      exact ⟨p :: more, sts, by rw [h]; simp⟩

variable {head nl : Placed} {ps : List Placed}

/-- The statement that a row begins, up to the end of the row. -/
lemma ofLexemes_row (hh : head.lexeme ≠ .newline) (hps : Lexeme.newline ∉ ps.map Placed.lexeme)
    (hnl : nl.lexeme = .newline) (rest : List Placed) :
    ofLexemes (head :: (ps ++ nl :: rest)) =
      if 0 < bracketChange head.lexeme + depth (ps.map Placed.lexeme) ||
          endsWithComma head ps.reverse then
        continued head ps.reverse
          (bracketChange head.lexeme + depth (ps.map Placed.lexeme)) rest
      else ⟨head, ps⟩ :: ofLexemes rest := by
  have hrow : continued head [] (bracketChange head.lexeme) (ps ++ nl :: rest) =
      continued head ps.reverse (bracketChange head.lexeme + depth (ps.map Placed.lexeme))
        (nl :: rest) := by
    rw [continued_append hps, List.append_nil]
  rw [ofLexemes, if_neg hh, hrow, continued, if_pos hnl, List.reverse_reverse]

/-- A row that leaves no bracket open and does not end with a comma is a statement. -/
lemma ofLexemes_complete (hh : head.lexeme ≠ .newline)
    (hps : Lexeme.newline ∉ ps.map Placed.lexeme) (hnl : nl.lexeme = .newline)
    (hd : bracketChange head.lexeme + depth (ps.map Placed.lexeme) ≤ 0)
    (hc : endsWithComma head ps.reverse = false) (rest : List Placed) :
    ofLexemes (head :: (ps ++ nl :: rest)) = ⟨head, ps⟩ :: ofLexemes rest := by
  rw [ofLexemes_row hh hps hnl, if_neg]
  simp [hc, hd]

/-- Any other row is the beginning of a statement that goes on with the next row. -/
lemma exists_ofLexemes_incomplete (hh : head.lexeme ≠ .newline)
    (hps : Lexeme.newline ∉ ps.map Placed.lexeme) (hnl : nl.lexeme = .newline)
    (hinc : ¬(bracketChange head.lexeme + depth (ps.map Placed.lexeme) ≤ 0 ∧
      endsWithComma head ps.reverse = false)) {p : Placed} (hp : p.lexeme ≠ .newline)
    (rest : List Placed) :
    ∃ more sts, ofLexemes (head :: (ps ++ nl :: p :: rest)) =
      ⟨head, ps ++ p :: more⟩ :: sts := by
  have hopen : (decide (0 < bracketChange head.lexeme + depth (ps.map Placed.lexeme)) ||
      endsWithComma head ps.reverse) = true := by
    cases hc : endsWithComma head ps.reverse with
    | true => simp
    | false =>
      have hd := fun hd => hinc ⟨hd, hc⟩
      simpa using hd
  rw [ofLexemes_row hh hps hnl, if_pos hopen, continued, if_neg hp]
  obtain ⟨more, sts, h⟩ := exists_continued head (p :: ps.reverse)
    (bracketChange head.lexeme + depth (ps.map Placed.lexeme) + bracketChange p.lexeme) rest
  exact ⟨more, sts, by rw [h]; simp⟩

end Statement

/-! ## Guards in rows -/

namespace Guard

open Statement (bracketChange depth depth_append)

/-- A derived phrase leaves no bracket open, and has no comma. -/
lemma Derives.complete {ls : List Lexeme} {p : Phrase} (h : Derives ls p) :
    depth ls = 0 ∧ Lexeme.comma ∉ ls := by
  induction h with
  | last _ ih => exact ih
  | @more k _ _ _ _ _ _ ih₁ ih₂ =>
    refine ⟨?_, by simp [ih₁.2, ih₂.2]⟩
    rw [depth_append, depth, ih₁.1, ih₂.1]
    cases k <;> rfl
  | single _ ih => exact ih
  | several _ _ ih => exact ih
  | not _ ih =>
    refine ⟨?_, by simp [ih.2]⟩
    rw [depth, ih.1]
    rfl
  | plain _ ih => exact ih
  | parentheses _ ih =>
    refine ⟨?_, by simp [ih.2]⟩
    rw [depth, depth_append, ih.1]
    rfl
  | release _ _ hn => cases hn <;> simp [depth, bracketChange]
  | capability => simp [depth, bracketChange]

/-- A word is refused wherever it stands in a guard. -/
def Refused (w : String) : Prop :=
  isReleasePath w = false ∧ Text.dropLeading? processorPath w.toList = none

/-- The reader takes a refused word in no state. -/
lemma readNext_eq_error {w : String} (hw : Refused w) (s : Reading) (line : Nat) :
    ∃ e, readNext s ⟨.word w, line⟩ = .error e := by
  unfold readNext
  split
  · exact ⟨_, by simp [readOperand, readTerm, hw.1, hw.2]; rfl⟩
  · cases hwait : s.waiting with
    | nil => exact ⟨_, by simp [readConnective, hwait]; rfl⟩
    | cons l w => exact ⟨_, by simp [readConnective, hwait]; rfl⟩
  · exact ⟨_, rfl⟩
  · exact ⟨_, rfl⟩

/-- No guard goes on with a refused word. -/
lemma toOption_ofLexemes_append {w : String} (hw : Refused w) (line l : Nat)
    (ps qs : List Placed) : (ofLexemes line (ps ++ ⟨.word w, l⟩ :: qs)).toOption = none := by
  have hall : ∀ s, ∃ e, readAll s (ps ++ ⟨.word w, l⟩ :: qs) = .error e := by
    induction ps with
    | nil =>
      intro s
      obtain ⟨e, he⟩ := readNext_eq_error hw s l
      exact ⟨e, by rw [List.nil_append, readAll, he]⟩
    | cons p ps ih =>
      intro s
      rw [List.cons_append, readAll]
      cases readNext s p with
      | error e => exact ⟨e, rfl⟩
      | ok s' => exact ih s'
  obtain ⟨e, he⟩ := hall .start
  rw [ofLexemes, he]
  rfl

end Guard

namespace Outline

open Guard Statement Definition

/-- The word that begins a row is refused in guards. -/
lemma Row.refused_word (r : Row) : Refused r.word := by
  have hkind : ∀ k : Stanza.Kind, Refused k.word := by
    intro k
    cases k <;> exact ⟨by decide, by decide⟩
  cases r with
  | stanza e => exact hkind e.kind
  | opening _ | ifGuard _ | elsifGuard _ | elseRow | endRow =>
    change Refused _
    dsimp only [word]
    exact ⟨by decide, by decide⟩

/-- The guard that a text writes. -/
def guard? (text : String) : Option Guard := (Guard.ofText 1 text).toOption

/-- A text that can stand in a row writes the guard that its lexemes derive. -/
lemma OneLine.ofText_eq_ok_iff {text : String} (h : OneLine text) {line : Nat} {g : Guard} :
    Guard.ofText line text = .ok g ↔ Derives (guardLexemes text) (.junction .or g) := by
  obtain ⟨hnl, found, hf⟩ := h
  have hnewline : Lexeme.newline ∉ found.map Placed.lexeme :=
    (Lexeme.scans_of_scanFrom hf).newline_notMem hnl
  have hsignificant : significant found = guardLexemes text := by
    rw [significant, guardLexemes, hf, List.filter_eq_self]
    intro l hl
    simpa using fun he : l = .newline => hnewline (he ▸ hl)
  rw [Guard.ofText_eq_ok_iff hf, hsignificant]

/-- A text that can stand in a row writes the same guard on every line. -/
lemma OneLine.toOption_ofText {text : String} (h : OneLine text) (line : Nat) :
    (Guard.ofText line text).toOption = guard? text := by
  ext g
  rw [guard?, toOption_eq_some_iff, toOption_eq_some_iff, h.ofText_eq_ok_iff, h.ofText_eq_ok_iff]

/-- The lexemes of a text that can stand in a row are read as the text is. -/
lemma OneLine.toOption_readCondition {text : String} (h : OneLine text) (line : Nat)
    {ps : List Placed} (hps : ps.map Placed.lexeme = guardLexemes text) :
    (readCondition line ps).toOption = guard? text := by
  have hread : (ofLexemes line ps).toOption = guard? text := by
    ext g
    rw [guard?, toOption_eq_some_iff, toOption_eq_some_iff, h.ofText_eq_ok_iff, ← hps]
    refine ofLexemes_eq_ok_iff ?_
    rw [hps]
    exact h.scans.wordsEndOnce
  rw [← hread, readCondition]
  cases ps with
  | nil => rfl
  | cons p ps => rw [if_neg (by simp), toOption_mapError]

/-- A guard that is not complete at the end of its row is no guard by itself. -/
lemma OneLine.guard?_eq_none {text : String} (h : OneLine text) (head : Placed)
    (hb : bracketChange head.lexeme = 0) (hc : head.lexeme ≠ .comma) {ps : List Placed}
    (hps : ps.map Placed.lexeme = guardLexemes text)
    (hinc : ¬(bracketChange head.lexeme + depth (ps.map Placed.lexeme) ≤ 0 ∧
      endsWithComma head ps.reverse = false)) : guard? text = none := by
  cases hg : guard? text with
  | none => rfl
  | some g =>
    rw [guard?, toOption_eq_some_iff, h.ofText_eq_ok_iff, ← hps] at hg
    obtain ⟨hdepth, hcomma⟩ := hg.complete
    refine absurd ⟨by rw [hb, hdepth]; decide, ?_⟩ hinc
    cases hr : ps.reverse with
    | nil => simp [endsWithComma, hc]
    | cons p rs =>
      have hp : p ∈ ps := List.mem_reverse.1 (hr ▸ List.mem_cons_self)
      have hne : p.lexeme ≠ .comma := fun he => hcomma (he ▸ List.mem_map_of_mem hp)
      simp [endsWithComma, hne]

end Outline

end CaskAudit
