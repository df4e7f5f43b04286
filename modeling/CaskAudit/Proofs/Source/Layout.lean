import CaskAudit.Proofs.Lexeme.Boundaries
import CaskAudit.Proofs.Source.Lines
import Mathlib.Data.List.TakeWhile
import Mathlib.Logic.Relation
import Mathlib.Tactic.ByContra

/-!
# The layout of definitions

A line break that stands between two statements, after a comma, or where a bracket is open, ends no
statement: `Position` tells after some lexemes which of these is the case, and `AddsBreak` puts one
line break more where it is. The statements stay the same (`Statement.ofLexemes_insert`). In the
opening line there is no such place but before it (`readOpeningLine_append`). So the definition
gives the same manifest, or an error that differs in nothing but the line (`layout_irrelevant`).
-/

namespace CaskAudit

open Statement (bracketChange endsWithComma ofLexemes continued)

/-! ## Positions -/

/-- Where lexemes end. -/
inductive Position where
  /-- No statement has been begun. -/
  | between
  /-- Inside a statement, with a number of open brackets, and right after a comma or not. -/
  | inside (depth : Int) (comma : Bool)
  deriving DecidableEq, Repr

namespace Position

/-- The position after one lexeme more. A line break ends a statement unless a bracket is open or it
comes after a comma. -/
def next : Position → Lexeme → Position
  | between, l => if l = .newline then between else inside (bracketChange l) (l = .comma)
  | inside depth comma, l =>
    if l = .newline then if 0 < depth || comma then inside depth comma else between
    else inside (depth + bracketChange l) (l = .comma)

/-- The position after lexemes. -/
def after (ls : List Lexeme) : Position := ls.foldl next between

/-- A line break at a position ends nothing. -/
def Loose (p : Position) : Prop := p.next .newline = p

/-- Between two statements a line break ends nothing. -/
lemma loose_between : between.Loose := rfl

/-- Inside a statement a line break ends nothing if a bracket is open or it comes after a comma. -/
lemma loose_inside {depth : Int} {comma : Bool} (h : 0 < depth ∨ comma = true) :
    (inside depth comma).Loose := by
  have hcontinues : (decide (0 < depth) || comma) = true := by simpa using h
  rw [Loose, next, if_pos rfl, if_pos hcontinues]

/-- Nothing but an open bracket or a comma keeps a line break from ending a statement. -/
lemma not_loose_inside : ¬(inside 0 false).Loose := by
  intro h
  cases h

/-- A line break ends a statement only once. -/
lemma loose_next_newline (p : Position) : (p.next .newline).Loose := by
  cases p with
  | between => rfl
  | inside depth comma =>
    rw [next, if_pos rfl]
    split
    · next h =>
      rw [Loose, next, if_pos rfl, if_pos h]
    · rfl

end Position

/-! ## Statements -/

namespace Statement

variable {ps qs : List Placed} {nl : Placed}

mutual

/-- A line break that ends nothing changes none of the statements. -/
lemma ofLexemes_insert (hnl : nl.lexeme = .newline) (qs : List Placed) (ps : List Placed)
    (h : (Position.after (ps.map Placed.lexeme)).Loose) :
    ofLexemes (ps ++ nl :: qs) = ofLexemes (ps ++ qs) := by
  cases ps with
  | nil => rw [List.nil_append, ofLexemes, if_pos hnl, List.nil_append]
  | cons p ps =>
    rw [List.cons_append, ofLexemes, List.cons_append, ofLexemes]
    rw [Position.after, List.map_cons, List.foldl_cons, Position.next] at h
    split
    · next hp =>
      rw [if_pos hp] at h
      exact ofLexemes_insert hnl qs ps h
    · next hp =>
      rw [if_neg hp] at h
      exact continued_insert hnl qs p [] _ ps h

/-- A line break that ends nothing changes nothing in the statement that goes on. -/
lemma continued_insert (hnl : nl.lexeme = .newline) (qs : List Placed) (head : Placed)
    (read : List Placed) (depth : Int) (ps : List Placed)
    (h : ((ps.map Placed.lexeme).foldl Position.next
      (.inside depth (endsWithComma head read))).Loose) :
    continued head read depth (ps ++ nl :: qs) = continued head read depth (ps ++ qs) := by
  cases ps with
  | nil =>
    have hcontinues : (decide (0 < depth) || endsWithComma head read) = true := by
      by_contra hends
      have hnext : Position.next (.inside depth (endsWithComma head read)) .newline = .between := by
        rw [Position.next, if_pos rfl, if_neg hends]
      rw [List.map_nil, List.foldl_nil, Position.Loose, hnext] at h
      cases h
    rw [List.nil_append, continued, if_pos hnl, if_pos hcontinues, List.nil_append]
  | cons p ps =>
    rw [List.cons_append, continued, List.cons_append, continued]
    rw [List.map_cons, List.foldl_cons, Position.next] at h
    split
    · next hp =>
      rw [if_pos hp] at h
      split
      · next hcontinues =>
        rw [if_pos hcontinues] at h
        exact continued_insert hnl qs head read depth ps h
      · next hends =>
        rw [if_neg hends] at h
        rw [ofLexemes_insert hnl qs ps h]
    · next hp =>
      rw [if_neg hp] at h
      exact continued_insert hnl qs head (p :: read) _ ps h

end

end Statement

/-! ## The opening line -/

namespace Definition

/-- A word that has to come next is looked for in the first lexeme alone. -/
lemma expectWord_append (word : String) (last last' : Nat) (p : Placed) (ps xs : List Placed) :
    expectWord word last (p :: (ps ++ xs)) =
      (expectWord word last' (p :: ps)).map fun q => (q.1, q.2 ++ xs) := by
  rw [expectWord, expectWord]
  split <;> rfl

/-- The token is looked for in the first lexeme alone. -/
lemma expectToken_append (line : Nat) (p : Placed) (ps xs : List Placed) :
    expectToken line (p :: (ps ++ xs)) =
      (expectToken line (p :: ps)).map fun q => (q.1, q.2 ++ xs) := by
  obtain ⟨lexeme, n⟩ := p
  cases lexeme <;> rfl

/-- What goes on after a statement is looked for in the first lexeme alone. -/
lemma expectLineEnd_append (line : Nat) (p : Placed) (ps xs : List Placed) :
    expectLineEnd line (p :: (ps ++ xs)) =
      (expectLineEnd line (p :: ps)).map fun qs => qs ++ xs := by
  rw [expectLineEnd, expectLineEnd]
  split <;> rfl

/-- The word that has to come next is found at the front, and gives its line. -/
lemma expectWord_eq_ok {word : String} {last n : Nat} {ls rs : List Placed}
    (h : expectWord word last ls = .ok (n, rs)) :
    ∃ l, ls = l :: rs ∧ l.lexeme = .word word ∧ n = l.line := by
  cases ls with
  | nil => cases h
  | cons l ls =>
    rw [expectWord] at h
    split at h
    · next hl =>
      cases h
      exact ⟨l, rfl, by simpa [isWord] using hl, rfl⟩
    · cases h

/-- The token is found at the front, and is a text or a symbol. -/
lemma expectToken_eq_ok {line : Nat} {token : String} {ls rs : List Placed}
    (h : expectToken line ls = .ok (token, rs)) :
    ∃ l, ls = l :: rs ∧ (l.lexeme = .text token ∨ l.lexeme = .symbol token) := by
  unfold expectToken at h
  split at h
  · cases h
    exact ⟨_, rfl, .inl rfl⟩
  · cases h
    exact ⟨_, rfl, .inr rfl⟩
  · cases h

/-- A word, the token or the word `do` in the opening line is followed by a position at which a line
break ends something, so that lexemes which end loosely go on after it. -/
lemma exists_cons_of_loose {l : Placed} {ps : List Placed}
    (hl : Position.next (.inside 0 false) l.lexeme = .inside 0 false)
    (h : (((l :: ps).map Placed.lexeme).foldl Position.next (.inside 0 false)).Loose) :
    ∃ p qs, ps = p :: qs ∧
      ((ps.map Placed.lexeme).foldl Position.next (.inside 0 false)).Loose := by
  rw [List.map_cons, List.foldl_cons, hl] at h
  cases ps with
  | nil => exact absurd h Position.not_loose_inside
  | cons p qs => exact ⟨p, qs, rfl, h⟩

/-- Lexemes that end loosely hold all of the opening line, or what is wrong with it; `last` does not
count, because the line does not end with the text. -/
lemma readOpeningLine_append (last last' : Nat) (p : Placed)
    (ps xs : List Placed)
    (h : (Position.after ((p :: ps).map Placed.lexeme)).Loose) :
    readOpeningLine last (p :: (ps ++ xs)) =
      (readOpeningLine last' (p :: ps)).map fun q => (q.1, q.2 ++ xs) := by
  rw [readOpeningLine, expectWord_append "cask" last last', readOpeningLine]
  cases hcask : expectWord "cask" last' (p :: ps) with
  | error e => rfl
  | ok q =>
    obtain ⟨n, rs⟩ := q
    obtain ⟨l, hl, hword, -⟩ := expectWord_eq_ok hcask
    cases hl
    have hbegun : Position.next .between p.lexeme = Position.next (.inside 0 false) p.lexeme := by
      rw [hword]
      rfl
    rw [Position.after, List.map_cons, List.foldl_cons, hbegun, ← List.foldl_cons,
      ← List.map_cons] at h
    obtain ⟨t, ps, rfl, h⟩ := exists_cons_of_loose (by rw [hword]; rfl) h
    change (expectToken n (t :: (ps ++ xs))).bind _ = ((expectToken n (t :: ps)).bind _).map _
    rw [expectToken_append]
    cases htoken : expectToken n (t :: ps) with
    | error e => rfl
    | ok q =>
      obtain ⟨token, rs⟩ := q
      obtain ⟨l, hl, htext⟩ := expectToken_eq_ok htoken
      cases hl
      obtain ⟨d, ps, rfl, h⟩ :=
        exists_cons_of_loose (by rcases htext with ht | ht <;> rw [ht] <;> rfl) h
      change (expectWord "do" last (d :: (ps ++ xs))).bind _ =
        ((expectWord "do" last' (d :: ps)).bind _).map _
      rw [expectWord_append "do" last last']
      cases hdo : expectWord "do" last' (d :: ps) with
      | error e => rfl
      | ok q =>
        obtain ⟨m, rs⟩ := q
        obtain ⟨l, hl, hword, -⟩ := expectWord_eq_ok hdo
        cases hl
        obtain ⟨nl, ps, rfl, h⟩ := exists_cons_of_loose (by rw [hword]; rfl) h
        change (expectLineEnd n (nl :: (ps ++ xs))).bind _ =
          ((expectLineEnd n (nl :: ps)).bind _).map _
        rw [expectLineEnd_append]
        cases expectLineEnd n (nl :: ps) <;> rfl

/-- The opening line is a word, the token, another word and a line break, unless the text ends
there. -/
lemma readOpeningLine_eq_ok {last : Nat} {token : String} {ls rs : List Placed}
    (h : readOpeningLine last ls = .ok (token, rs)) :
    ∃ front t, ls = front ++ rs ∧ (t = .text token ∨ t = .symbol token) ∧
      (front.map Placed.lexeme = [.word "cask", t, .word "do", .newline] ∨
        rs = [] ∧ front.map Placed.lexeme = [.word "cask", t, .word "do"]) := by
  obtain ⟨⟨n, ls₁⟩, hcask, h⟩ := bind_eq_ok h
  obtain ⟨⟨name, ls₂⟩, htoken, h⟩ := bind_eq_ok h
  obtain ⟨⟨m, ls₃⟩, hdo, h⟩ := bind_eq_ok h
  obtain ⟨ls₄, hend, h⟩ := bind_eq_ok h
  cases h
  obtain ⟨c, rfl, hc, -⟩ := expectWord_eq_ok hcask
  obtain ⟨t, rfl, ht⟩ := expectToken_eq_ok htoken
  obtain ⟨d, rfl, hd, -⟩ := expectWord_eq_ok hdo
  cases ls₃ with
  | nil =>
    cases hend
    exact ⟨[c, t, d], t.lexeme, rfl, ht, .inr ⟨rfl, by simp [hc, hd]⟩⟩
  | cons nl rs =>
    simp only [expectLineEnd] at hend
    split at hend
    · next hnl =>
      cases hend
      exact ⟨[c, t, d, nl], t.lexeme, rfl, ht, .inl (by simp [hc, hd, hnl])⟩
    · cases hend

/-- The opening line ends between two statements. -/
lemma after_readOpeningLine {last : Nat} {token : String} {ls rs : List Placed}
    (h : readOpeningLine last ls = .ok (token, rs))
    (hl : (Position.after (ls.map Placed.lexeme)).Loose) :
    Position.after (rs.map Placed.lexeme) = Position.after (ls.map Placed.lexeme) := by
  obtain ⟨front, t, rfl, ht, hfront | ⟨rfl, hfront⟩⟩ := readOpeningLine_eq_ok h
  · rw [List.map_append, hfront]
    rcases ht with rfl | rfl <;> rfl
  · rw [List.map_append, hfront] at hl
    rcases ht with rfl | rfl <;> exact absurd hl Position.not_loose_inside

/-! ## One line break more -/

/-- Line breaks at the front leave the position between two statements. -/
lemma after_dropWhile_newline (ps : List Placed) :
    Position.after ((ps.dropWhile (·.lexeme = .newline)).map Placed.lexeme) =
      Position.after (ps.map Placed.lexeme) := by
  induction ps with
  | nil => rfl
  | cons p ps ih =>
    rw [List.dropWhile_cons]
    split
    · next hp =>
      have hnewline : p.lexeme = .newline := by simpa using hp
      rw [ih, List.map_cons, hnewline]
      rfl
    · rfl

/-- The statements of a definition say the same with a line break more that ends nothing. -/
lemma readBody_insert {nl : Placed} (hnl : nl.lexeme = .newline) (last : Nat)
    (qs ps : List Placed) (h : (Position.after (ps.map Placed.lexeme)).Loose) :
    readBody last (ps ++ nl :: qs) = readBody last (ps ++ qs) := by
  rw [readBody, Statement.ofLexemes_insert hnl qs ps h, readBody]

/-- A definition says the same with a line break more that ends nothing and does not come first. -/
lemma readDefinition_insert {nl : Placed} (hnl : nl.lexeme = .newline) (last : Nat)
    (qs : List Placed) (p : Placed) (ps : List Placed)
    (h : (Position.after ((p :: ps).map Placed.lexeme)).Loose) :
    readDefinition last (p :: (ps ++ nl :: qs)) = readDefinition last (p :: (ps ++ qs)) := by
  rw [readDefinition, readOpeningLine_append last last p ps _ h, readDefinition,
    readOpeningLine_append last last p ps _ h]
  cases hopening : readOpeningLine last (p :: ps) with
  | error e => rfl
  | ok q =>
    obtain ⟨token, rs⟩ := q
    have hafter := after_readOpeningLine hopening h
    change (readBody last (rs ++ nl :: qs)).bind _ = (readBody last (rs ++ qs)).bind _
    rw [readBody_insert hnl last qs rs (hafter ▸ h)]

/-- A line break more that ends nothing changes the manifest not at all, and an error in nothing but
the line. -/
lemma readLexemes_insert {nl : Placed} (hnl : nl.lexeme = .newline) (ps qs : List Placed)
    (h : (Position.after (ps.map Placed.lexeme)).Loose) :
    (readLexemes (ps ++ nl :: qs)).mapError SourceError.unlined =
      (readLexemes (ps ++ qs)).mapError SourceError.unlined := by
  rw [← after_dropWhile_newline] at h
  rw [readLexemes, List.dropWhile_append, readLexemes, List.dropWhile_append,
    readDefinition_last _ (lastLine (ps ++ qs))]
  cases hps : ps.dropWhile (·.lexeme = .newline) with
  | nil =>
    rw [List.isEmpty_nil, if_pos rfl, if_pos rfl, List.dropWhile_cons, if_pos (by simpa using hnl)]
  | cons p rs =>
    rw [hps] at h
    rw [List.isEmpty_cons, if_neg Bool.false_ne_true, if_neg Bool.false_ne_true, List.cons_append,
      List.cons_append, readDefinition_insert hnl _ qs p rs h]

/-- Lexemes with a line break more that ends nothing say the same, on whatever lines they stand. -/
lemma readLexemes_of_loose {ls ms : List Placed} {before after : List Lexeme}
    (h : (Position.after before).Loose) (hls : ls.map Placed.lexeme = before ++ after)
    (hms : ms.map Placed.lexeme = before ++ .newline :: after) :
    (readLexemes ls).mapError SourceError.unlined =
      (readLexemes ms).mapError SourceError.unlined := by
  obtain ⟨ps, rs, rfl, rfl, hrs⟩ := List.map_eq_append_iff.1 hms
  obtain ⟨nl, qs, rfl, hnl, rfl⟩ := List.map_eq_cons_iff.1 hrs
  rw [readLexemes_insert hnl ps qs h]
  exact readLexemes_congr (hls.trans (List.map_append ..).symm)

/-- The second list of lexemes is the first with a line break more: between two statements, which is
next to the line break that ends the first of them or before the definition; right after a comma; or
where more brackets have been opened in a statement than closed. -/
inductive AddsBreak : List Lexeme → List Lexeme → Prop
  | between {before : List Lexeme} (h : Position.after before = .between) (after : List Lexeme) :
      AddsBreak (before ++ after) (before ++ .newline :: after)
  | comma (before after : List Lexeme) :
      AddsBreak (before ++ .comma :: after) (before ++ .comma :: .newline :: after)
  | bracket {before : List Lexeme} {depth : Int} {comma : Bool}
      (h : Position.after before = .inside depth comma) (hd : 0 < depth) (after : List Lexeme) :
      AddsBreak (before ++ after) (before ++ .newline :: after)

/-- After a comma a line break ends nothing. -/
lemma loose_after_comma (before : List Lexeme) :
    (Position.after (before ++ [.comma])).Loose := by
  rw [Position.after, List.foldl_append]
  cases before.foldl Position.next .between with
  | between => exact Position.loose_inside (.inr rfl)
  | inside depth comma => exact Position.loose_inside (.inr rfl)

/-- The line break more ends nothing. -/
lemma AddsBreak.exists_loose {ls ms : List Lexeme} (h : AddsBreak ls ms) :
    ∃ before after, (Position.after before).Loose ∧ ls = before ++ after ∧
      ms = before ++ .newline :: after := by
  cases h with
  | @between before h after =>
    refine ⟨before, after, ?_, rfl, rfl⟩
    rw [h]
    exact Position.loose_between
  | comma before after =>
    exact ⟨before ++ [.comma], after, loose_after_comma before, by simp, by simp⟩
  | @bracket before depth comma h hd after =>
    refine ⟨before, after, ?_, rfl, rfl⟩
    rw [h]
    exact Position.loose_inside (.inl hd)

/-- Next to a line break that ends a statement, another line break may stand. -/
lemma addsBreak_newline (before after : List Lexeme)
    (h : Position.after (before ++ [.newline]) = .between) :
    AddsBreak (before ++ .newline :: after) (before ++ .newline :: .newline :: after) := by
  simpa using AddsBreak.between h after

/-- Lexemes with line breaks more say the same, on whatever lines they stand. -/
lemma readLexemes_of_addsBreak {ls ms : List Placed}
    (h : Relation.ReflTransGen AddsBreak (ls.map Placed.lexeme) (ms.map Placed.lexeme)) :
    (readLexemes ls).mapError SourceError.unlined =
      (readLexemes ms).mapError SourceError.unlined := by
  generalize hfound : ms.map Placed.lexeme = found at h
  induction h generalizing ms with
  | refl => exact readLexemes_congr hfound.symm
  | @tail middle _ _ hstep ih =>
    obtain ⟨before, after, hloose, hmiddle, hms⟩ := hstep.exists_loose
    rw [ih (map_lexeme_bare middle)]
    exact readLexemes_of_loose hloose ((map_lexeme_bare middle).trans hmiddle) (hfound.trans hms)

/-! ## Blank lines and comments -/

/-- A line has no lexemes: it is blank up to its end or up to a comment. -/
def BlankLine (line : String) : Prop :=
  '\n' ∉ line.toList ∧ ∀ c ∈ line.toList.takeWhile (· ≠ '#'), Text.isBlank c = true

/-- A text ends where a line begins, and not inside a lexeme. -/
def EndsLine (src : String) : Prop := src = "" ∨ ∃ s ls, src = s ++ "\n" ∧ Lexeme.scan s = .ok ls

/-- A text that ends a line is cut before the text that comes after it. -/
lemma EndsLine.scans_append {before after : String} {ls ms : List Lexeme} (hb : EndsLine before)
    (hl : Lexeme.Scans before.toList ls) (hm : Lexeme.Scans after.toList ms) :
    Lexeme.Scans (before ++ after).toList (ls ++ ms) := by
  rcases hb with rfl | ⟨s, ps, rfl, hs⟩
  · obtain rfl := hl.unique .nil
    simpa using hm
  · have hbefore := Lexeme.scans_of_scanFrom hs
    have hline : Lexeme.Scans (s ++ "\n").toList (ps.map Placed.lexeme ++ [.newline]) := by
      simpa using hbefore.append_newline (.cons rfl .nil)
    obtain rfl := hl.unique hline
    simpa using hbefore.append_newline (.cons rfl hm)

/-- What comes after a text that ends a line is cut by itself. -/
lemma EndsLine.exists_scans {before after : String} {ls found : List Lexeme}
    (hb : EndsLine before) (hl : Lexeme.Scans before.toList ls)
    (h : Lexeme.Scans (before ++ after).toList found) :
    ∃ ms, Lexeme.Scans after.toList ms ∧ found = ls ++ ms := by
  rcases hb with rfl | ⟨s, ps, rfl, hs⟩
  · obtain rfl := hl.unique .nil
    exact ⟨found, by simpa using h, rfl⟩
  · have hbefore := Lexeme.scans_of_scanFrom hs
    have hline : Lexeme.Scans (s ++ "\n").toList (ps.map Placed.lexeme ++ [.newline]) := by
      simpa using hbefore.append_newline (.cons rfl .nil)
    obtain rfl := hl.unique hline
    obtain ⟨ms, hms, rfl⟩ := hbefore.exists_of_append_newline (t := after.toList) (by simpa using h)
    obtain ⟨rest, rfl, hrest⟩ := (Lexeme.scans_cons_iff rfl).1 hms
    exact ⟨rest, hrest, by simp⟩

/-- A blank line gives no lexemes. -/
lemma scans_blankLine {s : List Char} (hnl : '\n' ∉ s)
    (hb : ∀ c ∈ s.takeWhile (· ≠ '#'), Text.isBlank c = true) : Lexeme.Scans s [] := by
  induction s with
  | nil => exact .nil
  | cons c s ih =>
    obtain ⟨hc, hs⟩ : '\n' ≠ c ∧ '\n' ∉ s := by simpa using hnl
    by_cases hcomment : c = '#'
    · have hdrop : s.dropWhile (· ≠ '\n') = [] := by
        refine List.dropWhile_eq_nil_iff.2 fun d hd => ?_
        simpa using fun he : d = '\n' => hs (he ▸ hd)
      have hnext : Lexeme.next c s = .ok (none, []) := by
        rw [hcomment, ← hdrop]
        rfl
      exact .skip hnext .nil
    · rw [List.takeWhile_cons_of_pos (by simpa using hcomment)] at hb
      have hblank : Text.isBlank c = true := hb c List.mem_cons_self
      have hnext : Lexeme.next c s = .ok (none, s) := by
        rw [Lexeme.next, if_neg (by simpa using Ne.symm hc), if_pos hblank]
      exact .skip hnext (ih hs fun d hd => hb d (List.mem_cons_of_mem _ hd))

/-- A text is cut into the related lexemes. -/
lemma scan_eq_ok {src : String} {ls : List Lexeme} (h : Lexeme.Scans src.toList ls) :
    Lexeme.scan src = .ok (Lexeme.place 1 ls) := h.scanFrom_eq 1

/-- A text that gives a manifest is cut into lexemes that do. -/
lemma exists_scans_of_parse {src : String} {m : Manifest} (h : parse src = .ok m) :
    ∃ ls, Lexeme.Scans src.toList ls ∧ readLexemes (Lexeme.place 1 ls) = .ok m := by
  rw [parse_eq] at h
  cases hscan : Lexeme.scan src with
  | error e =>
    rw [hscan] at h
    cases h
  | ok found =>
    rw [hscan] at h
    obtain ⟨ls, hls, rfl⟩ := Lexeme.scanFrom_eq_ok_iff.1 hscan
    exact ⟨ls, hls, h⟩

/-- A blank line is a line break more, at a place where it ends nothing. -/
lemma exists_loose_blankLine {before after line : String} {ms : List Lexeme}
    (hb : EndsLine before) (ha : Lexeme.Scans after.toList ms) (hl : BlankLine line) :
    ∃ ls, (Position.after ls).Loose ∧ Lexeme.Scans (before ++ after).toList (ls ++ ms) ∧
      Lexeme.Scans (before ++ (line ++ "\n" ++ after)).toList (ls ++ .newline :: ms) := by
  have hgap : Lexeme.Scans (line ++ "\n" ++ after).toList (.newline :: ms) := by
    simpa using (scans_blankLine hl.1 hl.2).append_newline (.cons rfl ha)
  obtain ⟨ls, hls, hloose⟩ : ∃ ls, Lexeme.Scans before.toList ls ∧ (Position.after ls).Loose := by
    rcases hb with rfl | ⟨s, ps, rfl, hs⟩
    · exact ⟨[], .nil, Position.loose_between⟩
    · refine ⟨ps.map Placed.lexeme ++ [.newline], ?_, ?_⟩
      · simpa using (Lexeme.scans_of_scanFrom hs).append_newline (.cons rfl .nil)
      · rw [Position.after, List.foldl_append]
        exact Position.loose_next_newline _
  exact ⟨ls, hloose, hb.scans_append hls ha, hb.scans_append hls hgap⟩

/-- The layout of a definition does not matter. Lexemes to which line breaks are added, each next to
one that ends a statement or comes before the definition, right after a comma, or where a bracket is
open, give the same manifest as before, or an error that differs in nothing but the line; so do
texts that have such lexemes, and a text to which blank lines or lines with nothing but a comment
are added. -/
theorem layout_irrelevant :
    (∀ ls ms : List Placed,
      Relation.ReflTransGen AddsBreak (ls.map Placed.lexeme) (ms.map Placed.lexeme) →
      (readLexemes ls).mapError SourceError.unlined =
        (readLexemes ms).mapError SourceError.unlined) ∧
    (∀ (src src' : String) (ls ms : List Placed), Lexeme.scan src = .ok ls →
      Lexeme.scan src' = .ok ms →
      Relation.ReflTransGen AddsBreak (ls.map Placed.lexeme) (ms.map Placed.lexeme) →
      (parse src).mapError SourceError.unlined = (parse src').mapError SourceError.unlined) ∧
    ∀ (before line after : String) (ms : List Placed), EndsLine before → BlankLine line →
      Lexeme.scan after = .ok ms →
      (parse (before ++ after)).mapError SourceError.unlined =
        (parse (before ++ (line ++ "\n" ++ after))).mapError SourceError.unlined := by
  refine ⟨fun ls ms h => readLexemes_of_addsBreak h, fun src src' ls ms hs hs' h => ?_,
    fun before line after ms hb hl ha => ?_⟩
  · rw [parse_eq, hs, parse_eq, hs']
    exact readLexemes_of_addsBreak h
  · obtain ⟨ls, hloose, hplain, hblank⟩ :=
      exists_loose_blankLine hb (Lexeme.scans_of_scanFrom ha) hl
    rw [parse_eq, scan_eq_ok hplain, parse_eq, scan_eq_ok hblank]
    exact readLexemes_of_loose hloose (Lexeme.map_lexeme_place ..) (Lexeme.map_lexeme_place ..)

/-- The opening line of a definition. -/
def openingLine : String := "cask 'a' do\n"

/-- A version and a checksum, and the end of a definition. -/
def releaseLines : String := "version '1'\nsha256 :no_check\nend"

/-- A line break after a comma, a blank line at the end of a line, and a comment, which leaves a
definition the manifest that it gives. -/
theorem layout_irrelevant_spaced :
    (readLexemes [⟨.word "cask", 1⟩, ⟨.text "a", 1⟩, ⟨.word "do", 1⟩, ⟨.newline, 1⟩]).mapError
        SourceError.unlined =
      (readLexemes [⟨.word "cask", 1⟩, ⟨.text "a", 1⟩, ⟨.word "do", 1⟩, ⟨.newline, 1⟩,
        ⟨.newline, 2⟩]).mapError SourceError.unlined ∧
    (parse "cask 'a' do\nurl 'u', :b\nend").mapError SourceError.unlined =
      (parse "cask 'a' do\nurl 'u',\n:b\nend").mapError SourceError.unlined ∧
    (parse (openingLine ++ releaseLines)).mapError SourceError.unlined =
      (parse (openingLine ++ (" # one" ++ "\n" ++ releaseLines))).mapError SourceError.unlined ∧
    ∃ m, parse (openingLine ++ releaseLines) = .ok m ∧
      parse (openingLine ++ (" # one" ++ "\n" ++ releaseLines)) = .ok m := by
  have hends : EndsLine openingLine :=
    .inr ⟨"cask 'a' do", [⟨.word "cask", 1⟩, ⟨.text "a", 1⟩, ⟨.word "do", 1⟩], rfl,
      by decide +kernel⟩
  have hblank : BlankLine " # one" := ⟨by decide, List.all_eq_true.1 (by decide)⟩
  have hlexemes : Lexeme.scan releaseLines = .ok [⟨.word "version", 1⟩, ⟨.text "1", 1⟩,
      ⟨.newline, 1⟩, ⟨.word "sha256", 2⟩, ⟨.symbol "no_check", 2⟩, ⟨.newline, 2⟩,
      ⟨.word "end", 3⟩] := by
    decide +kernel
  have hcomment := layout_irrelevant.2.2 openingLine " # one" releaseLines _ hends hblank hlexemes
  have hscan : Lexeme.scan (openingLine ++ releaseLines) = .ok [⟨.word "cask", 1⟩, ⟨.text "a", 1⟩,
      ⟨.word "do", 1⟩, ⟨.newline, 1⟩, ⟨.word "version", 2⟩, ⟨.text "1", 2⟩, ⟨.newline, 2⟩,
      ⟨.word "sha256", 3⟩, ⟨.symbol "no_check", 3⟩, ⟨.newline, 3⟩, ⟨.word "end", 4⟩] := by
    decide +kernel
  obtain ⟨m, hm⟩ : ∃ m, parse (openingLine ++ releaseLines) = .ok m := by
    rw [parse_eq, hscan]
    exact ⟨_, rfl⟩
  refine ⟨layout_irrelevant.1 _ _ (.single ?_), layout_irrelevant.2.1 _ _
    [⟨.word "cask", 1⟩, ⟨.text "a", 1⟩, ⟨.word "do", 1⟩, ⟨.newline, 1⟩, ⟨.word "url", 2⟩,
      ⟨.text "u", 2⟩, ⟨.comma, 2⟩, ⟨.symbol "b", 2⟩, ⟨.newline, 2⟩, ⟨.word "end", 3⟩]
    [⟨.word "cask", 1⟩, ⟨.text "a", 1⟩, ⟨.word "do", 1⟩, ⟨.newline, 1⟩, ⟨.word "url", 2⟩,
      ⟨.text "u", 2⟩, ⟨.comma, 2⟩, ⟨.newline, 2⟩, ⟨.symbol "b", 3⟩, ⟨.newline, 3⟩, ⟨.word "end", 4⟩]
    (by decide +kernel) (by decide +kernel) (.single ?_), hcomment, m, hm, ?_⟩
  · exact addsBreak_newline [.word "cask", .text "a", .word "do"] [] rfl
  · exact .comma [.word "cask", .text "a", .word "do", .newline, .word "url", .text "u"]
      [.symbol "b", .newline, .word "end"]
  · rw [hm] at hcomment
    cases hparse : parse (openingLine ++ (" # one" ++ "\n" ++ releaseLines)) with
    | error e =>
      rw [hparse] at hcomment
      cases hcomment
    | ok m' =>
      rw [hparse] at hcomment
      exact hcomment.symm

end Definition

end CaskAudit
