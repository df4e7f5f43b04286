import CaskAudit.Proofs.Source.Layout
import CaskAudit.Proofs.Source.Statements
import CaskAudit.Proofs.Source.Steps

/-!
# Skipped blocks

A stanza outside the model may open a block, which is skipped. `WellNested` says which lines make up
the inside of a block, and `BlockStanza` is a stanza with such a block. A reader that skips counts
the open blocks, but counts a line twice if it opens a block at its start and has the word `do` as
well (`opensTwice`). So where a stanza with its block is put among the statements of a definition,
the manifest stays the same if there is no such line (`readStatements_stanza`); otherwise blocks are
left open, the rest of the definition is read at a greater depth than it was (`Takes.level_lt`), and
its end is never found. Both together are `parse_insert_stanza`.
-/

namespace CaskAudit

/-! ## Going on between two statements -/

namespace Statement

mutual

/-- Lexemes that end between two statements are grouped by themselves. -/
lemma ofLexemes_append_of_between (qs : List Placed) (ps : List Placed)
    (h : Position.after (ps.map Placed.lexeme) = .between) :
    ofLexemes (ps ++ qs) = ofLexemes ps ++ ofLexemes qs := by
  cases ps with
  | nil => rw [ofLexemes, List.nil_append, List.nil_append]
  | cons p ps =>
    rw [List.cons_append, ofLexemes, ofLexemes]
    rw [Position.after, List.map_cons, List.foldl_cons, Position.next] at h
    split
    · next hp =>
      rw [if_pos hp] at h
      exact ofLexemes_append_of_between qs ps h
    · next hp =>
      rw [if_neg hp] at h
      exact continued_append_of_between qs p [] _ ps h

/-- A statement that goes on and ends before others is grouped by itself. -/
lemma continued_append_of_between (qs : List Placed) (head : Placed) (read : List Placed)
    (depth : Int) (ps : List Placed)
    (h : (ps.map Placed.lexeme).foldl Position.next (.inside depth (endsWithComma head read)) =
      .between) :
    continued head read depth (ps ++ qs) = continued head read depth ps ++ ofLexemes qs := by
  cases ps with
  | nil => cases h
  | cons p ps =>
    rw [List.cons_append, continued, continued]
    rw [List.map_cons, List.foldl_cons, Position.next] at h
    split
    · next hp =>
      rw [if_pos hp] at h
      split
      · next hcontinues =>
        rw [if_pos hcontinues] at h
        exact continued_append_of_between qs head read depth ps h
      · next hends =>
        rw [if_neg hends] at h
        rw [ofLexemes_append_of_between qs ps h, List.cons_append]
    · next hp =>
      rw [if_neg hp] at h
      exact continued_append_of_between qs head (p :: read) _ ps h

end

end Statement

namespace Definition

open Statement (ofLexemes)

/-- Statements are read one after the other. -/
lemma readStatements_append (s : Reading) (sts sts' : List Statement) :
    readStatements s (sts ++ sts') = (readStatements s sts).bind (readStatements · sts') := by
  induction sts generalizing s with
  | nil => rfl
  | cons st sts ih =>
    rw [List.cons_append, readStatements, readStatements]
    cases readStatement s st with
    | error e => rfl
    | ok s' => exact ih s'

/-- Lexemes end between two statements of the block or of a branch: they begin with the opening line
and a token, and what the statements after it say leaves no block to be skipped. -/
structure EndsWithin (ps : List Placed) (token : String) (s : Reading) : Prop where
  between : Position.after (ps.map Placed.lexeme) = .between
  reads : ∃ rs, readOpening ps = .ok (token, rs) ∧ readStatements .start (ofLexemes rs) = .ok s
  skipping : s.skipping = none
  place : s.place ≠ .afterBlock

/-- What a definition says where it goes on. -/
lemma EndsWithin.readLexemes_append {ps : List Placed} {token : String} {s : Reading}
    (h : EndsWithin ps token s) (qs : List Placed) :
    readLexemes (ps ++ qs) =
      ((readStatements s (ofLexemes qs)).bind (finish (lastLine (ps ++ qs)))).bind fun q =>
        (Manifest.build token q.1 q.2).mapError .manifest := by
  obtain ⟨rs, hopening, hreads⟩ := h.reads
  have hloose : (Position.after (ps.map Placed.lexeme)).Loose := by
    rw [h.between]
    exact Position.loose_between
  rw [readOpening_eq] at hopening
  rw [readLexemes, List.dropWhile_append]
  rw [← after_dropWhile_newline] at hloose
  cases hps : ps.dropWhile (·.lexeme = .newline) with
  | nil =>
    rw [hps] at hopening
    cases hopening
  | cons p ps' =>
    rw [hps] at hopening hloose
    rw [List.isEmpty_cons, if_neg Bool.false_ne_true, List.cons_append, readDefinition,
      readOpeningLine_append _ (lastLine ps) p ps' qs hloose, hopening]
    change (readBody _ (rs ++ qs)).bind _ = _
    have hbetween : Position.after (rs.map Placed.lexeme) = .between := by
      rw [after_readOpeningLine hopening hloose, ← hps, after_dropWhile_newline, h.between]
    rw [readBody, Statement.ofLexemes_append_of_between qs rs hbetween, readStatements_append,
      hreads]
    rfl

/-! ## Well-nested blocks -/

/-- A statement on a line of its own: it leaves no bracket open and does not end with a comma. -/
structure IsLine (line : List Lexeme) : Prop where
  newline : Lexeme.newline ∉ line
  depth : Statement.depth line ≤ 0
  comma : line.getLast? ≠ some .comma

/-- Whether a line closes a block. -/
def closes (line : List Lexeme) : Bool := line.head? = some (.word "end")

/-- Whether a line begins with a word that opens a block. -/
def beginsBlock (line : List Lexeme) : Bool :=
  blockOpeners.any fun w => line.head? = some (.word w)

/-- Whether a line has the word that opens a block wherever it stands. -/
def hasDo (line : List Lexeme) : Bool := Lexeme.word "do" ∈ line

/-- Whether a line opens a block. -/
def opens (line : List Lexeme) : Bool := beginsBlock line || hasDo line

/-- Whether a line opens a block in both ways. -/
def opensTwice (line : List Lexeme) : Bool := beginsBlock line && hasDo line

/-- Lines in which every block that is opened is closed, and no other. -/
inductive WellNested : List (List Lexeme) → Prop
  | nil : WellNested []
  | plain {line : List Lexeme} {rest : List (List Lexeme)} (hl : IsLine line)
      (ho : opens line = false) (hc : closes line = false) (hr : WellNested rest) :
      WellNested (line :: rest)
  | block {opener closer : List Lexeme} {body rest : List (List Lexeme)} (hl : IsLine opener)
      (ho : opens opener = true) (hn : closes opener = false) (hb : WellNested body)
      (hl' : IsLine closer) (hc : closes closer = true) (hr : WellNested rest) :
      WellNested (opener :: (body ++ closer :: rest))

/-- A stanza outside the model with a block. -/
structure BlockStanza where
  word : String
  args : List Lexeme
  body : List (List Lexeme)
  closer : List Lexeme
  foreign : Stanza.Kind.ofWord? word = none
  free : word ∉ ["end", "elsif", "else", "if", "unless"]
  opener_isLine : IsLine (.word word :: args)
  do_mem : Lexeme.word "do" ∈ args
  nested : WellNested body
  closer_isLine : IsLine closer
  closes_closer : closes closer = true

/-- Lexemes of lines, each of which ends with a line break. -/
def linesOf (lines : List (List Lexeme)) : List Lexeme := lines.flatMap (· ++ [.newline])

/-- The lexemes of a stanza with its block. -/
def BlockStanza.lexemes (b : BlockStanza) : List Lexeme :=
  linesOf ((.word b.word :: b.args) :: (b.body ++ [b.closer]))

/-! ## Skipping -/

/-- How many of the open blocks are left open by a line that is skipped. -/
def leftOpen (depth : Nat) (line : List Lexeme) : Nat :=
  if closes line then depth - 1
  else depth + (if beginsBlock line then 1 else 0) + (if hasDo line then 1 else 0)

/-- A statement leaves open what its lexemes do. -/
lemma openBlocks_eq (depth : Nat) (st : Statement) :
    openBlocks depth st = leftOpen depth (st.lexemes.map Placed.lexeme) := by
  have hend : isWord "end" st.head = closes (st.lexemes.map Placed.lexeme) := by
    simp [isWord, closes, Statement.lexemes]
  have hbegins : blockOpeners.any (isWord · st.head) =
      beginsBlock (st.lexemes.map Placed.lexeme) := by
    simp [isWord, beginsBlock, Statement.lexemes]
  have hdo : opensBlock (st.head :: st.tail) = hasDo (st.lexemes.map Placed.lexeme) := by
    rw [Bool.eq_iff_iff]
    simp only [opensBlock, hasDo, isWord, List.any_eq_true, decide_eq_true_eq, List.mem_map]
    rfl
  rw [openBlocks, leftOpen, hend, hbegins, hdo]

variable {outer : Declarations} {clauses : Option (List Clause)} {place : Place} {n : Nat}
  {qs : List Placed}

/-- A line that does not end with a comma is complete. -/
lemma endsWithComma_bare {l : Lexeme} {ls : List Lexeme}
    (h : (l :: ls).getLast? ≠ some .comma) :
    Statement.endsWithComma ⟨l, 0⟩ (bare ls).reverse = false := by
  rw [bare, ← List.map_reverse]
  cases hr : ls.reverse with
  | nil =>
    obtain rfl : ls = [] := List.reverse_eq_nil_iff.1 hr
    simpa [Statement.endsWithComma] using h
  | cons m ms =>
    obtain rfl : ls = ms.reverse ++ [m] := by
      rw [← List.reverse_reverse ls, hr, List.reverse_cons]
    rw [← List.cons_append, List.getLast?_append] at h
    simpa [Statement.endsWithComma] using h

/-- A skipped line leaves some blocks open, and the statements after it are read. -/
lemma readStatements_line {line : List Lexeme} (hl : IsLine line) {depth : Nat} (hd : 0 < depth) :
    readStatements ⟨outer, clauses, place, some (n, depth)⟩
        (ofLexemes (bare (line ++ [.newline]) ++ qs)) =
      readStatements ⟨outer, clauses, place, skippingFrom n (leftOpen depth line)⟩
        (ofLexemes qs) := by
  cases line with
  | nil =>
    have hleft : leftOpen depth [] = depth := rfl
    rw [hleft, skippingFrom, if_neg hd.ne']
    change readStatements _ (ofLexemes (⟨.newline, 0⟩ :: qs)) = _
    rw [ofLexemes, if_pos rfl]
  | cons l ls =>
    obtain ⟨hnewline, hdepth, hcomma⟩ := hl
    obtain ⟨hhead, htail⟩ : l ≠ .newline ∧ Lexeme.newline ∉ ls := by
      simpa [eq_comm] using hnewline
    have hc : Statement.endsWithComma ⟨l, 0⟩ (bare ls).reverse = false :=
      endsWithComma_bare hcomma
    have hsplit : bare (l :: ls ++ [.newline]) ++ qs =
        ⟨l, 0⟩ :: (bare ls ++ ⟨.newline, 0⟩ :: qs) := by
      simp [bare]
    rw [hsplit, Statement.ofLexemes_complete hhead (by simpa using htail) rfl
      (by simpa [Statement.depth] using hdepth) hc, readStatements]
    change readStatements ⟨_, _, _, skippingFrom n (openBlocks depth _)⟩ _ = _
    rw [openBlocks_eq]
    change readStatements ⟨_, _, _, skippingFrom n (leftOpen depth (l :: (bare ls).map _))⟩ _ = _
    rw [map_lexeme_bare]

/-- A line that opens a block leaves one open, or two if it opens them in both ways. -/
lemma leftOpen_opener {line : List Lexeme} (ho : opens line = true) (hn : closes line = false)
    (depth : Nat) : leftOpen depth line = depth + 1 + (if opensTwice line then 1 else 0) := by
  rw [leftOpen, hn, opensTwice]
  rw [opens] at ho
  cases hbegins : beginsBlock line <;> cases hdo : hasDo line <;> simp_all

/-- A line that closes a block opens none. -/
lemma opensTwice_closer {line : List Lexeme} (hc : closes line = true) :
    opensTwice line = false := by
  have hend : line.head? = some (.word "end") := by simpa [closes] using hc
  simp [opensTwice, beginsBlock, hend, blockOpeners]

/-- While blocks are open, the skipping goes on. -/
lemma skippingFrom_of_pos {depth : Nat} (hd : 0 < depth) (n : Nat) :
    skippingFrom n depth = some (n, depth) := if_neg hd.ne'

/-- How many blocks lines leave open in excess, because a line opens two at once. -/
def surplus (lines : List (List Lexeme)) : Nat := lines.countP opensTwice

/-- Lines one after the other leave open in excess what each of them does. -/
lemma surplus_cons (line : List Lexeme) (lines : List (List Lexeme)) :
    surplus (line :: lines) = surplus lines + if opensTwice line then 1 else 0 :=
  List.countP_cons

lemma surplus_append (lines lines' : List (List Lexeme)) :
    surplus (lines ++ lines') = surplus lines + surplus lines' := List.countP_append

/-- The lexemes of a first line and those of the lines after it. -/
lemma bare_linesOf_cons (line : List Lexeme) (lines : List (List Lexeme)) (qs : List Placed) :
    bare (linesOf (line :: lines)) ++ qs =
      bare (line ++ [.newline]) ++ (bare (linesOf lines) ++ qs) := by
  simp [linesOf, bare]

lemma bare_linesOf_append (lines lines' : List (List Lexeme)) (qs : List Placed) :
    bare (linesOf (lines ++ lines')) ++ qs =
      bare (linesOf lines) ++ (bare (linesOf lines') ++ qs) := by
  simp [linesOf, bare]

/-- Well-nested lines leave no block open, but for those that a line opens in excess. -/
lemma readStatements_wellNested {lines : List (List Lexeme)} (h : WellNested lines) {depth : Nat}
    (hd : 0 < depth) (qs : List Placed) :
    readStatements ⟨outer, clauses, place, some (n, depth)⟩
        (ofLexemes (bare (linesOf lines) ++ qs)) =
      readStatements ⟨outer, clauses, place, some (n, depth + surplus lines)⟩ (ofLexemes qs) := by
  induction h generalizing depth qs with
  | nil => rfl
  | @plain line rest hl ho hc _ ih =>
    obtain ⟨hbegins, hdo⟩ : beginsBlock line = false ∧ hasDo line = false := by
      simpa [opens] using ho
    have hleft : leftOpen depth line = depth := by
      simp [leftOpen, hc, hbegins, hdo]
    have hsurplus : surplus (line :: rest) = surplus rest := by
      simp [surplus_cons, opensTwice, hbegins]
    rw [bare_linesOf_cons, readStatements_line hl hd, hleft, skippingFrom_of_pos hd, ih hd,
      hsurplus]
  | @block opener closer body rest hl ho hn _ hl' hc _ ihb ihr =>
    have hopened : 0 < leftOpen depth opener := by
      rw [leftOpen_opener ho hn]
      omega
    have hclosed : leftOpen (leftOpen depth opener + surplus body) closer =
        depth + (surplus body + if opensTwice opener then 1 else 0) := by
      rw [leftOpen, if_pos hc, leftOpen_opener ho hn]
      omega
    have hsurplus : depth + (surplus body + if opensTwice opener then 1 else 0) + surplus rest =
        depth + surplus (opener :: (body ++ closer :: rest)) := by
      rw [surplus_cons, surplus_append, surplus_cons, opensTwice_closer hc,
        if_neg Bool.false_ne_true]
      omega
    -- The opener leaves a block open, so the body is skipped before the closer is reached.
    rw [bare_linesOf_cons, readStatements_line hl hd, skippingFrom_of_pos hopened,
      bare_linesOf_append, ihb hopened]
    rw [bare_linesOf_cons, readStatements_line hl' (by omega), hclosed,
      skippingFrom_of_pos (by omega), ihr (by omega), hsurplus]

/-- A statement outside the model is skipped, in the block and in a branch alike. -/
lemma readStatement_foreign {s : Reading} (hs : s.skipping = none) (hp : s.place ≠ .afterBlock)
    {w : String} (hw : Stanza.Kind.ofWord? w = none)
    (hf : w ∉ ["end", "elsif", "else", "if", "unless"]) (line : Nat) (tail : List Placed) :
    readStatement s ⟨⟨.word w, line⟩, tail⟩ =
      .ok (if opensBlock tail then { s with skipping := some (line, 1) } else s) := by
  obtain ⟨outer, clauses, place, skipping⟩ := s
  cases hs
  cases place with
  | block =>
    have hblock : w ∉ ["end", "if", "unless"] := fun h => hf (by simp_all)
    change readInBlock _ _ = _
    rw [readInBlock_word hblock, readStanza, hw]
  | branch c =>
    change readInBranch _ c _ = _
    rw [readInBranch_word hf, readStanza, hw]
  | afterBlock => exact absurd rfl hp

/-- A stanza with its block is skipped up to the blocks that a line opens in excess. -/
lemma readStatements_stanza (b : BlockStanza) {s : Reading} (hs : s.skipping = none)
    (hp : s.place ≠ .afterBlock) (qs : List Placed) :
    readStatements s (ofLexemes (bare b.lexemes ++ qs)) =
      readStatements { s with skipping := skippingFrom 0 (surplus b.body) } (ofLexemes qs) := by
  obtain ⟨hnewline, hdepth, hcomma⟩ := b.opener_isLine
  have hargs : Lexeme.newline ∉ b.args := fun h => hnewline (List.mem_cons_of_mem _ h)
  have hsplit : bare b.lexemes ++ qs = ⟨.word b.word, 0⟩ ::
      (bare b.args ++ ⟨.newline, 0⟩ :: (bare (linesOf (b.body ++ [b.closer])) ++ qs)) := by
    simp [BlockStanza.lexemes, linesOf, bare]
  have hopens : opensBlock (bare b.args) = true := by
    rw [opensBlock, List.any_eq_true]
    exact ⟨⟨.word "do", 0⟩, List.mem_map_of_mem b.do_mem, rfl⟩
  have hleft : leftOpen (1 + surplus b.body) b.closer = surplus b.body := by
    rw [leftOpen, if_pos b.closes_closer]
    omega
  rw [hsplit, Statement.ofLexemes_complete (by simp) (by simpa using hargs) rfl
    (by simpa [Statement.depth] using hdepth) (endsWithComma_bare hcomma), readStatements,
    readStatement_foreign hs hp b.foreign b.free, if_pos hopens]
  change readStatements ⟨_, _, _, some (0, 1)⟩ _ = _
  rw [bare_linesOf_append, readStatements_wellNested b.nested Nat.one_pos, bare_linesOf_cons,
    readStatements_line b.closer_isLine (by omega), hleft]
  rfl

/-! ## Blocks that are left open -/

/-- How many blocks are open around a place. -/
def Place.level : Place → Nat
  | .block => 1
  | .branch _ => 2
  | .afterBlock => 0

/-- How many blocks are open. -/
def Reading.level (s : Reading) : Nat := s.place.level + skippedBlocks s.skipping

/-- Nothing is skipped after the end of the definition, and nothing without an open block. -/
def Reading.Sound (s : Reading) : Prop :=
  ∀ n depth, s.skipping = some (n, depth) → 0 < depth ∧ 0 < s.place.level

/-- By how much a statement that is skipped changes the number of open blocks. -/
def rise (st : Statement) : Int :=
  if isWord "end" st.head then -1
  else (if blockOpeners.any (isWord · st.head) then 1 else 0) +
    (if opensBlock (st.head :: st.tail) then 1 else 0)

/-- A skipped statement leaves open what it does not close. -/
lemma openBlocks_rise {depth : Nat} (hd : 0 < depth) (st : Statement) :
    (openBlocks depth st : Int) = depth + rise st := by
  unfold openBlocks rise
  split
  · omega
  · split <;> split <;> rfl

/-- Only a statement that begins with `end` closes a block. -/
lemma rise_nonneg {st : Statement} (h : isWord "end" st.head = false) : 0 ≤ rise st := by
  rw [rise, h, if_neg Bool.false_ne_true]
  split <;> split <;> decide

/-- A statement that begins with `if` opens a block. -/
lemma one_le_rise_if (line : Nat) (tail : List Placed) :
    1 ≤ rise ⟨⟨.word "if", line⟩, tail⟩ := by
  have hopener : blockOpeners.any (isWord · ⟨.word "if", line⟩) = true := rfl
  have hend : isWord "end" ⟨.word "if", line⟩ = false := rfl
  rw [rise, hend, if_neg Bool.false_ne_true, hopener, if_pos rfl]
  split <;> decide

/-- A statement with the word `do` opens a block. -/
lemma le_rise_of_opensBlock {w : String} (hw : w ≠ "end") (line : Nat) (tail : List Placed) :
    ((if opensBlock tail then 1 else 0 : Nat) : Int) ≤ rise ⟨⟨.word w, line⟩, tail⟩ := by
  have hend : isWord "end" ⟨.word w, line⟩ = false := by simpa [isWord] using hw
  cases hopens : opensBlock tail with
  | true =>
    have hall : opensBlock (⟨.word w, line⟩ :: tail) = true := by
      rw [opensBlock, List.any_cons, ← opensBlock, hopens, Bool.or_true]
    rw [rise, hend, if_neg Bool.false_ne_true, hall, if_pos rfl]
    split <;> decide
  | false => simpa using rise_nonneg hend

/-- A word at which stanzas may begin does not end a block. -/
lemma Place.IsFree.ne_end {w : String} {place : Place} (h : place.IsFree w) : w ≠ "end" := by
  rintro rfl
  cases place with
  | block => exact h List.mem_cons_self
  | branch c => exact h List.mem_cons_self
  | afterBlock => exact h

/-- Stanzas may begin where a block is open. -/
lemma Place.IsFree.level_pos {w : String} {place : Place} (h : place.IsFree w) :
    0 < place.level := by
  cases place with
  | block => exact Nat.one_pos
  | branch c => exact Nat.two_pos
  | afterBlock => exact h.elim

variable {s s' t t' : Reading} {st : Statement}

/-- A statement that is skipped changes the number of open blocks by what it opens or closes. -/
lemma level_skipped {line depth : Nat}
    (hs : Reading.Sound ⟨outer, clauses, place, some (line, depth)⟩) (st : Statement) :
    (Reading.level ⟨outer, clauses, place, skippingFrom line (openBlocks depth st)⟩ : Int) =
      Reading.level ⟨outer, clauses, place, some (line, depth)⟩ + rise st := by
  have hrise := openBlocks_rise (hs line depth rfl).1 st
  rw [Reading.level, Reading.level, skippedBlocks_skippingFrom]
  change ((place.level + _ : Nat) : Int) = (place.level + depth : Nat) + _
  omega

/-- A statement opens no more blocks than it would if it was skipped. -/
lemma Takes.level_le (h : Takes s st t) (hs : s.Sound) : (t.level : Int) ≤ s.level + rise st := by
  cases h with
  | skipped outer clauses place line depth st =>
    exact Int.le_of_eq (level_skipped hs st)
  | @foreign w outer clauses place line tail hw hp =>
    have hrise := le_rise_of_opensBlock hp.ne_end line tail
    rw [Reading.level, Reading.level, skippedBlocks_skippingFrom]
    change ((place.level + _ : Nat) : Int) ≤ (place.level + 0 : Nat) + _
    omega
  | @blockStanza kind outer d clauses line tail hd =>
    have hrise : 0 ≤ rise ⟨⟨.word kind.word, line⟩, tail⟩ :=
      rise_nonneg (by simpa [isWord] using word_ne (w := "end") rfl kind)
    exact Int.le_add_of_nonneg_right hrise
  | @branchStanza kind outer clauses c d line tail hd =>
    have hrise : 0 ≤ rise ⟨⟨.word kind.word, line⟩, tail⟩ :=
      rise_nonneg (by simpa [isWord] using word_ne (w := "end") rfl kind)
    exact Int.le_add_of_nonneg_right hrise
  | @chainIf outer line tail guard hg =>
    have hrise := one_le_rise_if line tail
    change (2 : Int) ≤ 1 + rise _
    omega
  | @chainElsif outer clauses c line tail guard hc hg =>
    exact Int.le_add_of_nonneg_right (rise_nonneg rfl)
  | chainElse outer clauses line hc => exact Int.le_add_of_nonneg_right (rise_nonneg rfl)
  | chainEnd outer clauses c line => exact Int.le_refl 1
  | blockEnd outer clauses line => exact Int.le_refl 0

/-- What is sound stays so. -/
lemma Takes.sound (h : Takes s st t) (hs : s.Sound) : t.Sound := by
  have hskipping : ∀ {place : Place} {outer : Declarations} {clauses : Option (List Clause)}
      {line depth : Nat}, 0 < place.level →
      Reading.Sound ⟨outer, clauses, place, skippingFrom line depth⟩ := by
    intro place outer clauses line depth hplace n d hsome
    rw [skippingFrom] at hsome
    split at hsome
    · cases hsome
    · next hd =>
      cases hsome
      exact ⟨Nat.pos_of_ne_zero hd, hplace⟩
  cases h with
  | skipped outer clauses place line depth st => exact hskipping (hs line depth rfl).2
  | foreign outer clauses line tail hw hp => exact hskipping hp.level_pos
  | _ =>
    intro n d hsome
    cases hsome

/-- A guard that is accepted opens no block. -/
lemma opensBlock_of_readCondition {line : Nat} {tail : List Placed} {guard : Guard}
    (h : readCondition line tail = .ok guard) : opensBlock tail = false := by
  have hrefused : Guard.Refused "do" := ⟨by decide, by decide⟩
  rw [opensBlock, List.any_eq_false]
  intro l hl
  simpa [isWord] using ne_word_of_readCondition h hrefused hl

/-- A statement is taken only where a block is open. -/
lemma Takes.level_pos (h : Takes s st t) (hs : s.Sound) : 0 < s.level := by
  cases h with
  | skipped outer clauses place line depth st =>
    have hplace := (hs line depth rfl).2
    exact Nat.lt_of_lt_of_le hplace (Nat.le_add_right _ _)
  | foreign outer clauses line tail hw hp => exact hp.level_pos
  | _ => exact Nat.succ_pos _

/-- A single block is that of the definition. -/
lemma Reading.Sound.exists_eq_of_level (hs : s.Sound) (h : s.level = 1) :
    ∃ outer clauses, s = ⟨outer, clauses, .block, none⟩ := by
  obtain ⟨outer, clauses, place, skipping⟩ := s
  cases skipping with
  | none =>
    cases place with
    | block => exact ⟨outer, clauses, rfl⟩
    | branch c => cases h
    | afterBlock => cases h
  | some p =>
    obtain ⟨hdepth, hplace⟩ := hs p.1 p.2 rfl
    have hsum : place.level + p.2 = 1 := h
    have hlevel : 0 < place.level := hplace
    omega

/-- In a branch, only `end` closes it, and a statement with a block that is outside the model opens
that block. -/
lemma Takes.level_branch {c : Chain} (h : Takes ⟨outer, clauses, .branch c, none⟩ st t) :
    st.head.lexeme ≠ .word "if" ∧ 1 ≤ t.level ∧ (st.head.lexeme ≠ .word "end" → 2 ≤ t.level) ∧
      ∀ w, st.head.lexeme = .word w → Stanza.Kind.ofWord? w = none → w ≠ "end" →
        opensBlock st.tail = true → 3 ≤ t.level := by
  cases h with
  | @foreign w _ _ _ line tail hw hp =>
    have hlevel : Reading.level ⟨outer, clauses, .branch c,
        skippingFrom line (if opensBlock tail then 1 else 0)⟩ =
        2 + if opensBlock tail then 1 else 0 := by
      rw [Reading.level, skippedBlocks_skippingFrom]
      rfl
    rw [hlevel]
    refine ⟨?_, by omega, fun _ => by omega, fun _ _ _ _ hopens => ?_⟩
    · rintro ⟨⟩
      exact hp (by decide)
    · rw [if_pos hopens]
  | @branchStanza kind _ _ _ d line tail hd =>
    refine ⟨?_, Nat.le_succ 1, fun _ => Nat.le_refl 2, fun w hword hw _ _ => ?_⟩
    · simpa using word_ne (w := "if") rfl kind
    · exact absurd (Lexeme.word.inj hword) (word_ne hw kind)
  | @chainElsif _ _ _ line tail guard hc hg =>
    refine ⟨by simp, Nat.le_succ 1, fun _ => Nat.le_refl 2, fun w _ _ _ hopens => ?_⟩
    rw [opensBlock_of_readCondition hg] at hopens
    cases hopens
  | chainElse _ _ line hc =>
    exact ⟨by simp, Nat.le_succ 1, fun _ => Nat.le_refl 2, fun w _ _ _ hopens => nomatch hopens⟩
  | chainEnd _ _ _ line =>
    exact ⟨by simp, Nat.le_refl 1, fun hne => absurd rfl hne, fun w _ _ _ hopens => nomatch hopens⟩

/-- What is skipped at a greater depth, or read in a branch instead of in the block, stays at a
greater depth. -/
lemma Takes.level_lt (h : Takes s st t) (h' : Takes s' st t') (hs : s.Sound) (hs' : s'.Sound)
    (hlt : s.level < s'.level) : t.level < t'.level := by
  have hpos := h.level_pos hs
  obtain ⟨outer, clauses, place, skipping⟩ := s'
  cases skipping with
  | some p =>
    cases h' with
    | skipped outer clauses place line depth st =>
      have hle := h.level_le hs
      have heq := level_skipped hs' st
      omega
  | none =>
    cases place with
    | block => exact absurd hlt (Nat.not_lt.2 hpos)
    | afterBlock => exact absurd hlt (Nat.not_lt_zero _)
    | branch c =>
      obtain ⟨hif, hone, htwo, hthree⟩ := h'.level_branch
      have hlevel : s.level = 1 := Nat.le_antisymm (Nat.le_of_lt_succ hlt) hpos
      obtain ⟨outer, clauses, rfl⟩ := hs.exists_eq_of_level hlevel
      cases h with
      | @foreign w _ _ _ line tail hw hp =>
        have hend : Lexeme.word w ≠ .word "end" := fun he => hp.ne_end (Lexeme.word.inj he)
        rw [Reading.level, skippedBlocks_skippingFrom]
        change 1 + _ < t'.level
        split
        · next hopens => exact hthree w rfl hw hp.ne_end hopens
        · exact htwo hend
      | @blockStanza kind _ d _ line tail hd =>
        refine htwo ?_
        simpa using word_ne (w := "end") rfl kind
      | chainIf outer hg => exact absurd rfl hif
      | blockEnd outer clauses line => exact hone

/-- The run keeps what every statement keeps: what is read at a greater depth ends at one. -/
lemma level_lt_of_readStatements {sts : List Statement} (hsts : Statement.Unbroken sts)
    (h : readStatements s sts = .ok t) (h' : readStatements s' sts = .ok t') (hs : s.Sound)
    (hs' : s'.Sound) (hlt : s.level < s'.level) : t.level < t'.level := by
  induction sts generalizing s s' with
  | nil =>
    cases h
    cases h'
    exact hlt
  | cons st sts ih =>
    have hst := hsts st List.mem_cons_self
    rw [readStatements] at h h'
    cases hread : readStatement s st with
    | error e =>
      rw [hread] at h
      cases h
    | ok u =>
      cases hread' : readStatement s' st with
      | error e =>
        rw [hread'] at h'
        cases h'
      | ok u' =>
        rw [hread] at h
        rw [hread'] at h'
        have htakes := takes_of_readStatement hst hread
        have htakes' := takes_of_readStatement hst hread'
        exact ih (fun st hmem => hsts st (List.mem_cons_of_mem _ hmem)) h h' (htakes.sound hs)
          (htakes'.sound hs') (htakes.level_lt htakes' hs hs' hlt)

/-- A definition ends with no open block. -/
lemma Reading.Ended.level (h : s.Ended) : s.level = 0 := by
  rw [Reading.level, h.1, h.2]
  rfl

/-- It does not matter for a complete reading which line is the last. -/
lemma Reading.Ended.finish_eq (h : s.Ended) (last last' : Nat) :
    finish last s = finish last' s := by
  unfold finish
  rw [h.2, h.1]

/-! ## Definitions with a block more -/

/-- What is read further with an open block to skip, by a reader that stands in the block or in a
branch, is no definition if it was one without. -/
lemma finish_ne_ok_of_skipping {n depth last last' : Nat} {qs : List Placed}
    {q q' : Declarations × List Clause} (hs : s.skipping = none) (hp : s.place ≠ .afterBlock)
    (hd : 0 < depth) (h : (readStatements s (ofLexemes qs)).bind (finish last) = .ok q) :
    (readStatements { s with skipping := some (n, depth) } (ofLexemes qs)).bind (finish last') ≠
      .ok q' := by
  intro h'
  obtain ⟨t, ht, -⟩ := bind_eq_ok h
  obtain ⟨t', ht', hfinish⟩ := bind_eq_ok h'
  have hsound : s.Sound := fun n d hsome => nomatch hs.symm.trans hsome
  have hlevel : 0 < s.place.level := by
    cases hplace : s.place with
    | afterBlock => exact absurd hplace hp
    | _ => exact Nat.succ_pos _
  have hsound' : Reading.Sound { s with skipping := some (n, depth) } := by
    intro n d hsome
    cases hsome
    exact ⟨hd, hlevel⟩
  have hlt : s.level < Reading.level { s with skipping := some (n, depth) } := by
    rw [Reading.level, hs]
    exact Nat.add_lt_add_left hd _
  have hend :=
    level_lt_of_readStatements (Statement.unbroken_ofLexemes qs) ht ht' hsound hsound' hlt
  rw [(ended_of_finish hfinish).level] at hend
  exact absurd hend (Nat.not_lt_zero _)

/-- A stanza with a block between two statements changes nothing if no line in the block opens two
blocks at once; otherwise there is no definition any more. -/
lemma readLexemes_insert_stanza {ps qs : List Placed} {token : String} {m : Manifest}
    (h : EndsWithin ps token s) (b : BlockStanza) (hm : readLexemes (ps ++ qs) = .ok m) :
    (surplus b.body = 0 → readLexemes (ps ++ (bare b.lexemes ++ qs)) = .ok m) ∧
      (0 < surplus b.body → ∀ m', readLexemes (ps ++ (bare b.lexemes ++ qs)) ≠ .ok m') := by
  rw [h.readLexemes_append] at hm
  obtain ⟨q, hq, hbuild⟩ := bind_eq_ok hm
  obtain ⟨t, ht, hfinish⟩ := bind_eq_ok hq
  rw [h.readLexemes_append, readStatements_stanza b h.skipping h.place]
  constructor
  · intro hzero
    have hs : { s with skipping := skippingFrom 0 (surplus b.body) } = s := by
      rw [hzero, skippingFrom, if_pos rfl, ← h.skipping]
    have hend := (ended_of_finish hfinish).finish_eq
      (lastLine (ps ++ (bare b.lexemes ++ qs))) (lastLine (ps ++ qs))
    rw [hs, ht, ok_bind, hend, hfinish, ok_bind]
    exact hbuild
  · intro hpos m' hm'
    rw [skippingFrom_of_pos hpos] at hm'
    obtain ⟨q', hq', -⟩ := bind_eq_ok hm'
    exact finish_ne_ok_of_skipping h.skipping h.place hpos hq hq'

/-- A stanza outside the model with a well-nested block is put between two statements of the block
or of a branch. If no line in it opens a block both at its start and by the word `do`, the manifest
is what it was; if some line does, the definition is refused. -/
theorem parse_insert_stanza {before stanza after : String} {ps xs : List Placed} {token : String}
    {m : Manifest} (b : BlockStanza) (hbefore : EndsLine before)
    (hps : Lexeme.scan before = .ok ps) (hwithin : EndsWithin ps token s)
    (hstanza : EndsLine stanza) (hxs : Lexeme.scan stanza = .ok xs)
    (hb : xs.map Placed.lexeme = b.lexemes) (hm : parse (before ++ after) = .ok m) :
    ((∀ line ∈ b.body, opensTwice line = false) →
      parse (before ++ (stanza ++ after)) = .ok m) ∧
    ((∃ line ∈ b.body, opensTwice line = true) →
      ∀ m', parse (before ++ (stanza ++ after)) ≠ .ok m') := by
  obtain ⟨ls, hls, rfl⟩ := Lexeme.scanFrom_eq_ok_iff.1 hps
  obtain ⟨zs, hzs, hm⟩ := exists_scans_of_parse hm
  obtain ⟨ms, hms, rfl⟩ := hbefore.exists_scans hls hzs
  obtain ⟨line, hplace⟩ := Lexeme.exists_place_append 1 ls ms
  rw [hplace] at hm
  have hnew : Lexeme.Scans (before ++ (stanza ++ after)).toList (ls ++ (b.lexemes ++ ms)) :=
    hbefore.scans_append hls (hstanza.scans_append (hb ▸ Lexeme.scans_of_scanFrom hxs) hms)
  have hcongr : (readLexemes (Lexeme.place 1 (ls ++ (b.lexemes ++ ms)))).mapError
        SourceError.unlined =
      (readLexemes (Lexeme.place 1 ls ++ (bare b.lexemes ++ Lexeme.place line ms))).mapError
        SourceError.unlined := readLexemes_congr (by simp)
  obtain ⟨hsame, hnone⟩ := readLexemes_insert_stanza hwithin b hm
  rw [parse_eq, scan_eq_ok hnew]
  constructor
  · intro hbody
    exact eq_ok_of_unlined hcongr.symm (hsame (List.countP_eq_zero.2 (by simpa using hbody)))
  · rintro ⟨line', hmem, htwice⟩ m' hm'
    exact hnone (List.countP_pos_iff.2 ⟨line', hmem, htwice⟩) m' (eq_ok_of_unlined hcongr hm')

/-- A stanza `postflight` in whose block a line opens another block. -/
def postflight (line : List Lexeme) (hl : IsLine line) (ho : opens line = true)
    (hn : closes line = false) : BlockStanza where
  word := "postflight"
  args := [.word "do"]
  body := [line, [.word "wait"], [.word "end"]]
  closer := [.word "end"]
  foreign := rfl
  free := by decide
  opener_isLine := ⟨by decide, by decide, by decide⟩
  do_mem := List.mem_cons_self
  nested :=
    have hwait : WellNested [[.word "wait"]] :=
      .plain ⟨by decide, by decide, by decide⟩ rfl rfl .nil
    .block hl ho hn hwait ⟨by decide, by decide, by decide⟩ rfl .nil
  closer_isLine := ⟨by decide, by decide, by decide⟩
  closes_closer := rfl

/-- What a definition says with a version and nothing else so far. -/
def versioned : Reading := ⟨{ Declarations.empty with version := some ⟨"1"⟩ }, none, .block, none⟩

/-- The lines of a definition that say this. -/
def versionLines : String := "cask 'x' do\nversion '1'\n"

/-- A checksum, and the end of the definition. -/
def checksumLines : String := "sha256 :no_check\nend"

/-- A block with a condition in it. -/
def conditionLines : String := "postflight do\nif busy\nwait\nend\nend\n"

/-- A block with a loop in it. -/
def loopLines : String := "postflight do\nwhile busy do\nwait\nend\nend\n"

/-- A block with another loop in it. -/
def untilLines : String := "postflight do\nuntil idle do\nwait\nend\nend\n"

/-- The first lines of a definition end in its block. -/
lemma endsWithin_versioned :
    EndsWithin [⟨.word "cask", 1⟩, ⟨.text "x", 1⟩, ⟨.word "do", 1⟩, ⟨.newline, 1⟩,
      ⟨.word "version", 2⟩, ⟨.text "1", 2⟩, ⟨.newline, 2⟩] "x" versioned :=
  ⟨rfl, ⟨_, rfl, rfl⟩, rfl, nofun⟩

/-- The manifest of a definition with a version and without a checksum. -/
lemma parse_versioned : parse (versionLines ++ checksumLines) =
    .ok ⟨⟨"x"⟩, .empty, [.fallback { Declarations.empty with
      version := some ⟨"1"⟩, checksum := some .noCheck }]⟩ := by
  have hscan : Lexeme.scan (versionLines ++ checksumLines) =
      .ok [⟨.word "cask", 1⟩, ⟨.text "x", 1⟩, ⟨.word "do", 1⟩, ⟨.newline, 1⟩,
        ⟨.word "version", 2⟩, ⟨.text "1", 2⟩, ⟨.newline, 2⟩, ⟨.word "sha256", 3⟩,
        ⟨.symbol "no_check", 3⟩, ⟨.newline, 3⟩, ⟨.word "end", 4⟩] := by
    decide +kernel
  rw [parse_eq, hscan]
  rfl

/-- A block with a condition in it is skipped; one with a loop is not. -/
theorem parse_insert_postflight :
    parse (versionLines ++ (conditionLines ++ checksumLines)) =
      .ok ⟨⟨"x"⟩, .empty, [.fallback { Declarations.empty with
        version := some ⟨"1"⟩, checksum := some .noCheck }]⟩ ∧
    ∀ m, parse (versionLines ++ (untilLines ++ checksumLines)) ≠ .ok m := by
  have hbefore : EndsLine versionLines :=
    .inr ⟨"cask 'x' do\nversion '1'", [⟨.word "cask", 1⟩, ⟨.text "x", 1⟩, ⟨.word "do", 1⟩,
      ⟨.newline, 1⟩, ⟨.word "version", 2⟩, ⟨.text "1", 2⟩], by decide +kernel, by decide +kernel⟩
  constructor
  · have hstanza : Lexeme.scan conditionLines =
        .ok [⟨.word "postflight", 1⟩, ⟨.word "do", 1⟩, ⟨.newline, 1⟩, ⟨.word "if", 2⟩,
          ⟨.word "busy", 2⟩, ⟨.newline, 2⟩, ⟨.word "wait", 3⟩, ⟨.newline, 3⟩, ⟨.word "end", 4⟩,
          ⟨.newline, 4⟩, ⟨.word "end", 5⟩, ⟨.newline, 5⟩] := by
      decide +kernel
    refine (parse_insert_stanza
      (postflight [.word "if", .word "busy"] ⟨by decide, by decide, by decide⟩ rfl rfl) hbefore
      (by decide +kernel) endsWithin_versioned ?_ hstanza rfl parse_versioned).1 (by decide)
    exact .inr ⟨"postflight do\nif busy\nwait\nend\nend", [⟨.word "postflight", 1⟩,
      ⟨.word "do", 1⟩, ⟨.newline, 1⟩, ⟨.word "if", 2⟩, ⟨.word "busy", 2⟩, ⟨.newline, 2⟩,
      ⟨.word "wait", 3⟩, ⟨.newline, 3⟩, ⟨.word "end", 4⟩, ⟨.newline, 4⟩, ⟨.word "end", 5⟩],
      by decide +kernel, by decide +kernel⟩
  · have hstanza : Lexeme.scan untilLines =
        .ok [⟨.word "postflight", 1⟩, ⟨.word "do", 1⟩, ⟨.newline, 1⟩, ⟨.word "until", 2⟩,
          ⟨.word "idle", 2⟩, ⟨.word "do", 2⟩, ⟨.newline, 2⟩, ⟨.word "wait", 3⟩, ⟨.newline, 3⟩,
          ⟨.word "end", 4⟩, ⟨.newline, 4⟩, ⟨.word "end", 5⟩, ⟨.newline, 5⟩] := by
      decide +kernel
    refine (parse_insert_stanza
      (postflight [.word "until", .word "idle", .word "do"] ⟨by decide, by decide, by decide⟩ rfl
        rfl) hbefore (by decide +kernel) endsWithin_versioned ?_ hstanza rfl parse_versioned).2
      ⟨_, List.mem_cons_self, rfl⟩
    exact .inr ⟨"postflight do\nuntil idle do\nwait\nend\nend", [⟨.word "postflight", 1⟩,
      ⟨.word "do", 1⟩, ⟨.newline, 1⟩, ⟨.word "until", 2⟩, ⟨.word "idle", 2⟩, ⟨.word "do", 2⟩,
      ⟨.newline, 2⟩, ⟨.word "wait", 3⟩, ⟨.newline, 3⟩, ⟨.word "end", 4⟩, ⟨.newline, 4⟩,
      ⟨.word "end", 5⟩], by decide +kernel, by decide +kernel⟩

/-- A well-nested block with a loop makes a definition end too early. -/
theorem parse_insert_loop :
    parse (versionLines ++ checksumLines) =
      .ok ⟨⟨"x"⟩, .empty, [.fallback { Declarations.empty with
        version := some ⟨"1"⟩, checksum := some .noCheck }]⟩ ∧
    (∃ b : BlockStanza, Lexeme.Scans loopLines.toList b.lexemes) ∧
    parse (versionLines ++ (loopLines ++ checksumLines)) =
      .error (.definition 9 .missingBlockEnd) := by
  have hstanza : Lexeme.scan loopLines =
      .ok [⟨.word "postflight", 1⟩, ⟨.word "do", 1⟩, ⟨.newline, 1⟩, ⟨.word "while", 2⟩,
        ⟨.word "busy", 2⟩, ⟨.word "do", 2⟩, ⟨.newline, 2⟩, ⟨.word "wait", 3⟩, ⟨.newline, 3⟩,
        ⟨.word "end", 4⟩, ⟨.newline, 4⟩, ⟨.word "end", 5⟩, ⟨.newline, 5⟩] := by
    decide +kernel
  have hscan : Lexeme.scan (versionLines ++ (loopLines ++ checksumLines)) =
      .ok [⟨.word "cask", 1⟩, ⟨.text "x", 1⟩, ⟨.word "do", 1⟩, ⟨.newline, 1⟩,
        ⟨.word "version", 2⟩, ⟨.text "1", 2⟩, ⟨.newline, 2⟩, ⟨.word "postflight", 3⟩,
        ⟨.word "do", 3⟩, ⟨.newline, 3⟩, ⟨.word "while", 4⟩, ⟨.word "busy", 4⟩, ⟨.word "do", 4⟩,
        ⟨.newline, 4⟩, ⟨.word "wait", 5⟩, ⟨.newline, 5⟩, ⟨.word "end", 6⟩, ⟨.newline, 6⟩,
        ⟨.word "end", 7⟩, ⟨.newline, 7⟩, ⟨.word "sha256", 8⟩, ⟨.symbol "no_check", 8⟩,
        ⟨.newline, 8⟩, ⟨.word "end", 9⟩] := by
    decide +kernel
  refine ⟨parse_versioned, ⟨postflight [.word "while", .word "busy", .word "do"]
    ⟨by decide, by decide, by decide⟩ rfl rfl, Lexeme.scans_of_scanFrom hstanza⟩, ?_⟩
  rw [parse_eq, hscan]
  rfl

end Definition

end CaskAudit
