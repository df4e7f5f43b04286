import CaskAudit.Guard.Printer
import CaskAudit.Proofs.Guard.Grammar
import CaskAudit.Proofs.Lexeme.Boundaries
import CaskAudit.Proofs.Text.Cutting
import CaskAudit.Proofs.Text.Trimming

/-!
# Guards that are written and read again

A guard is written so that it can be read again. `ofText_render` says of which guard the reader
then speaks: of the written one, but for junctions of a single operand, which are the operand
(`collapse`), and that means the same on every host. The text is followed piece by piece: `Writes s
p` says that the text `s` is cut into lexemes that form the phrase `p`, whatever follows it, as long
as this does not go on with the last lexeme.
-/

namespace CaskAudit.Guard

open Lexeme Text

/-! ## Guards that can be written -/

/-- A text is a letter or an underscore, followed by letters, digits and underscores. -/
def isIdentifier (s : String) : Bool := startsWord s.toList && s.toList.all isWordPart

mutual

/-- Every junction in a guard has operands and every release is an identifier. -/
def Writable : Guard → Prop
  | .release _ token => isIdentifier token = true
  | .capability _ => True
  | .not g => Writable g
  | .all gs => gs ≠ [] ∧ AllWritable gs
  | .any gs => gs ≠ [] ∧ AllWritable gs

/-- Every junction in several guards has operands and every release is an identifier. -/
def AllWritable : List Guard → Prop
  | [] => True
  | g :: gs => Writable g ∧ AllWritable gs

end

mutual

/-- A guard with the operand in place of every junction of a single one, at every depth. -/
def collapse : Guard → Guard
  | .release op token => .release op token
  | .capability c => .capability c
  | .not g => .not (collapse g)
  | .all [g] => collapse g
  | .all gs => .all (collapseAll gs)
  | .any [g] => collapse g
  | .any gs => .any (collapseAll gs)

/-- Several guards with the operand in place of every junction of a single one, at every depth. -/
def collapseAll : List Guard → List Guard
  | [] => []
  | g :: gs => collapse g :: collapseAll gs

end

/-- A junction of operands is the combination of what they collapse to, or what the only operand
collapses to. -/
lemma collapse_combine (k : Connective) (gs : List Guard) :
    collapse (k.combine gs) = junction k.combine (collapseAll gs) := by
  match gs with
  | [] => cases k <;> rfl
  | [g] => cases k <;> rfl
  | g :: g' :: gs => cases k <;> rfl

/-- What a conjunction collapses to. -/
lemma collapse_all (gs : List Guard) : collapse (.all gs) = junction .all (collapseAll gs) :=
  collapse_combine .and gs

/-- What an alternative collapses to. -/
lemma collapse_any (gs : List Guard) : collapse (.any gs) = junction .any (collapseAll gs) :=
  collapse_combine .or gs

/-- A junction of several operands is their combination. -/
lemma junction_of_two_le (k : Connective) {gs : List Guard} (h : 2 ≤ gs.length) :
    junction k.combine gs = k.combine gs := by
  match gs, h with
  | _ :: _ :: _, _ => rfl

/-! ## Texts cut into lexemes whatever follows -/

/-- A text is cut into lexemes and what follows it by itself, unless that goes on with a word; and
it begins with no equality sign, which could go on with what stands before it. -/
structure Cuts (s : String) (ls : List Lexeme) : Prop where
  head : ∃ c cs, s.toList = c :: cs ∧ c ≠ '='
  scans_iff : ∀ {t : List Char} {ms : List Lexeme}, stopsWord t = true →
    (Scans (s.toList ++ t) ms ↔ ∃ ns, ms = ls ++ ns ∧ Scans t ns)

/-- A symbol is cut off as an identifier. -/
lemma next_symbol {token : String} (h : isIdentifier token = true) {t : List Char}
    (ht : stopsWord t = true) : next ':' (token.toList ++ t) = .ok (some (.symbol token), t) := by
  obtain ⟨hstart, hall⟩ : startsWord token.toList = true ∧
      ∀ c ∈ token.toList, isWordPart c = true := by
    simpa [isIdentifier] using h
  have hstop : t.takeWhile isWordPart = [] ∧ t.dropWhile isWordPart = t := by
    cases t with
    | nil => exact ⟨rfl, rfl⟩
    | cons c t =>
      have hc : isWordPart c = false := by
        simp only [stopsWord, Bool.and_eq_true, Bool.not_eq_true'] at ht
        exact ht.1.1.1
      simp [hc]
  have htake : (token.toList ++ t).takeWhile isWordPart = token.toList := by
    rw [List.takeWhile_append_of_pos hall, hstop.1, List.append_nil]
  have hdrop : (token.toList ++ t).dropWhile isWordPart = t := by
    rw [List.dropWhile_append_of_pos hall, hstop.2]
  have hstarts : startsWord (token.toList ++ t) = true := by
    rw [startsWord_append (stopsPath_of_stopsWord ht), hstart]
  rw [next_colon hstarts, htake, hdrop, String.ofList_toList]

/-- The operator that a comparison is written with. -/
def written : Comparison → Operator
  | .eq => .eq
  | .ne => .ne
  | .lt => .lt
  | .le => .le
  | .gt => .gt
  | .ge => .ge

/-- A comparison is written as its operator is. -/
lemma symbol_written (op : Comparison) : (written op).symbol = op.symbol := by
  cases op <;> rfl

/-- The operator of a comparison is cut off before a space. -/
lemma scans_comparison_iff (op : Comparison) {t : List Char} {ms : List Lexeme} :
    Scans (op.symbol.toList ++ ' ' :: t) ms ↔
      ∃ ns, ms = .operator (written op) :: ns ∧ Scans t ns := by
  obtain ⟨c, rest, hs, hn⟩ : ∃ c rest, op.symbol.toList ++ ' ' :: t = c :: rest ∧
      next c rest = .ok (some (.operator (written op)), ' ' :: t) := by
    cases op <;> exact ⟨_, _, rfl, rfl⟩
  rw [hs, scans_cons_iff hn]
  simp only [scans_space_iff]

/-- The beginning of a comparison is cut into the path of the release and the operator. -/
lemma scans_release_iff (op : Comparison) {t : List Char} {ms : List Lexeme} :
    Scans (("MacOS.release " ++ op.symbol ++ " ").toList ++ t) ms ↔
      ∃ ns, ms = .word "MacOS.release" :: .operator (written op) :: ns ∧ Scans t ns := by
  have hs : ("MacOS.release " ++ op.symbol ++ " ").toList ++ t =
      'M' :: ("acOS.release".toList ++ ' ' :: (op.symbol.toList ++ ' ' :: t)) := by
    simp
  have hpath : readPath "acOS.release".toList = ("acOS.release".toList, []) := by decide +kernel
  rw [hs, scans_cons_iff (next_word (by decide) hpath rfl)]
  simp only [scans_space_iff, scans_comparison_iff]
  grind

/-- The text of a comparison with an identifier is cut into its three lexemes. -/
lemma cuts_release (op : Comparison) {token : String} (h : isIdentifier token = true) :
    Cuts ("MacOS.release " ++ op.symbol ++ " :" ++ token)
      [.word "MacOS.release", .operator (written op), .symbol token] := by
  have hs : ∀ t, ("MacOS.release " ++ op.symbol ++ " :" ++ token).toList ++ t =
      ("MacOS.release " ++ op.symbol ++ " ").toList ++ ':' :: (token.toList ++ t) := by
    simp
  refine ⟨⟨'M', "acOS.release ".toList ++ (op.symbol ++ " :" ++ token).toList, by simp, by decide⟩,
    fun {t ms} ht => ?_⟩
  rw [hs, scans_release_iff]
  simp only [scans_cons_iff (next_symbol h ht)]
  grind

/-- The text of a question for a capability is cut into one lexeme. -/
lemma cuts_term (c : Capability) : Cuts c.term [.word c.term] := by
  obtain ⟨cs, hpath, hs⟩ : ∃ cs, readPath cs = (cs, []) ∧ c.term.toList = 'H' :: (cs ++ ['?']) :=
    ⟨c.term.toList.tail.dropLast, by cases c <;> decide +kernel, by cases c <;> decide⟩
  refine ⟨⟨_, _, hs, by decide⟩, fun {t ms} ht => ?_⟩
  have hn := next_question (c := 'H') (by decide) hpath ht
  rw [← hs, String.ofList_toList] at hn
  have htext : c.term.toList ++ t = 'H' :: (cs ++ '?' :: t) := by simp [hs]
  rw [htext, scans_cons_iff hn]
  simp

/-- A negation is cut off before anything but an equality sign. -/
lemma next_not {c : Char} (hc : c ≠ '=') (rest : List Char) :
    next '!' (c :: rest) = .ok (some (.operator .not), c :: rest) := by
  have hop : readOperator? ('!' :: c :: rest) = some (.not, c :: rest) := by
    simp [readOperator?, Operator.all, Operator.symbol, dropLeading?, Ne.symm hc]
  have hlexeme : readLexeme '!' (c :: rest) = .ok (.operator .not, c :: rest) := by
    unfold readLexeme
    rw [if_neg (by decide), if_neg (by simp), if_neg (by decide), if_neg (by decide)]
    simp [readSign, hop]
  unfold next
  rw [if_neg (by decide), if_neg (by decide), if_neg (by decide), hlexeme]

/-- A negation is cut off from what it negates. -/
lemma Cuts.not {s : String} {ls : List Lexeme} (h : Cuts s ls) :
    Cuts ("!" ++ s) (.operator .not :: ls) := by
  obtain ⟨c, cs, hs, hc⟩ := h.head
  have hs' : ("!" ++ s).toList = '!' :: s.toList := by simp
  refine ⟨⟨_, _, hs', by decide⟩, fun {t ms} ht => ?_⟩
  have hn : next '!' (s.toList ++ t) = .ok (some (.operator .not), s.toList ++ t) := by
    rw [hs]
    exact next_not hc _
  rw [hs', List.cons_append, scans_cons_iff hn]
  simp only [h.scans_iff ht]
  grind

/-- Parentheses are cut off from what stands in them. -/
lemma Cuts.parentheses {s : String} {ls : List Lexeme} (h : Cuts s ls) :
    Cuts ("(" ++ s ++ ")") (.openParen :: (ls ++ [.closeParen])) := by
  have hs : ("(" ++ s ++ ")").toList = '(' :: (s.toList ++ [')']) := by simp
  refine ⟨⟨_, _, hs, by decide⟩, fun {t ms} ht => ?_⟩
  have hopen : next '(' (s.toList ++ ')' :: t) = .ok (some .openParen, s.toList ++ ')' :: t) := rfl
  have hclose : next ')' t = .ok (some .closeParen, t) := rfl
  have htext : ("(" ++ s ++ ")").toList ++ t = '(' :: (s.toList ++ ')' :: t) := by simp
  rw [htext, scans_cons_iff hopen]
  simp only [h.scans_iff (t := ')' :: t) rfl, scans_cons_iff hclose]
  grind

/-- A connective as it is written between two operands. -/
def Connective.separator : Connective → String
  | .or => " || "
  | .and => " && "

/-- A connective is written after a space and cut off before the next one. -/
lemma Connective.separator_eq (k : Connective) : ∃ d ds, k.separator.toList = ' ' :: d :: ds ∧
    ∀ u, next d (ds ++ u) = .ok (some (.operator k.operator), ' ' :: u) := by
  cases k <;> exact ⟨_, _, rfl, fun u => rfl⟩

/-- A connective is cut off from the operands beside it. -/
lemma Cuts.join {s s' : String} {ls ls' : List Lexeme} (k : Connective) (h : Cuts s ls)
    (h' : Cuts s' ls') :
    Cuts (s ++ k.separator ++ s') (ls ++ .operator k.operator :: ls') := by
  obtain ⟨c, cs, hs, hc⟩ := h.head
  refine ⟨⟨c, cs ++ (k.separator ++ s').toList, by simp [hs], hc⟩, fun {t ms} ht => ?_⟩
  obtain ⟨d, ds, hk, hn⟩ := k.separator_eq
  have hsep : (s ++ k.separator ++ s').toList ++ t =
      s.toList ++ ' ' :: d :: (ds ++ (s'.toList ++ t)) := by
    simp [hk]
  rw [hsep, h.scans_iff rfl]
  simp only [scans_space_iff, scans_cons_iff (hn _), h'.scans_iff ht]
  grind

/-! ## The text of a guard -/

/-- A text is cut into lexemes that form a phrase. -/
def Writes (s : String) (p : Phrase) : Prop := ∃ ls, Derives ls p ∧ Cuts s ls

/-- An operand that may be negated is an operand of either connective. -/
lemma Derives.operand {ls : List Lexeme} {g : Guard} (h : Derives ls (.unary g)) (k : Connective) :
    Derives ls (k.operand g) := by
  cases k with
  | or => exact h.conjunction
  | and => exact h

/-- An operand by itself is a guard. -/
lemma Derives.disjunction {k : Connective} {ls : List Lexeme} {g : Guard}
    (h : Derives ls (.junction k g)) : Derives ls (.junction .or g) := by
  cases k with
  | or => exact h
  | and => exact .single (.last (k := .or) h)

/-- There are no blanks around an identifier and no colon before it. -/
lemma ofComparison_of_isIdentifier (op : Comparison) {token : String}
    (h : isIdentifier token = true) : ofComparison op token = .release op token := by
  obtain ⟨hstart, hall⟩ : startsWord token.toList = true ∧
      ∀ c ∈ token.toList, isWordPart c = true := by
    simpa [isIdentifier] using h
  have htrim : trim token.toList = token.toList :=
    trim_of_forall fun c hc => isBlank_of_isWordPart (hall c hc)
  have hcolon : dropOne ':' token.toList = token.toList := by
    refine dropOne_of_head? fun c hc => ?_
    rintro rfl
    obtain ⟨rest, hrest⟩ := List.head?_eq_some_iff.1 hc
    rw [hrest, startsWord] at hstart
    exact absurd hstart (by decide)
  rw [ofComparison, htrim, hcolon, String.ofList_toList]

/-- The text of a primary operand writes it as an operand and by itself. -/
lemma writes_of_primary {s : String} {ls : List Lexeme} {g : Guard} (hd : Derives ls (.primary g))
    (hc : Cuts s ls) : Writes s (.unary g) ∧ Writes s (.junction .or g) :=
  ⟨⟨ls, hd.plain, hc⟩, ⟨ls, hd.plain.conjunction.disjunction, hc⟩⟩

/-- The text of a junction writes it in parentheses as an operand, and without them by itself. -/
lemma writes_of_operands {s : String} {k : Connective} {gs : List Guard}
    (h : Writes s (.operands k gs)) :
    Writes ("(" ++ s ++ ")") (.unary (junction k.combine gs)) ∧
      Writes s (.junction .or (junction k.combine gs)) := by
  obtain ⟨ls, hd, hc⟩ := h
  exact ⟨⟨_, .plain (.parentheses hd.junction.disjunction), hc.parentheses⟩,
    ⟨ls, hd.junction.disjunction, hc⟩⟩

/-- The text of a single operand is the only one. -/
lemma intercalate_renderOperands_singleton (separator : String) (g : Guard) :
    separator.intercalate (renderOperands [g]) = wrap g (render g) := by
  rw [renderOperands, renderOperands, String.intercalate_singleton]

/-- The text of an operand stands before a separator and the texts of the other operands. -/
lemma intercalate_renderOperands_cons_cons (separator : String) (g g' : Guard) (gs : List Guard) :
    separator.intercalate (renderOperands (g :: g' :: gs)) =
      wrap g (render g) ++ separator ++ separator.intercalate (renderOperands (g' :: gs)) :=
  String.intercalate_cons_cons

mutual

/-- The text of a guard writes what the guard collapses to, in parentheses if needed as an operand,
and without them by itself. -/
lemma writes_render : ∀ {g : Guard}, Writable g →
    Writes (wrap g (render g)) (.unary (collapse g)) ∧
      Writes (render g) (.junction .or (collapse g))
  | .release op token, h => by
    have hd := Derives.release (.inl rfl) (symbol_written op) (@Names.symbol token)
    rw [ofComparison_of_isIdentifier op h] at hd
    exact writes_of_primary hd (cuts_release op h)
  | .capability c, _ => writes_of_primary (.capability (.inl rfl)) (cuts_term c)
  | .not g, h => by
    obtain ⟨ls, hd, hc⟩ := (writes_render (g := g) h).1
    exact ⟨⟨_, hd.not, hc.not⟩, ⟨_, hd.not.conjunction.disjunction, hc.not⟩⟩
  | .all gs, h => by
    rw [collapse_all]
    exact writes_of_operands (writes_renderOperands .and h.1 h.2)
  | .any gs, h => by
    rw [collapse_any]
    exact writes_of_operands (writes_renderOperands .or h.1 h.2)

/-- The texts of operands with a connective between them write what the operands collapse to. -/
lemma writes_renderOperands (k : Connective) : ∀ {gs : List Guard}, gs ≠ [] → AllWritable gs →
    Writes (k.separator.intercalate (renderOperands gs)) (.operands k (collapseAll gs))
  | [], hne, _ => absurd rfl hne
  | [g], _, h => by
    obtain ⟨ls, hd, hc⟩ := (writes_render h.1).1
    rw [intercalate_renderOperands_singleton]
    exact ⟨ls, .last (hd.operand k), hc⟩
  | g :: g' :: gs, _, h => by
    obtain ⟨ls, hd, hc⟩ := (writes_render h.1).1
    obtain ⟨ms, hds, hcs⟩ := writes_renderOperands k (List.cons_ne_nil g' gs) h.2
    rw [intercalate_renderOperands_cons_cons]
    exact ⟨_, .more (hd.operand k) hds, hc.join k hcs⟩

end

/-! ## What a collapsed guard means -/

/-- A junction of a single operand means the same as the operand. -/
lemma evaluate_junction (f : Facts) (k : Connective) (gs : List Guard) :
    evaluate f (junction k.combine gs) = evaluate f (k.combine gs) := by
  match gs with
  | [] => rfl
  | [g] =>
    cases k with
    | or =>
      simp only [junction, Connective.combine, evaluate, evaluateAny]
      cases hg : evaluate f g with
      | error e => simp
      | ok b => cases b <;> simp
    | and =>
      simp only [junction, Connective.combine, evaluate, evaluateAll]
      cases hg : evaluate f g with
      | error e => simp
      | ok b => cases b <;> simp
  | g :: g' :: gs => rfl

/-- Nothing collapses to no guards but no guards. -/
lemma isEmpty_collapseAll (gs : List Guard) : (collapseAll gs).isEmpty = gs.isEmpty := by
  cases gs <;> rfl

mutual

/-- A guard means what it collapses to. -/
lemma evaluate_collapse (f : Facts) : ∀ g, evaluate f (collapse g) = evaluate f g
  | .release _ _ => by rw [collapse]
  | .capability _ => by rw [collapse]
  | .not g => by rw [collapse, evaluate, evaluate, evaluate_collapse f g]
  | .all gs => by
    have hjunction := evaluate_junction f .and (collapseAll gs)
    rw [Connective.combine] at hjunction
    rw [collapse_all, hjunction, evaluate, evaluate, isEmpty_collapseAll,
      evaluateAll_collapseAll f gs]
  | .any gs => by
    have hjunction := evaluate_junction f .or (collapseAll gs)
    rw [Connective.combine] at hjunction
    rw [collapse_any, hjunction, evaluate, evaluate, isEmpty_collapseAll,
      evaluateAny_collapseAll f gs]

/-- Guards all hold exactly if all that they collapse to does. -/
lemma evaluateAll_collapseAll (f : Facts) :
    ∀ gs, evaluateAll f (collapseAll gs) = evaluateAll f gs
  | [] => rfl
  | g :: gs => by
    rw [collapseAll, evaluateAll, evaluateAll, evaluate_collapse f g, evaluateAll_collapseAll f gs]

/-- One of several guards holds exactly if one of those that they collapse to does. -/
lemma evaluateAny_collapseAll (f : Facts) :
    ∀ gs, evaluateAny f (collapseAll gs) = evaluateAny f gs
  | [] => rfl
  | g :: gs => by
    rw [collapseAll, evaluateAny, evaluateAny, evaluate_collapse f g, evaluateAny_collapseAll f gs]

end

/-! ## Reading a written guard -/

/-- No line break has a part in a phrase. -/
lemma Derives.newline_notMem {ls : List Lexeme} {p : Phrase} (h : Derives ls p) :
    Lexeme.newline ∉ ls := by
  induction h with
  | last _ ih => exact ih
  | more _ _ ih₁ ih₂ => simp [ih₁, ih₂]
  | single _ ih => exact ih
  | several _ _ ih => exact ih
  | not _ ih => simp [ih]
  | plain _ ih => exact ih
  | parentheses _ ih => simp [ih]
  | release _ _ hn => cases hn <;> simp
  | capability => simp

/-- A text that is cut into lexemes which form a guard is read as it. -/
lemma Derives.ofText_eq {s : String} {ls : List Lexeme} {g : Guard}
    (hd : Derives ls (.junction .or g)) (hs : Scans s.toList ls) (line : Nat) :
    ofText line s = .ok g := by
  have hsignificant : significant (place 1 ls) = ls := by
    rw [significant, map_lexeme_place, List.filter_eq_self]
    intro l hl
    simpa using fun h : l = .newline => hd.newline_notMem (h ▸ hl)
  rw [ofText_eq_ok_iff (hs.scanFrom_eq 1), hsignificant]
  exact hd

/-- The text that writes a guard is read as it. -/
lemma Writes.ofText_eq {s : String} {g : Guard} (h : Writes s (.junction .or g)) (line : Nat) :
    ofText line s = .ok g := by
  obtain ⟨ls, hd, hc⟩ := h
  have hs : Scans (s.toList ++ []) ls := (hc.scans_iff rfl).2 ⟨[], (List.append_nil ls).symm, .nil⟩
  rw [List.append_nil] at hs
  exact hd.ofText_eq hs line

/-- A guard whose junctions have operands and whose releases are identifiers is written so that it
can be read again, on any line: as what it collapses to, which means the same on every host. -/
theorem ofText_render {g : Guard} (h : g.Writable) (line : Nat) :
    ofText line g.render = .ok g.collapse ∧ ∀ f, evaluate f g.collapse = evaluate f g :=
  ⟨(writes_render h).2.ofText_eq line, fun f => evaluate_collapse f g⟩

/-- Junctions in one another and of a single operand are written and read again. -/
theorem ofText_render_nested :
    (Guard.any [.not (.all [.release .le "lion", .any [.capability .arm]]),
      .all [.any [.release .eq "_x11"]]]).Writable ∧
    ofText 3
        "!(MacOS.release <= :lion && (Hardware::CPU.arm?)) || ((MacOS.release == :_x11))" =
      .ok (.any [.not (.all [.release .le "lion", .capability .arm]), .release .eq "_x11"]) := by
  have h : (Guard.any [.not (.all [.release .le "lion", .any [.capability .arm]]),
      .all [.any [.release .eq "_x11"]]]).Writable := by
    simp only [Writable, AllWritable]
    decide
  exact ⟨h, (ofText_render h 3).1⟩

end CaskAudit.Guard
