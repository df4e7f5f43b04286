import CaskAudit.Proofs.Source.Outline

/-!
# The rows of a written definition

What is written row by row is cut into the lexemes of the rows again (`scans_source`). A quoted text
is one lexeme, however many quotes, backslashes and line breaks stand in it. A guard stands in its
row as it is, so it has to be a single line that is cut into lexemes by itself.
-/

namespace CaskAudit

namespace Outline

/-! ## Lexemes -/

/-- The lexemes after the word that begins a stanza. -/
def Entry.args : Entry → List Lexeme
  | appcast u c => [.text u, .comma, .key "checkpoint", .text c]
  | autoUpdates b => [.word (toString b)]
  | version t | sha256 t | url t | name t | homepage t | license t | app t => [.text t]

/-- The lexemes of a guard, if it is cut into lexemes. -/
def guardLexemes (guard : String) : List Lexeme :=
  match Lexeme.scan guard with
  | .ok found => found.map Placed.lexeme
  | .error _ => []

/-- The lexemes after the word that begins a row. -/
def Row.args : Row → List Lexeme
  | opening token => [.text token, .word "do"]
  | stanza e => e.args
  | ifGuard guard => guardLexemes guard
  | elsifGuard guard => guardLexemes guard
  | elseRow => []
  | endRow => []

/-- The lexemes of rows, each on a line of its own. -/
def lexemes (rows : List Row) : List Lexeme :=
  rows.flatMap fun r => .word r.word :: (r.args ++ [.newline])

/-- A text can stand after `if`: it is one line and is cut into lexemes by itself. -/
def OneLine (guard : String) : Prop :=
  '\n' ∉ guard.toList ∧ ∃ found, Lexeme.scan guard = .ok found

/-- The guard of a row, if it has one, can stand there. -/
def Row.Legible : Row → Prop
  | ifGuard guard => OneLine guard
  | elsifGuard guard => OneLine guard
  | _ => True

end Outline

open Lexeme Outline

/-- A guard that can stand in a row is cut into its lexemes. -/
lemma Outline.OneLine.scans {guard : String} (h : OneLine guard) :
    Scans guard.toList (guardLexemes guard) := by
  obtain ⟨-, found, hf⟩ := h
  rw [guardLexemes, hf]
  exact scans_of_scanFrom hf

namespace Outline

/-- A text in quotes is cut off. -/
lemma Style.scans_quoted (st : Style) (s : String) {t : List Char} {ls : List Lexeme}
    (h : Scans t ls) : Scans (st.quoted s ++ t) (.text s :: ls) := by
  rw [quoted, List.cons_append, List.append_assoc]
  exact .cons (next_quoted (st.isQuote_quote s) s t) h

/-- Whether a text is a path by itself. -/
def isPath (w : String) : Bool :=
  match w.toList with
  | [] => false
  | c :: cs => isWordStart c && readPath cs == (cs, [])

/-- A path is cut off where nothing goes on with it. -/
lemma scans_path {w : String} (hw : isPath w = true) {t : List Char} {ls : List Lexeme}
    (ht : stopsWord t = true) (h : Scans t ls) : Scans (w.toList ++ t) (.word w :: ls) := by
  unfold isPath at hw
  split at hw
  · simp at hw
  · next c cs hcs =>
    obtain ⟨hc, hpath⟩ : isWordStart c = true ∧ readPath cs = (cs, []) := by simpa using hw
    have hn := next_word hc hpath ht
    rw [← hcs, String.ofList_toList] at hn
    rw [hcs, List.cons_append]
    exact .cons hn h

/-- What stands after the word that begins a stanza is cut into its lexemes. -/
lemma Style.scans_value (st : Style) (e : Entry) : Scans (st.value e) e.args := by
  have htext : ∀ s, Scans (st.quoted s) [.text s] := by
    intro s
    simpa using st.scans_quoted s .nil
  cases e with
  | appcast url checkpoint =>
    have hcomma : next ',' (" checkpoint: ".toList ++ st.quoted checkpoint) =
        .ok (some .comma, " checkpoint: ".toList ++ st.quoted checkpoint) := rfl
    have hkey := next_key (c := 'c') (s := "heckpoint".toList) (by decide) (by decide)
      (st.quoted checkpoint)
    exact st.scans_quoted url
      (.cons hcomma (.skip rfl (.cons hkey (.skip rfl (htext checkpoint)))))
  | autoUpdates b =>
    have hb := scans_path (w := toString b) (t := []) (by cases b <;> decide) rfl .nil
    rwa [List.append_nil] at hb
  | version t | sha256 t | url t | name t | homepage t | license t | app t => exact htext t

/-- The word that begins a row is a path. -/
lemma Row.isPath_word (r : Row) : isPath r.word = true := by
  have hkind : ∀ k : Stanza.Kind, isPath k.word = true := by
    intro k
    cases k <;> decide +kernel
  cases r with
  | stanza e => exact hkind e.kind
  | opening _ | ifGuard _ | elsifGuard _ | elseRow | endRow =>
    change isPath _ = true
    dsimp only [word]
    decide

/-- A row is cut into its lexemes. -/
lemma Style.scans_row (st : Style) {r : Row} (h : r.Legible) :
    Scans (r.word.toList ++ st.rest r) (.word r.word :: r.args) := by
  have hstop : stopsWord (st.rest r) = true := by
    cases r <;> rfl
  refine scans_path r.isPath_word hstop ?_
  cases r with
  | opening token =>
    exact .skip rfl (st.scans_quoted token
      (.skip rfl (scans_path (w := "do") (t := []) (by decide) rfl .nil)))
  | stanza e => exact .skip rfl (st.scans_value e)
  | ifGuard guard => exact .skip rfl (OneLine.scans h)
  | elsifGuard guard => exact .skip rfl (OneLine.scans h)
  | elseRow => exact .nil
  | endRow => exact .nil

/-- Rows are cut into their lexemes, one after the other. -/
lemma Style.scans_rows (st : Style) {rows : List Row} (h : ∀ r ∈ rows, r.Legible) :
    Scans (rows.flatMap fun r => r.word.toList ++ (st.rest r ++ ['\n'])) (lexemes rows) := by
  induction rows with
  | nil => exact .nil
  | cons r rows ih =>
    have hr := st.scans_row (h r List.mem_cons_self)
    have hrows := ih fun r' hr' => h r' (List.mem_cons_of_mem _ hr')
    have happend := hr.append_newline (.cons rfl hrows)
    simpa [lexemes] using happend

/-! ## Legible outlines -/

/-- Every guard of an outline can stand in a row. -/
def Legible (o : Outline) : Prop := ∀ guard, some guard ∈ o.clauses.map Prod.fst → OneLine guard

/-- The guards of the branches of a legible outline can stand in rows. -/
lemma Legible.branches {o : Outline} (h : o.Legible) {c : Chain} (hc : o.chain = some c) :
    ∀ b ∈ c.first :: c.others, OneLine b.guard := by
  intro b hb
  have hclause : (some b.guard, b.fields) ∈ c.clauses :=
    List.mem_append_left _ (List.mem_map_of_mem hb)
  refine h b.guard ?_
  simpa only [clauses, hc] using List.mem_map_of_mem (f := Prod.fst) hclause

/-- The rows of stanzas have no guards. -/
lemma Style.legible_stanzas (st : Style) {scope : Nat} {f : Fields} {r : Row}
    (h : r ∈ st.stanzas scope f) : r.Legible := by
  obtain ⟨e, -, rfl⟩ := List.mem_map.1 h
  trivial

/-- The guards in the rows of branches are those of the branches. -/
lemma Style.legible_branches (st : Style) {bs : List Branch} (hb : ∀ b ∈ bs, OneLine b.guard)
    {scope : Nat} {r : Row} (h : r ∈ st.branches scope bs) : r.Legible := by
  induction bs generalizing scope with
  | nil => simp [branches] at h
  | cons b bs ih =>
    rcases List.mem_cons.1 h with rfl | h
    · exact hb b List.mem_cons_self
    · rcases List.mem_append.1 h with h | h
      · exact st.legible_stanzas h
      · exact ih (fun b' hb' => hb b' (List.mem_cons_of_mem _ hb')) h

/-- The guards in the rows of a conditional are those of its branches. -/
lemma Style.legible_chain (st : Style) {c : Chain}
    (hb : ∀ b ∈ c.first :: c.others, OneLine b.guard) {r : Row} (h : r ∈ st.chain c) :
    r.Legible := by
  rcases List.mem_cons.1 h with rfl | h
  · exact hb c.first List.mem_cons_self
  rcases List.mem_append.1 h with h | h
  · exact st.legible_stanzas h
  rcases List.mem_append.1 h with h | h
  · exact st.legible_branches (fun b hm => hb b (List.mem_cons_of_mem _ hm)) h
  rcases List.mem_append.1 h with h | h
  · cases ho : c.otherwise with
    | none => simp [Style.otherwise, ho] at h
    | some f =>
      rw [ho] at h
      rcases List.mem_cons.1 h with rfl | h
      · trivial
      · exact st.legible_stanzas h
  · obtain rfl := List.mem_singleton.1 h
    trivial

/-- The rows of a legible outline are legible. -/
lemma Legible.rows {o : Outline} (h : o.Legible) (st : Style) : ∀ r ∈ st.rows o, r.Legible := by
  intro r hr
  rcases List.mem_cons.1 hr with rfl | hr
  · trivial
  rcases List.mem_append.1 hr with hr | hr
  · exact st.legible_stanzas (List.mem_of_mem_take hr)
  rcases List.mem_append.1 hr with hr | hr
  · cases hc : o.chain with
    | none => simp [hc] at hr
    | some c =>
      rw [hc] at hr
      exact st.legible_chain (h.branches hc) hr
  rcases List.mem_append.1 hr with hr | hr
  · exact st.legible_stanzas (List.mem_of_mem_drop hr)
  · obtain rfl := List.mem_singleton.1 hr
    trivial

/-- A definition is cut into the lexemes of its rows. -/
theorem scans_source {o : Outline} (h : o.Legible) (st : Style) :
    Scans (o.source st).toList (lexemes (st.rows o)) := by
  rw [source, String.toList_ofList]
  exact st.scans_rows (h.rows st)

end Outline

end CaskAudit
