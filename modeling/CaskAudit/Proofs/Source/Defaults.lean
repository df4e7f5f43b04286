import CaskAudit.Proofs.Source.Lines
import CaskAudit.Proofs.Source.Tables

/-!
# Fields for every host

The fields that are not those of a clause stand in the table `cask` or in the table `defaults`, and
only their kinds and texts count. The fields of the two tables are converted apart, and then what
they declare is put together (`combine_of_apart`), which gives what the fields of both declare one
after the other (`toOption_outer`). That may be asked in any order, so it does not matter how the
fields are spread over the two tables (`fields_in_either_table`). A field of both tables is declared
twice, whatever its values are, and never put together (`toOption_combine_of_both`).
-/

namespace CaskAudit

open Outline

/-! ## Declarations of two tables -/

/-- What is declared in one scope, or else in another. -/
def Declarations.union (a b : Declarations) : Declarations where
  version := a.version.or b.version
  checksum := a.checksum.or b.checksum
  url := a.url.or b.url
  appcast := a.appcast.or b.appcast
  autoUpdates := a.autoUpdates.or b.autoUpdates
  displayName := a.displayName.or b.displayName
  homepage := a.homepage.or b.homepage
  license := a.license.or b.license
  app := a.app.or b.app

namespace Document

variable {α : Type} {line : Nat} {a b : Declarations}

/-- A value that at most one of two tables has is picked from it. -/
lemma pick_of_apart (field : String) {x y : Option α} (h : x.isSome = false ∨ y.isSome = false) :
    pick line field x y = .ok (x.or y) := by
  unfold pick
  split
  · simp at h
  · rfl

/-- A value that both of two tables have is not picked. -/
lemma toOption_pick_of_both (field : String) {x y : Option α} (hx : x.isSome = true)
    (hy : y.isSome = true) : (pick line field x y).toOption = none := by
  obtain ⟨_, rfl⟩ := Option.isSome_iff_exists.1 hx
  obtain ⟨_, rfl⟩ := Option.isSome_iff_exists.1 hy
  rfl

/-- What two tables declare is put together if no kind is declared in both. -/
lemma combine_of_apart (h : ∀ k, declares a k = false ∨ declares b k = false) :
    combine line a b = .ok (a.union b) := by
  unfold combine
  rw [pick_of_apart _ (h .version), pick_of_apart _ (h .sha256), pick_of_apart _ (h .url),
    pick_of_apart _ (h .appcast), pick_of_apart _ (h .autoUpdates), pick_of_apart _ (h .name),
    pick_of_apart _ (h .homepage), pick_of_apart _ (h .license), pick_of_apart _ (h .app)]
  rfl

/-- A kind that is declared in both of two tables keeps them from being put together. -/
lemma toOption_combine_of_both {k : Stanza.Kind} (ha : declares a k = true)
    (hb : declares b k = true) : (combine line a b).toOption = none := by
  unfold combine
  cases k <;>
    simp only [bind, toOption_bind, toOption_pick_of_both _ ha hb, Option.bind_none,
      Option.bind_fun_none]

end Document

/-- A value is put beside what another scope declares, if that has none of its kind. -/
lemma Outline.Value.put_union {v : Value} {a : Declarations} (h : declares a v.kind = false)
    (d : Declarations) : v.put (a.union d) = a.union (v.put d) := by
  cases v <;>
    · have hnone := Option.isSome_eq_false_iff.1 h
      simp only [put, Declarations.union, Option.isNone_iff_eq_none.1 hnone, Option.none_or]

/-- Fields are given beside what another scope declares, if that has none of their kinds. -/
lemma Outline.foldl_give_union {es : List Entry} {a : Declarations}
    (h : ∀ e ∈ es, declares a e.kind = false) (d : Declarations) :
    es.foldl give (some (a.union d)) = (es.foldl give (some d)).map a.union := by
  induction es generalizing d with
  | nil => rfl
  | cons e es ih =>
    obtain ⟨he, hes⟩ := List.forall_mem_cons.1 h
    rw [List.foldl_cons, List.foldl_cons, give, give, Option.bind_some, Option.bind_some]
    cases hv : e.value? with
    | none => rw [Option.map_none, Option.map_none, foldl_give_none, Option.map_none]
    | some v =>
      rw [Option.map_some, Option.map_some, Value.put_union (kind_of_value? hv ▸ he), ih hes]

namespace Document

/-! ## Documents with the same fields -/

/-- The texts of the fields of a table. -/
def Table.fields (t : Table) : Fields :=
  ⟨t.version, t.sha256, t.url, t.appcast, t.autoUpdates, t.name, t.homepage, t.license, t.app⟩

/-- A table on line zero. -/
def Table.unlined (t : Table) : Table := { t with line := 0 }

/-- The fields in the table `defaults`. -/
def defaultEntries (d : Document) : List Entry :=
  (d.defaults.map fun t => t.fields.entries).getD []

/-- The fields for every host, first those in the table `cask`. -/
def outerEntries (d : Document) : List Entry := d.cask.fields.entries ++ d.defaultEntries

/-- Some field is in both of the tables for every host, with whatever values. -/
def DeclaresTwice (d : Document) : Prop :=
  ∃ k, k ∈ d.cask.fields.entries.map Entry.kind ∧ k ∈ d.defaultEntries.map Entry.kind

/-- A document has the same fields for every host as another, spread over the two tables in some
way, and is the same in all else, but for the lines. A table that is not there is one with nothing
in it. -/
structure Redistributes (d d' : Document) : Prop where
  fields : d'.outerEntries.Perm d.outerEntries
  token : d'.cask.token = d.cask.token
  condition : d'.cask.condition = d.cask.condition
  defaultsToken : d'.defaults.bind Table.token = d.defaults.bind Table.token
  defaultsCondition : d'.defaults.bind Table.condition = d.defaults.bind Table.condition
  clauses : d'.clauses.map Table.unlined = d.clauses.map Table.unlined

variable {d d' : Document}

/-- The kinds of the fields in the table `defaults` are told apart. -/
lemma nodup_kinds_defaultEntries (d : Document) : (d.defaultEntries.map Entry.kind).Nodup := by
  unfold defaultEntries
  cases d.defaults with
  | none => exact List.nodup_nil
  | some t => exact nodup_kinds t.fields

/-- The kinds of all fields for every host are told apart exactly if no field is declared twice. -/
lemma nodup_kinds_outerEntries_iff :
    (d.outerEntries.map Entry.kind).Nodup ↔ ¬d.DeclaresTwice := by
  unfold outerEntries DeclaresTwice
  rw [List.map_append, List.nodup_append, not_exists]
  constructor
  · rintro ⟨-, -, hne⟩ k ⟨hk, hk'⟩
    exact hne k hk k hk' rfl
  · intro h
    refine ⟨nodup_kinds _, nodup_kinds_defaultEntries d, ?_⟩
    rintro k hk k' hk' rfl
    exact h k ⟨hk, hk'⟩

/-- Fields that are spread in another way are not declared twice either. -/
lemma Redistributes.not_declaresTwice (hr : d.Redistributes d') (h : ¬d.DeclaresTwice) :
    ¬d'.DeclaresTwice := by
  rw [← nodup_kinds_outerEntries_iff] at h ⊢
  exact (hr.fields.map Entry.kind).nodup_iff.2 h

/-! ## What documents declare for every host -/

/-- A table declares what its fields do. -/
lemma toOption_declarations_eq (t : Table) :
    t.declarations.toOption = declared t.fields.entries :=
  toOption_declarations t.fields t.line t.token t.condition

/-- What a document declares for every host. -/
def outer (d : Document) : Except SourceError Declarations :=
  d.cask.declarations.bind fun declarations => addDefaults declarations d.defaults

/-- Fields declare the values of their kinds. -/
lemma declares_of_declared {es : List Entry} (h : declared es = some a) (k : Stanza.Kind) :
    declares a k = true ↔ k ∈ es.map Entry.kind := by
  have hempty : ¬declares .empty k = true := by
    cases k <;> exact Bool.false_ne_true
  rw [declares_of_foldl_give h, or_iff_left hempty]

section Apart

variable {es es' : List Entry} (h : ∀ k ∈ es.map Entry.kind, k ∉ es'.map Entry.kind)
include h

/-- Fields of different kinds are declared one after the other or apart. -/
lemma declared_append :
    declared (es ++ es') = (declared es).bind fun a => (declared es').map a.union := by
  rw [declared, List.foldl_append, ← declared]
  cases ha : declared es with
  | none => exact foldl_give_none es'
  | some a =>
    have hunion : a.union .empty = a := by
      unfold Declarations.union Declarations.empty
      simp only [Option.or_none]
    have hkinds : ∀ e ∈ es', declares a e.kind = false := by
      intro e he
      rw [← Bool.not_eq_true, declares_of_declared ha]
      exact fun hk => h _ hk (List.mem_map_of_mem he)
    rw [← hunion, foldl_give_union hkinds, hunion, Option.bind_some, declared]

/-- What fields of different kinds declare is put together. -/
lemma combine_of_declared (ha : declared es = some a) (hb : declared es' = some b) :
    combine line a b = .ok (a.union b) := by
  apply combine_of_apart
  intro k
  rw [← Bool.not_eq_true, ← Bool.not_eq_true, declares_of_declared ha, declares_of_declared hb]
  by_cases hk : k ∈ es.map Entry.kind
  · exact .inr (h k hk)
  · exact .inl hk

end Apart

/-- A key that is refused is not there. -/
lemma toOption_refuse (key table : String) (line : Nat) (value : Option String) :
    (refuse key table line value).toOption = if value = none then some () else none := by
  cases value <;> rfl

/-- What the fields for every host declare, if none is declared twice: it does not matter in which
table they stand, but nothing else may stand in the table `defaults`. -/
lemma toOption_outer (h : ¬d.DeclaresTwice) :
    d.outer.toOption =
      if d.defaults.bind Table.token = none ∧ d.defaults.bind Table.condition = none then
        declared d.outerEntries
      else none := by
  obtain ⟨cask, defaults, clauses⟩ := d
  unfold outer
  rw [toOption_bind, toOption_declarations_eq]
  cases defaults with
  | none =>
    simp [addDefaults, outerEntries, defaultEntries]
  | some t =>
    have hkinds : ∀ k ∈ cask.fields.entries.map Entry.kind,
        k ∉ t.fields.entries.map Entry.kind := fun k hk hk' => h ⟨k, hk, hk'⟩
    -- Putting two tables together never fails here, so only the fields themselves decide.
    have htables : ((declared cask.fields.entries).bind fun a =>
        (declared t.fields.entries).bind fun b => (combine t.line a b).toOption) =
        declared (cask.fields.entries ++ t.fields.entries) := by
      rw [declared_append hkinds]
      cases ha : declared cask.fields.entries with
      | none => rfl
      | some a =>
        cases hb : declared t.fields.entries with
        | none => rfl
        | some b => simp [combine_of_declared hkinds ha hb]
    simp only [addDefaults, bind, toOption_bind, toOption_refuse, toOption_declarations_eq,
      Option.bind_some]
    by_cases ht : t.token = none
    · by_cases hw : t.condition = none
      · simp [ht, hw, htables, outerEntries, defaultEntries]
      · simp [hw]
    · simp [ht]

/-- A document that declares a field twice declares nothing for every host. -/
lemma toOption_outer_of_declaresTwice (h : d.DeclaresTwice) : d.outer.toOption = none := by
  obtain ⟨cask, defaults, clauses⟩ := d
  obtain ⟨k, hk, hk'⟩ := h
  cases defaults with
  | none => cases hk'
  | some t =>
    rw [Option.eq_none_iff_forall_ne_some]
    intro declarations houter
    obtain ⟨a, ha, hadd⟩ := bind_eq_ok (toOption_eq_some_iff.1 houter)
    obtain ⟨-, -, hadd⟩ := bind_eq_ok hadd
    obtain ⟨-, -, hadd⟩ := bind_eq_ok hadd
    obtain ⟨b, hb, hadd⟩ := bind_eq_ok hadd
    rw [← toOption_eq_some_iff, toOption_declarations_eq] at ha hb
    have hnone : (combine t.line a b).toOption = none :=
      toOption_combine_of_both ((declares_of_declared ha k).2 hk)
        ((declares_of_declared hb k).2 hk')
    rw [hadd, toOption_ok] at hnone
    cases hnone

/-! ## Clauses on other lines -/

/-- A text writes the same guard on every line. -/
lemma toOption_ofText (line : Nat) (text : String) :
    (Guard.ofText line text).toOption = (Guard.ofText 0 text).toOption := by
  unfold Guard.ofText
  cases Lexeme.scan text with
  | error e => rfl
  | ok ls =>
    have hguard :
        (Guard.ofLexemes 0
          ((ls.filter (·.lexeme ≠ .newline)).map fun l => ⟨l.lexeme, 0⟩)).toOption =
        (Guard.ofLexemes line
          ((ls.filter (·.lexeme ≠ .newline)).map fun l => ⟨l.lexeme, line⟩)).toOption := by
      rw [← toOption_mapError Guard.ReadError.unlined (Guard.ofLexemes line _),
        ← Guard.ofLexemes_unlined, List.map_map]
      rfl
    revert hguard
    dsimp only
    cases Guard.ofLexemes 0 _ <;> cases Guard.ofLexemes line _ <;> simp [eq_comm]

/-- A table gives the same clause on every line. -/
lemma toOption_clause_unlined (t : Table) : t.unlined.clause.toOption = t.clause.toOption := by
  obtain ⟨line, token, condition, _⟩ := t
  simp only [Table.clause, Table.unlined, bind, toOption_bind, toOption_refuse,
    toOption_declarations_eq]
  cases condition with
  | none => rfl
  | some text =>
    simp only [toOption_bind, toOption_mapError, toOption_ofText line]
    rfl

/-- Tables give the same clauses on other lines. -/
lemma toOption_mapM_clause_unlined {ts ts' : List Table}
    (h : ts'.map Table.unlined = ts.map Table.unlined) :
    (ts'.mapM Table.clause).toOption = (ts.mapM Table.clause).toOption := by
  have hlines : ∀ ts : List Table, (ts.mapM Table.clause).toOption =
      (ts.map Table.unlined).mapM fun t => t.clause.toOption := by
    intro ts
    rw [toOption_mapM, List.mapM_map]
    simp only [Function.comp_def, toOption_clause_unlined]
  rw [hlines, hlines, h]

/-! ## Manifests -/

/-- Fields that are spread differently over the two tables come to the same outside the clauses. -/
lemma Redistributes.toOption_outer (hr : d.Redistributes d') (h : ¬d.DeclaresTwice) :
    d'.outer.toOption = d.outer.toOption := by
  have h' := hr.not_declaresTwice h
  have hfields : declared d'.outerEntries = declared d.outerEntries :=
    foldl_give_perm hr.fields (nodup_kinds_outerEntries_iff.2 h') _
  rw [Document.toOption_outer h', Document.toOption_outer h, hr.defaultsToken,
    hr.defaultsCondition, hfields]

/-- The manifest of a document that is accepted. -/
lemma toOption_manifest (d : Document) :
    d.manifest.toOption =
      if d.cask.condition = none then
        d.cask.token.bind fun token => d.outer.toOption.bind fun outer =>
          (d.clauses.mapM Table.clause).toOption.bind fun clauses =>
            (Manifest.build token outer clauses).toOption
      else none := by
  unfold manifest
  simp only [bind, toOption_bind, toOption_refuse]
  by_cases hw : d.cask.condition = none
  · rw [if_pos hw, if_pos hw, Option.bind_some]
    cases d.cask.token with
    | none => rfl
    | some token =>
      simp only [toOption_bind, toOption_mapError, outer, Option.bind_assoc, Option.bind_some]
  · rw [if_neg hw, if_neg hw, Option.bind_none]

/-- A text delivers a document. -/
def Delivers (src : String) (d : Document) : Prop := (Toml.parse? src).bind ofToml? = some d

/-- It does not matter in which of the two tables for every host a field stands: documents that have
the same fields there give the same manifest or are both refused, and so are the texts that deliver
them. A document with a field in both tables is refused, whatever the values are. -/
theorem fields_in_either_table (d : Document) :
    (∀ src, Delivers src d → parse src = d.manifest) ∧
    (d.DeclaresTwice → ∃ e, d.manifest = .error e) ∧
    (¬d.DeclaresTwice → ∀ d', d.Redistributes d' →
      d'.manifest.toOption = d.manifest.toOption) := by
  refine ⟨fun src h => ?_, fun h => ?_, fun h d' hr => ?_⟩
  · unfold Delivers at h
    unfold parse
    rw [h]
  · rw [← toOption_eq_none_iff, toOption_manifest, toOption_outer_of_declaresTwice h]
    simp only [Option.bind_none, Option.bind_fun_none, ite_self]
  · have hclauses := toOption_mapM_clause_unlined hr.clauses
    rw [toOption_manifest, toOption_manifest, hr.token, hr.condition, hr.toOption_outer h, hclauses]

/-- A table without entries. -/
def Table.empty (line : Nat) : Table :=
  ⟨line, none, none, none, none, none, none, none, none, none, none, none⟩

/-- A document with a version and a checksum among the defaults. -/
def versionInDefaults : Document where
  cask := { Table.empty 1 with token := some "x", name := some "A" }
  defaults := some { Table.empty 4 with version := some "1", sha256 := some "no_check" }
  clauses := [{ Table.empty 7 with app := some "A.app" }]

/-- The same document without defaults. -/
def versionInCask : Document where
  cask :=
    { Table.empty 1 with
      token := some "x"
      version := some "1"
      sha256 := some "no_check"
      name := some "A" }
  defaults := none
  clauses := [{ Table.empty 6 with app := some "A.app" }]

/-- A document with two names. -/
def namedTwice : Document :=
  { versionInCask with defaults := some { Table.empty 6 with name := some "A" } }

/-- The defaults of a cask may be moved into its first table, but a name may not stand there and
among the defaults, even if both are the same. -/
theorem fields_in_either_table_moved :
    Delivers ("[cask]\ntoken='x'\nname='A'\n[defaults]\nversion='1'\nsha256='no_check'\n" ++
      "[[clause]]\napp='A.app'") versionInDefaults ∧
    Delivers ("[cask]\ntoken='x'\nversion='1'\nname='A'\nsha256='no_check'\n" ++
      "[[clause]]\napp='A.app'") versionInCask ∧
    ¬versionInDefaults.DeclaresTwice ∧ versionInDefaults.Redistributes versionInCask ∧
    versionInCask.manifest.toOption = versionInDefaults.manifest.toOption ∧
    versionInDefaults.manifest.toOption.isSome ∧
    namedTwice.DeclaresTwice ∧ ∃ e, namedTwice.manifest = .error e := by
  have hapart : ¬versionInDefaults.DeclaresTwice := by
    rw [← nodup_kinds_outerEntries_iff]
    decide
  have htwice : namedTwice.DeclaresTwice := ⟨.name, by decide, by decide⟩
  have hr : versionInDefaults.Redistributes versionInCask := by
    refine ⟨?_, rfl, rfl, rfl, rfl, rfl⟩
    exact @List.perm_append_comm _ [Entry.version "1", Entry.sha256 "no_check"] [Entry.name "A"]
  refine ⟨?_, ?_, hapart, hr, (fields_in_either_table _).2.2 hapart _ hr, ?_, htwice,
    (fields_in_either_table _).2.1 htwice⟩
  · unfold Delivers
    decide +kernel
  · unfold Delivers
    decide +kernel
  · decide +kernel

end Document

end CaskAudit
