import CaskAudit.Proofs.Source.Definitions
import CaskAudit.Proofs.Toml.Records

/-!
# What tables say

Tables that give an outline give its manifest (`toOption_parse_tables`). They are read by key, so
the order of their entries does not matter, and neither do the lines on which they stand.
-/

namespace CaskAudit

namespace Outline

open Document

/-- A feed and its checkpoint are read under the key of appcasts. -/
lemma optional?_appcast {entries : List (String × Toml)} {a : Option (String × String)}
    (h : GivesAppcast a (entries.lookup "appcast")) :
    Toml.optional? appcastOf? "appcast" entries = some a := by
  unfold Toml.optional?
  generalize entries.lookup "appcast" = v at h
  cases h with
  | none => rfl
  | some hk hu hc =>
    simp [appcastOf?, Toml.completeRecord?_table hk, hu, hc, Toml.string?]

/-! ## Tables -/

/-- The table that fields make with a token and a condition. -/
def Fields.table (f : Fields) (line : Nat) (token condition : Option String) : Document.Table where
  line := line
  token := token
  condition := condition
  version := f.version
  sha256 := f.sha256
  url := f.url
  appcast := f.appcast
  autoUpdates := f.autoUpdates
  name := f.name
  homepage := f.homepage
  license := f.license
  app := f.app

/-- A value that gives fields is read as a table of them. -/
lemma GivesTable.ofToml?_eq {f : Fields} {token condition : Option String} {t : Toml}
    (h : GivesTable f token condition t) :
    ∃ line, Table.ofToml? t = some (f.table line token condition) := by
  obtain @⟨line, entries, h⟩ := h
  refine ⟨line, ?_⟩
  have htext : ∀ {key : String} {o : Option String}, entries.lookup key = o.map .string →
      Toml.optional? Toml.string? key entries = some o := Toml.optional?_string_iff.2
  simp only [Table.ofToml?, Toml.line?, Toml.completeRecord?_table h.keys, bind, Option.bind_some,
    htext h.token, htext h.condition, htext h.version, htext h.sha256, htext h.url,
    optional?_appcast h.appcast, Toml.optional?_bool_iff.2 h.autoUpdates, htext h.name,
    htext h.homepage, htext h.license, htext h.app]
  rfl

/-- A conversion of what may be missing. -/
lemma toOption_convert {α β : Type} (f : α → Except SourceError β) (o : Option α) :
    (convert f o).toOption = convert? (fun a => (f a).toOption) o := by
  cases o with
  | none => rfl
  | some a => exact toOption_map _ _

/-- A table declares what its fields do. -/
lemma toOption_declarations (f : Fields) (line : Nat) (token condition : Option String) :
    (f.table line token condition).declarations.toOption = declared f.entries := by
  have happcast : (fun a => (appcastOf line a).toOption) = appcast? := by
    funext a
    simp only [appcastOf, templateOf, appcast?, bind, toOption_bind, toOption_mapError, pure,
      Except.pure, toOption_ok, Option.map_eq_bind, Function.comp_def]
  rw [declared_entries]
  simp only [Table.declarations, Fields.table, bind, toOption_bind, toOption_convert,
    toOption_mapError, templateOf, happcast, pure, Except.pure, toOption_ok]

/-- A table of fields gives the clause of its condition. -/
lemma toOption_clause {c : Option String × Fields} (h : ∀ guard, c.1 = some guard → OneLine guard)
    (line : Nat) : (c.2.table line none c.1).clause.toOption = clause? c := by
  obtain ⟨condition, f⟩ := c
  have hbody := toOption_declarations f line none condition
  have hrefuse : refuse "token" "[[clause]]" line none = .ok () := rfl
  cases condition with
  | none =>
    simp only [Table.clause, Fields.table, hrefuse, bind, toOption_bind, toOption_ok,
      Option.bind_some, pure, Except.pure, clause?] at hbody ⊢
    rw [hbody]
    exact Option.map_eq_bind.symm
  | some guard =>
    simp only [Table.clause, Fields.table, hrefuse, bind, toOption_bind, toOption_ok,
      Option.bind_some, pure, Except.pure, clause?, toOption_mapError,
      (h guard rfl).toOption_ofText] at hbody ⊢
    rw [hbody]
    cases declared f.entries with
    | none => cases guard? guard <;> rfl
    | some d => cases guard? guard <;> rfl

/-- Tables that are read one after the other. -/
lemma mapM_ofToml? {cs : List (Option String × Fields)} {ts : List Toml}
    (h : List.Forall₂ (fun c t => GivesTable c.2 none c.1 t) cs ts) :
    ∃ tables, ts.mapM Table.ofToml? = some tables ∧
      List.Forall₂ (fun c t => ∃ line, t = c.2.table line none c.1) cs tables := by
  induction h with
  | nil => exact ⟨[], rfl, .nil⟩
  | cons ht _ ih =>
    obtain ⟨line, ht⟩ := ht.ofToml?_eq
    obtain ⟨tables, hts, htables⟩ := ih
    refine ⟨_ :: tables, ?_, .cons ⟨line, rfl⟩ htables⟩
    rw [List.mapM_cons, ht, hts]
    rfl

/-- Tables of clauses give the clauses. -/
lemma toOption_mapM_clause {cs : List (Option String × Fields)} {tables : List Document.Table}
    (h : List.Forall₂ (fun c t => ∃ line, t = c.2.table line none c.1) cs tables)
    (hcs : ∀ guard, some guard ∈ cs.map Prod.fst → OneLine guard) :
    (tables.mapM Table.clause).toOption = cs.mapM clause? := by
  induction h with
  | nil => rfl
  | @cons c t cs tables ht _ ih =>
    obtain ⟨line, rfl⟩ := ht
    have hc := toOption_clause (c := c) (fun guard hg => hcs guard (by simp [hg])) line
    have hrest := ih fun guard hg => hcs guard (List.mem_cons_of_mem _ hg)
    rw [List.mapM_cons, List.mapM_cons, ← hc, ← hrest]
    simp only [bind, toOption_bind, pure, Except.pure, toOption_ok]

/-- Tables that give an outline give its manifest. -/
theorem toOption_parse_tables {o : Outline} (h : o.Legible) {src : String} {t : Toml}
    (ht : Toml.parse? src = some t) (hg : o.IsGivenBy t) :
    (Document.parse src).toOption = o.manifest? := by
  obtain @⟨root, line, entries, cask, ts, hk, hcask, hclauses, hc, hts⟩ := hg
  obtain ⟨caskLine, hc⟩ := hc.ofToml?_eq
  obtain ⟨tables, hts, htables⟩ := mapM_ofToml? hts
  have hdefaults : entries.lookup "defaults" = none := by
    rw [List.lookup_eq_none_iff]
    intro p hp
    rcases List.mem_cons.1 (hk p hp) with hp | hp
    · simp [hp]
    · simp [List.mem_singleton.1 hp]
  have hrecord : (Toml.table root entries).record? ["cask", "defaults", "clause"] =
      some entries := by
    have hall : entries.all (["cask", "defaults", "clause"].contains ·.1) = true := by
      rw [List.all_eq_true]
      intro p hp
      rcases List.mem_cons.1 (hk p hp) with hp | hp
      · simp [hp]
      · simp [List.mem_singleton.1 hp]
    simp only [Toml.record?, hall, if_true]
  have hdocument : ofToml? (.table root entries) =
      some ⟨o.outerFields.table caskLine (some o.token) none, none, tables⟩ := by
    simp only [ofToml?, hrecord, bind, Option.bind_some, hcask, hc, hdefaults, Toml.optional?,
      hclauses, Toml.items?, hts, Option.map_some]
    rfl
  have hrefuse : refuse "when" "[cask]" caskLine none = .ok () := rfl
  have houter := toOption_declarations o.outerFields caskLine (some o.token) none
  have hclause := toOption_mapM_clause htables h
  rw [Document.parse, ht, Option.bind_some, hdocument]
  simp only [Fields.table] at houter
  simp only [Document.manifest, Fields.table, hrefuse, bind, toOption_bind, toOption_ok,
    Option.bind_some, addDefaults, houter, hclause, toOption_mapError, manifest?, parts?,
    Option.bind_assoc, Option.map_eq_bind, Function.comp_def]

/-! ## Agreement -/

/-- A definition and tables that are written from one outline, in whatever layout, give the same
manifest, or neither gives any. -/
theorem toOption_parse_source_eq {o : Outline} (h : o.Legible) (st : Style) {src : String}
    {t : Toml} (ht : Toml.parse? src = some t) (hg : o.IsGivenBy t) :
    (Definition.parse (o.source st)).toOption = (Document.parse src).toOption := by
  rw [toOption_parse_source h st, toOption_parse_tables h ht hg]

/-- A cask with a version for one kind of processor and another one for the rest. -/
def twoVersions : Outline where
  token := "x"
  fields := { Fields.empty with sha256 := some "no_check", name := some "it's" }
  chain := some {
    first := ⟨"Hardware::CPU.arm?", { Fields.empty with version := some "2" }⟩
    others := []
    otherwise := some { Fields.empty with version := some "1" } }

/-- The tables of the same cask. -/
def twoVersionsTables : String :=
  "[cask]\nname=\"it's\"\nsha256='no_check'\ntoken='x'\n[[clause]]\n" ++
    "version='2'\nwhen='Hardware::CPU.arm?'\n[[clause]]\nversion='1'"

/-- Both formats give the manifest of a cask with two versions. -/
theorem toOption_parse_twoVersions :
    twoVersions.source .plain =
      "cask 'x' do\nsha256 'no_check'\nname 'it\\'s'\nif Hardware::CPU.arm?\n" ++
        "version '2'\nelse\nversion '1'\nend\nend\n" ∧
    (Definition.parse (twoVersions.source .plain)).toOption =
      (Document.parse twoVersionsTables).toOption ∧
    (Document.parse twoVersionsTables).toOption.isSome = true := by
  have hlegible : twoVersions.Legible := by
    intro guard hguard
    obtain rfl : guard = "Hardware::CPU.arm?" := by
      simpa [twoVersions, clauses, Chain.clauses] using hguard
    exact ⟨by decide, [⟨.word "Hardware::CPU.arm?", 1⟩], by decide +kernel⟩
  have htables : Toml.parse? twoVersionsTables =
      some (.table none
        [("cask", .table (some 1)
          [("name", .string "it's"), ("sha256", .string "no_check"), ("token", .string "x")]),
        ("clause", .array none
          [.table (some 5)
            [("version", .string "2"), ("when", .string "Hardware::CPU.arm?")],
          .table (some 8) [("version", .string "1")]])]) := by
    decide +kernel
  refine ⟨by decide +kernel, toOption_parse_source_eq hlegible .plain htables ?_, by decide +kernel⟩
  refine .intro (by decide) rfl rfl ?_ (.cons ?_ (.cons ?_ .nil))
  · exact .intro ⟨by decide, rfl, rfl, rfl, rfl, rfl, .none, rfl, rfl, rfl, rfl, rfl⟩
  · exact .intro ⟨by decide, rfl, rfl, rfl, rfl, rfl, .none, rfl, rfl, rfl, rfl, rfl⟩
  · exact .intro ⟨by decide, rfl, rfl, rfl, rfl, rfl, .none, rfl, rfl, rfl, rfl, rfl⟩

end Outline

end CaskAudit
