import CaskAudit.Proofs.Lexeme.Boundaries
import CaskAudit.Source.Document
import CaskAudit.Source.Stanza
import Mathlib.Data.List.Forall2

/-!
# Outlines of casks

An outline is a cask before it is written: a token, the texts of its fields, and perhaps a
conditional with further fields. `Outline.source` writes one as a definition and `Outline.IsGivenBy`
says which tables give it, so that the two formats can be compared on everything that both can say.

A definition is written row by row. How its texts are quoted, in which order the stanzas of a scope
stand and where among them the conditional stands is left to a `Style`.
-/

namespace CaskAudit

/-! ## Outlines -/

/-- The fields of one scope, as texts. -/
structure Outline.Fields where
  version : Option String
  sha256 : Option String
  url : Option String
  /-- The URL of the feed and its checkpoint. -/
  appcast : Option (String × String)
  autoUpdates : Option Bool
  name : Option String
  homepage : Option String
  license : Option String
  app : Option String

/-- A guard, as text, and the fields for the hosts that it admits. -/
structure Outline.Branch where
  guard : String
  fields : Outline.Fields

/-- One or more branches, and perhaps the fields for all other hosts. -/
structure Outline.Chain where
  first : Outline.Branch
  others : List Outline.Branch
  otherwise : Option Outline.Fields

/-- A cask before it is written. -/
structure Outline where
  token : String
  fields : Outline.Fields
  chain : Option Outline.Chain

namespace Outline

/-- One field with its text. -/
inductive Entry where
  | version (text : String)
  | sha256 (text : String)
  | url (text : String)
  | appcast (url checkpoint : String)
  | autoUpdates (b : Bool)
  | name (text : String)
  | homepage (text : String)
  | license (text : String)
  | app (text : String)

/-- The kind of stanza that gives a field. -/
def Entry.kind : Entry → Stanza.Kind
  | version _ => .version
  | sha256 _ => .sha256
  | url _ => .url
  | appcast _ _ => .appcast
  | autoUpdates _ => .autoUpdates
  | name _ => .name
  | homepage _ => .homepage
  | license _ => .license
  | app _ => .app

namespace Fields

/-- The fields that are there, one by one. -/
def entries (f : Fields) : List Entry :=
  (f.version.map .version).toList ++ (f.sha256.map .sha256).toList ++ (f.url.map .url).toList ++
    (f.appcast.map fun a => .appcast a.1 a.2).toList ++
    (f.autoUpdates.map .autoUpdates).toList ++ (f.name.map .name).toList ++
    (f.homepage.map .homepage).toList ++ (f.license.map .license).toList ++
    (f.app.map .app).toList

/-- No fields. -/
def empty : Fields := ⟨none, none, none, none, none, none, none, none, none⟩

/-- The fields that may differ between releases of the application. -/
def releaseFields (f : Fields) : Fields :=
  { f with name := none, homepage := none, license := none, app := none }

/-- The fields that describe the application as such. -/
def descriptiveFields (f : Fields) : Fields :=
  { f with version := none, sha256 := none, url := none, appcast := none, autoUpdates := none }

end Fields

/-- The conditions and the fields of the clauses of a conditional. -/
def Chain.clauses (c : Chain) : List (Option String × Fields) :=
  (c.first :: c.others).map (fun b => (some b.guard, b.fields)) ++
    c.otherwise.toList.map fun f => (none, f)

/-- The fields outside the clauses. -/
def outerFields (o : Outline) : Fields :=
  match o.chain with
  | none => o.fields.descriptiveFields
  | some _ => o.fields

/-- The conditions and the fields of the clauses; without a conditional, a single clause has the
fields that may differ between releases. -/
def clauses (o : Outline) : List (Option String × Fields) :=
  match o.chain with
  | none => [(none, o.fields.releaseFields)]
  | some c => c.clauses

/-! ## Definitions -/

/-- A way to write definitions: the quote around each text, the order of the stanzas in each scope,
where scopes are counted from the outer one, and the number of stanzas before the conditional. -/
structure Style where
  quote : String → Char
  isQuote_quote : ∀ s, Lexeme.isQuote (quote s) = true
  order : Nat → Fields → List Entry
  order_perm : ∀ n f, (order n f).Perm f.entries
  before : Nat

/-- A row of a definition. -/
inductive Row where
  | opening (token : String)
  | stanza (e : Entry)
  | ifGuard (guard : String)
  | elsifGuard (guard : String)
  | elseRow
  | endRow

namespace Style

/-- Fields in their usual order and in single quotes, and the conditional after all of them. -/
def plain : Style where
  quote _ := '\''
  isQuote_quote _ := rfl
  order _ f := f.entries
  order_perm _ _ := .refl _
  before := Stanza.Kind.all.length

/-- The rows of the stanzas of a scope. -/
def stanzas (st : Style) (scope : Nat) (f : Fields) : List Row :=
  (st.order scope f).map .stanza

/-- The rows of branches after the first; the first of them is a given scope. -/
def branches (st : Style) : Nat → List Branch → List Row
  | _, [] => []
  | scope, b :: bs =>
    .elsifGuard b.guard :: (st.stanzas scope b.fields ++ st.branches (scope + 1) bs)

/-- The rows of the fields for all other hosts, if there are any. -/
def otherwise (st : Style) (scope : Nat) : Option Fields → List Row
  | none => []
  | some f => .elseRow :: st.stanzas scope f

/-- The rows of a conditional. -/
def chain (st : Style) (c : Chain) : List Row :=
  .ifGuard c.first.guard :: (st.stanzas 1 c.first.fields ++ (st.branches 2 c.others ++
    (st.otherwise (2 + c.others.length) c.otherwise ++ [.endRow])))

/-- The rows of an outline. -/
def rows (st : Style) (o : Outline) : List Row :=
  .opening o.token :: ((st.stanzas 0 o.fields).take st.before ++
    ((o.chain.map st.chain).getD [] ++ ((st.stanzas 0 o.fields).drop st.before ++ [.endRow])))

/-- A text in quotes. -/
def quoted (st : Style) (s : String) : List Char :=
  st.quote s :: (Lexeme.escaped s.toList ++ [st.quote s])

/-- What stands after the word that begins a stanza. -/
def value (st : Style) : Entry → List Char
  | .appcast url checkpoint => st.quoted url ++ (", checkpoint: ".toList ++ st.quoted checkpoint)
  | .autoUpdates b => (toString b).toList
  | .version t | .sha256 t | .url t | .name t | .homepage t | .license t | .app t => st.quoted t

end Style

/-- The word that begins a row. -/
def Row.word : Row → String
  | opening _ => "cask"
  | stanza e => e.kind.word
  | ifGuard _ => "if"
  | elsifGuard _ => "elsif"
  | elseRow => "else"
  | endRow => "end"

/-- What stands after the word that begins a row. -/
def Style.rest (st : Style) : Row → List Char
  | .opening token => ' ' :: (st.quoted token ++ " do".toList)
  | .stanza e => ' ' :: st.value e
  | .ifGuard guard => ' ' :: guard.toList
  | .elsifGuard guard => ' ' :: guard.toList
  | .elseRow => []
  | .endRow => []

/-- An outline written as a definition. -/
def source (o : Outline) (st : Style) : String :=
  String.ofList ((st.rows o).flatMap fun r => r.word.toList ++ (st.rest r ++ ['\n']))

/-! ## Tables -/

/-- A value gives the URL of a feed and its checkpoint. -/
inductive GivesAppcast : Option (String × String) → Option Toml → Prop
  | none : GivesAppcast none none
  | some {url checkpoint : String} {line : Option Nat} {entries : List (String × Toml)}
      (hk : ∀ p ∈ entries, p.1 ∈ ["url", "checkpoint"])
      (hu : entries.lookup "url" = some (.string url))
      (hc : entries.lookup "checkpoint" = some (.string checkpoint)) :
      GivesAppcast (some (url, checkpoint)) (some (.table line entries))

/-- The entries of a table, in any order, give a token, a condition and fields. -/
structure Fields.AreGivenBy (f : Fields) (token condition : Option String)
    (entries : List (String × Toml)) : Prop where
  keys : ∀ p ∈ entries, p.1 ∈ Document.Table.keys
  token : entries.lookup "token" = token.map .string
  condition : entries.lookup "when" = condition.map .string
  version : entries.lookup "version" = f.version.map .string
  sha256 : entries.lookup "sha256" = f.sha256.map .string
  url : entries.lookup "url" = f.url.map .string
  appcast : GivesAppcast f.appcast (entries.lookup "appcast")
  autoUpdates : entries.lookup "auto_updates" = f.autoUpdates.map .bool
  name : entries.lookup "name" = f.name.map .string
  homepage : entries.lookup "homepage" = f.homepage.map .string
  license : entries.lookup "license" = f.license.map .string
  app : entries.lookup "app" = f.app.map .string

/-- A table gives a token, a condition and fields. -/
inductive GivesTable (f : Fields) (token condition : Option String) : Toml → Prop
  | intro {line : Nat} {entries : List (String × Toml)}
      (h : f.AreGivenBy token condition entries) :
      GivesTable f token condition (.table (some line) entries)

/-- An outline is given by a value: a table `cask` for what is outside the clauses, and a table
`clause` for each clause. -/
inductive IsGivenBy (o : Outline) : Toml → Prop
  | intro {line line' : Option Nat} {entries : List (String × Toml)} {cask : Toml}
      {tables : List Toml}
      (hk : ∀ p ∈ entries, p.1 ∈ ["cask", "clause"])
      (hcask : entries.lookup "cask" = some cask)
      (hclauses : entries.lookup "clause" = some (.array line' tables))
      (hc : GivesTable o.outerFields (some o.token) none cask)
      (ht : List.Forall₂ (fun c t => GivesTable c.2 none c.1 t) o.clauses tables) :
      IsGivenBy o (.table line entries)

end Outline

end CaskAudit
