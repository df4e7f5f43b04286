import CaskAudit.Proofs.Results
import CaskAudit.Proofs.Source.Rows
import Mathlib.Data.List.Nodup

/-!
# What fields declare

The text of a field has a value, or it has none and the cask is refused (`Entry.value?`). Values of
different kinds can be declared in any order (`give_comm`), and a scope has one value of each kind
at most, so `declared` may be asked of the fields of a scope in any order as well
(`foldl_give_of_perm`). A stanza declares the value of its field (`toOption_declare`).

Nothing here looks at the errors: two formats report different ones, and agree only on whether
there is one.
-/

namespace CaskAudit

namespace Outline

/-! ## Values -/

/-- A value that a scope may declare. -/
inductive Value where
  | version (v : Version)
  | checksum (c : Checksum)
  | url (t : Template)
  | appcast (a : Appcast)
  | autoUpdates (b : Bool)
  | displayName (s : String)
  | homepage (s : String)
  | license (l : License)
  | app (s : String)

namespace Value

/-- The kind of stanza that declares a value. -/
def kind : Value → Stanza.Kind
  | version _ => .version
  | checksum _ => .sha256
  | url _ => .url
  | appcast _ => .appcast
  | autoUpdates _ => .autoUpdates
  | displayName _ => .name
  | homepage _ => .homepage
  | license _ => .license
  | app _ => .app

/-- Declares a value. -/
def put : Value → Declarations → Declarations
  | version v, d => { d with version := some v }
  | checksum c, d => { d with checksum := some c }
  | url t, d => { d with url := some t }
  | appcast a, d => { d with appcast := some a }
  | autoUpdates b, d => { d with autoUpdates := some b }
  | displayName s, d => { d with displayName := some s }
  | homepage s, d => { d with homepage := some s }
  | license l, d => { d with license := some l }
  | app s, d => { d with app := some s }

/-- Values of different kinds are declared in any order. -/
lemma put_comm {v w : Value} (h : v.kind ≠ w.kind) (d : Declarations) :
    w.put (v.put d) = v.put (w.put d) := by
  cases v <;> cases w <;> first | rfl | exact absurd rfl h

end Value

/-- The value of a field. -/
def Entry.value? : Entry → Option Value
  | version t => (Version.ofText t).toOption.map .version
  | sha256 t => (Checksum.ofText t).toOption.map .checksum
  | url t => (Template.parse t).toOption.map .url
  | appcast u c =>
    (Template.parse u).toOption.bind fun url =>
      (Digest.ofText c).toOption.map fun checkpoint => .appcast ⟨url, checkpoint⟩
  | autoUpdates b => some (.autoUpdates b)
  | name t => some (.displayName t)
  | homepage t => some (.homepage t)
  | license t => some (.license (License.ofText t))
  | app t => some (.app t)

/-- The value of a field is of the kind of the field. -/
lemma kind_of_value? {e : Entry} {v : Value} (h : e.value? = some v) : v.kind = e.kind := by
  cases e with
  | appcast u c =>
    simp only [Entry.value?, Option.bind_eq_some_iff, Option.map_eq_some_iff] at h
    obtain ⟨_, _, _, _, rfl⟩ := h
    rfl
  | version t | sha256 t | url t =>
    simp only [Entry.value?, Option.map_eq_some_iff] at h
    obtain ⟨_, _, rfl⟩ := h
    rfl
  | autoUpdates t | name t | homepage t | license t | app t =>
    obtain rfl := Option.some.inj h
    rfl

/-- Declares the value of a field, if it has one. -/
def give (d : Option Declarations) (e : Entry) : Option Declarations :=
  d.bind fun d => e.value?.map (·.put d)

/-- What fields declare one after the other. -/
def declared (es : List Entry) : Option Declarations := es.foldl give (some .empty)

/-- Fields of different kinds are given in any order. -/
lemma give_comm {e e' : Entry} (h : e.kind ≠ e'.kind) (d : Option Declarations) :
    give (give d e) e' = give (give d e') e := by
  cases d with
  | none => rfl
  | some d =>
    cases hv : e.value? with
    | none => cases hw : e'.value? <;> simp [give, hv, hw]
    | some v =>
      cases hw : e'.value? with
      | none => simp [give, hv, hw]
      | some w =>
        have hk : v.kind ≠ w.kind := by
          rwa [kind_of_value? hv, kind_of_value? hw]
        simp [give, hv, hw, Value.put_comm hk]

/-- A field without a value gives nothing, whatever else is given. -/
lemma foldl_give_none (es : List Entry) : es.foldl give none = none := by
  induction es with
  | nil => rfl
  | cons e es ih => exact ih

/-- A scope has one field of each kind at most. -/
lemma nodup_kinds (f : Fields) : (f.entries.map Entry.kind).Nodup := by
  have hone : ∀ {α : Type} (o : Option α) (mk : α → Entry) (k : Stanza.Kind),
      (∀ a, (mk a).kind = k) → ((o.map mk).toList.map Entry.kind).Sublist [k] := by
    intro α o mk k hk
    cases o with
    | none => exact List.nil_sublist _
    | some a => simp [hk a]
  have hsub : (f.entries.map Entry.kind).Sublist
      ([Stanza.Kind.version] ++ [Stanza.Kind.sha256] ++ [Stanza.Kind.url] ++
        [Stanza.Kind.appcast] ++ [Stanza.Kind.autoUpdates] ++ [Stanza.Kind.name] ++
        [Stanza.Kind.homepage] ++ [Stanza.Kind.license] ++ [Stanza.Kind.app]) := by
    simp only [Fields.entries, List.map_append]
    repeat' apply List.Sublist.append
    all_goals exact hone _ _ _ fun _ => rfl
  exact hsub.nodup (by decide)

/-- Fields of different kinds may be given in any order. -/
lemma foldl_give_perm {es es' : List Entry} (h : es.Perm es') (hn : (es.map Entry.kind).Nodup)
    (d : Option Declarations) : es.foldl give d = es'.foldl give d := by
  refine h.foldl_eq' (fun e he e' he' d => ?_) d
  by_cases hk : e.kind = e'.kind
  · rw [List.inj_on_of_nodup_map hn he he' hk]
  · exact give_comm hk d

/-- Fields of one scope may be given in any order. -/
lemma foldl_give_of_perm {f : Fields} {es : List Entry} (h : es.Perm f.entries)
    (d : Option Declarations) : es.foldl give d = f.entries.foldl give d :=
  foldl_give_perm h ((h.map Entry.kind).nodup_iff.2 (nodup_kinds f)) d

/-! ## Scopes -/

/-- The value of a text that may be missing; one that is present has to have a value. -/
def convert? {α β : Type} (f : α → Option β) : Option α → Option (Option β)
  | none => some none
  | some a => (f a).map some

/-- Texts that always have values. -/
@[simp] lemma convert?_some {α β : Type} (f : α → β) (o : Option α) :
    convert? (fun a => some (f a)) o = some (o.map f) := by
  cases o <;> rfl

/-- The appcast with the URL and the checkpoint that two texts write. -/
def appcast? (a : String × String) : Option Appcast :=
  (Template.parse a.1).toOption.bind fun url =>
    (Digest.ofText a.2).toOption.map fun checkpoint => ⟨url, checkpoint⟩

/-- Fields are given to what is declared already, if that can be declared. -/
lemma foldl_give_bind {α : Type} (es : List Entry) (g : α → Option Declarations) (x : Option α) :
    es.foldl give (x.bind g) = x.bind fun a => es.foldl give (g a) := by
  cases x with
  | none => exact foldl_give_none es
  | some a => rfl

/-- A field that may be missing is given to a scope that is complete but for it. -/
lemma foldl_give_option {α β : Type} (mk : α → Entry) (f : α → Option β)
    (σ : Option β → Declarations)
    (h : ∀ a, give (some (σ none)) (mk a) = (f a).map fun b => σ (some b)) (o : Option α) :
    (o.map mk).toList.foldl give (some (σ none)) =
      (convert? f o).bind fun x => some (σ x) := by
  cases o with
  | none => rfl
  | some a =>
    calc [mk a].foldl give (some (σ none)) = (f a).map fun b => σ (some b) := h a
      _ = ((f a).map some).bind fun x => some (σ x) := by cases f a <;> rfl

/-- What a scope declares, field by field. -/
lemma declared_entries (f : Fields) :
    declared f.entries =
      (convert? (fun t => (Version.ofText t).toOption) f.version).bind fun version =>
      (convert? (fun t => (Checksum.ofText t).toOption) f.sha256).bind fun checksum =>
      (convert? (fun t => (Template.parse t).toOption) f.url).bind fun url =>
      (convert? appcast? f.appcast).bind fun appcast =>
        some ⟨version, checksum, url, appcast, f.autoUpdates, f.name, f.homepage,
          f.license.map License.ofText, f.app⟩ := by
  have hversion := foldl_give_option .version (fun t => (Version.ofText t).toOption)
    (fun x => ⟨x, none, none, none, none, none, none, none, none⟩)
    (fun t => by simp [give, Entry.value?, Function.comp_def, Value.put]) f.version
  have hsha256 := fun v => foldl_give_option .sha256 (fun t => (Checksum.ofText t).toOption)
    (fun x => ⟨v, x, none, none, none, none, none, none, none⟩)
    (fun t => by simp [give, Entry.value?, Function.comp_def, Value.put]) f.sha256
  have hurl := fun v c => foldl_give_option .url (fun t => (Template.parse t).toOption)
    (fun x => ⟨v, c, x, none, none, none, none, none, none⟩)
    (fun t => by simp [give, Entry.value?, Function.comp_def, Value.put]) f.url
  have happcast := fun v c u => foldl_give_option (fun a => .appcast a.1 a.2) appcast?
    (fun x => ⟨v, c, u, x, none, none, none, none, none⟩)
    (fun t => by simp [give, Entry.value?, appcast?, Function.comp_def, Value.put, Option.map_bind])
    f.appcast
  have hauto := fun v c u a => foldl_give_option .autoUpdates some
    (fun x => ⟨v, c, u, a, x, none, none, none, none⟩) (fun _ => rfl) f.autoUpdates
  have hname := fun v c u a b => foldl_give_option .name some
    (fun x => ⟨v, c, u, a, b, x, none, none, none⟩) (fun _ => rfl) f.name
  have hhomepage := fun v c u a b n => foldl_give_option .homepage some
    (fun x => ⟨v, c, u, a, b, n, x, none, none⟩) (fun _ => rfl) f.homepage
  have hlicense := fun v c u a b n h => foldl_give_option .license
    (fun t => some (License.ofText t)) (fun x => ⟨v, c, u, a, b, n, h, x, none⟩) (fun _ => rfl)
    f.license
  have happ := fun v c u a b n h l => foldl_give_option .app some
    (fun x => ⟨v, c, u, a, b, n, h, l, x⟩) (fun _ => rfl) f.app
  have hsome : ∀ {α : Type} (o : Option α), convert? some o = some o := by
    intro α o
    cases o <;> rfl
  simp only [declared, Fields.entries, List.foldl_append, Declarations.empty, hversion, hsha256,
    hurl, happcast, hauto, hname, hhomepage, hlicense, happ, foldl_give_bind, hsome, convert?_some,
    Option.bind_some]

/-- What may differ between releases and what describes the application are declared apart. -/
lemma declared_split (f : Fields) :
    ((declared f.entries).map fun d => (d.descriptiveFields, d.releaseFields)) =
      (declared f.descriptiveFields.entries).bind fun outer =>
        (declared f.releaseFields.entries).map fun body => (outer, body) := by
  simp only [declared_entries, Fields.descriptiveFields, Fields.releaseFields, convert?,
    Option.bind_some, Option.map_bind, Function.comp_def, Option.map_some, Option.map_none]
  rfl

/-! ## Stanzas -/

/-- Whether a value of a kind is declared. -/
def declares (d : Declarations) : Stanza.Kind → Bool
  | .version => d.version.isSome
  | .sha256 => d.checksum.isSome
  | .url => d.url.isSome
  | .appcast => d.appcast.isSome
  | .autoUpdates => d.autoUpdates.isSome
  | .name => d.displayName.isSome
  | .homepage => d.homepage.isSome
  | .license => d.license.isSome
  | .app => d.app.isSome

/-- A value is declared where it is put, and what is declared of the other kinds is left. -/
lemma declares_put (v : Value) (d : Declarations) (k : Stanza.Kind) :
    declares (v.put d) k = true ↔ v.kind = k ∨ declares d k = true := by
  by_cases h : v.kind = k
  · subst h
    cases v <;> exact iff_of_true rfl (.inl rfl)
  · rw [or_iff_right h]
    cases v <;> cases k <;> first | exact Iff.rfl | exact absurd rfl h

/-- After some fields, a value of a kind is declared if it was before or if one of the fields is of
that kind. -/
lemma declares_of_foldl_give {es : List Entry} {d d' : Declarations}
    (h : es.foldl give (some d) = some d') (k : Stanza.Kind) :
    declares d' k = true ↔ k ∈ es.map Entry.kind ∨ declares d k = true := by
  induction es generalizing d with
  | nil =>
    obtain rfl := Option.some.inj h
    simp
  | cons e es ih =>
    rw [List.foldl_cons, give, Option.bind_some] at h
    cases hv : e.value? with
    | none =>
      rw [hv, Option.map_none, foldl_give_none] at h
      cases h
    | some v =>
      rw [hv, Option.map_some] at h
      calc declares d' k = true
          ↔ k ∈ es.map Entry.kind ∨ declares (v.put d) k = true := ih h
        _ ↔ k ∈ es.map Entry.kind ∨ e.kind = k ∨ declares d k = true := by
            rw [declares_put, kind_of_value? hv]
        _ ↔ k ∈ (e :: es).map Entry.kind ∨ declares d k = true := by
            rw [List.map_cons, List.mem_cons, or_left_comm, or_assoc, eq_comm]

/-- A value is taken where none of its kind has been declared. -/
lemma once_of_isSome_eq_false {α : Type} (s : Stanza) {old : Option α} (h : old.isSome = false)
    (a : α) : s.once old a = .ok (some a) := by
  simp [Stanza.once, h]

/-- The text of a stanza is its first argument. -/
lemma text_eq {k : Stanza.Kind} {line : Nat} {ps : List Placed} {t : String} {ls : List Lexeme}
    (h : ps.map Placed.lexeme = .text t :: ls) : Stanza.text ⟨k, line, ps⟩ = .ok t := by
  obtain ⟨p, ps, rfl, hp, -⟩ := List.map_eq_cons_iff.1 h
  simp [Stanza.text, hp]

/-- The checkpoint of an appcast stanza follows its key. -/
lemma checkpoint_eq {k : Stanza.Kind} {line : Nat} {ps : List Placed} {u c : String}
    (h : ps.map Placed.lexeme = [.text u, .comma, .key "checkpoint", .text c]) :
    (Stanza.checkpoint ⟨k, line, ps⟩).toOption = (Digest.ofText c).toOption := by
  obtain ⟨p₁, ps, rfl, h₁, h⟩ := List.map_eq_cons_iff.1 h
  obtain ⟨p₂, ps, rfl, h₂, h⟩ := List.map_eq_cons_iff.1 h
  obtain ⟨p₃, ps, rfl, h₃, h⟩ := List.map_eq_cons_iff.1 h
  obtain ⟨p₄, ps, rfl, h₄, -⟩ := List.map_eq_cons_iff.1 h
  have hkey : Stanza.keyword? "checkpoint" (p₁ :: p₂ :: p₃ :: p₄ :: ps) = some (.text c) := by
    simp [Stanza.keyword?, h₁, h₂, h₃, h₄]
  simp only [Stanza.checkpoint, hkey, toOption_mapError]

/-- The truth value of a stanza is its first argument. -/
lemma truth_eq {k : Stanza.Kind} {line : Nat} {ps : List Placed} {b : Bool}
    (h : ps.map Placed.lexeme = [.word (toString b)]) : Stanza.truth ⟨k, line, ps⟩ = .ok b := by
  obtain ⟨p, ps, rfl, hp, -⟩ := List.map_eq_cons_iff.1 h
  cases b <;> simp [Stanza.truth, hp] <;> rfl

/-- A stanza declares the value of its field where none of its kind has been declared. -/
lemma toOption_declare {e : Entry} {d : Declarations} (hd : declares d e.kind = false) {line : Nat}
    {ps : List Placed} (hps : ps.map Placed.lexeme = e.args) :
    (Stanza.declare ⟨e.kind, line, ps⟩ d).toOption = e.value?.map (·.put d) := by
  cases e with
  | version t | sha256 t | url t =>
    simp only [Stanza.declare, Entry.kind, text_eq hps, bind, toOption_bind, toOption_mapError,
      toOption_ok, Option.bind_some, once_of_isSome_eq_false _ hd, pure, Except.pure,
      Stanza.template, Entry.value?, Option.map_map]
    exact Option.map_eq_bind.symm
  | appcast u c =>
    simp only [Stanza.declare, Entry.kind, text_eq hps, bind, toOption_bind, toOption_mapError,
      toOption_ok, Option.bind_some, once_of_isSome_eq_false _ hd, pure, Except.pure,
      Stanza.template, checkpoint_eq hps, Entry.value?, Option.map_bind, Function.comp_def,
      Option.map_map]
    congr 1
    funext t
    exact Option.map_eq_bind.symm
  | autoUpdates b =>
    simp only [Stanza.declare, Entry.kind, truth_eq hps, bind, toOption_bind, toOption_ok,
      Option.bind_some, once_of_isSome_eq_false _ hd, pure, Except.pure]
    rfl
  | name t =>
    have hnone : d.displayName = none := by simpa [declares, Entry.kind] using hd
    simp only [Stanza.declare, Entry.kind, text_eq hps, bind, toOption_bind, toOption_ok,
      Option.bind_some, hnone, pure, Except.pure]
    rfl
  | homepage t | license t | app t =>
    simp only [Stanza.declare, Entry.kind, text_eq hps, bind, toOption_bind, toOption_ok,
      Option.bind_some, once_of_isSome_eq_false _ hd, pure, Except.pure]
    rfl

end Outline

end CaskAudit
