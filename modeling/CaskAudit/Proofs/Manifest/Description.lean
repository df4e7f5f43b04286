import CaskAudit.Resolution
import Mathlib.Data.Option.Basic

/-!
# What a descriptor says

`Describes own outer cask` says field by field what a descriptor takes from the declarations of a
selected clause and what from the outer scope. `Manifest.describe` gives a descriptor exactly if
there is one like that (`describe_eq_ok_iff`). Where it gives none, a required field is declared in
neither scope or a template cannot be expanded (`describe_error_cases`).
-/

namespace CaskAudit

/-- A descriptor has each field as a clause declares it, or else as the outer scope does, or else
not at all. The texts in it are the expansions of templates for the version in it. -/
structure Describes (own outer : Declarations) (cask : ResolvedCask) : Prop where
  version : some cask.version = own.version.or outer.version
  checksum : some cask.checksum = own.checksum.or outer.checksum
  url : Option.Rel (fun t text => t.expand cask.version = .ok text) (own.url.or outer.url) cask.url
  appcast : Option.Rel
    (fun a feed => a.url.expand cask.version = .ok feed.url ∧ feed.checkpoint = a.checkpoint)
    (own.appcast.or outer.appcast) cask.appcast
  autoUpdates : cask.autoUpdates = (own.autoUpdates.or outer.autoUpdates).getD false
  name : cask.name = own.displayName.or outer.displayName
  homepage : cask.homepage = own.homepage.or outer.homepage
  license : cask.license = own.license.or outer.license
  app : cask.app = own.app.or outer.app

namespace Manifest

variable {v : Version} {token : Token} {s : Selection} {own outer d : Declarations}
  {cask : ResolvedCask} {e : ResolveFault}

/-! ## Templates in declarations -/

/-- A text is the expansion of a template, and there is one if there is a template. -/
lemma expandField_eq_ok_iff {field : TemplateField} {t : Option Template} {text : Option String} :
    expandField v field t = .ok text ↔
      Option.Rel (fun t text => t.expand v = .ok text) t text := by
  cases t with
  | none => cases text <;> simp [expandField]
  | some t =>
    rw [expandField]
    cases h : t.expand v <;> cases text <;> simp [h]

/-- A feed has the expansion of a template and the checkpoint of an appcast, and there is one if
there is an appcast. -/
lemma expandAppcast_eq_ok_iff {a : Option Appcast} {feed : Option Feed.Reference} :
    expandAppcast v a = .ok feed ↔
      Option.Rel
        (fun a feed => a.url.expand v = .ok feed.url ∧ feed.checkpoint = a.checkpoint) a feed := by
  cases a with
  | none => cases feed <;> simp [expandAppcast]
  | some a =>
    rw [expandAppcast]
    cases h : a.url.expand v with
    | error e => cases feed <;> simp [h]
    | ok url =>
      cases feed with
      | none => simp
      | some feed =>
        obtain ⟨url', checkpoint⟩ := feed
        simp [h, eq_comm]

/-- A text that cannot be expanded is reported with its field. -/
lemma exists_of_expandField_eq_error {field : TemplateField} {t : Option Template}
    (h : expandField v field t = .error e) : ∃ te, e = .template field te := by
  cases t with
  | none => simp [expandField] at h
  | some t =>
    rw [expandField] at h
    cases ht : t.expand v with
    | ok text => simp [ht] at h
    | error te => exact ⟨te, by simpa [ht] using h.symm⟩

/-- A feed whose template cannot be expanded is reported as the appcast. -/
lemma exists_of_expandAppcast_eq_error {a : Option Appcast} (h : expandAppcast v a = .error e) :
    ∃ te, e = .template .appcast te := by
  cases a with
  | none => simp [expandAppcast] at h
  | some a =>
    rw [expandAppcast] at h
    cases ha : a.url.expand v with
    | ok url => simp [ha] at h
    | error te => exact ⟨te, by simpa [ha] using h.symm⟩

/-! ## Descriptors -/

/-- A clause and the outer scope give a descriptor exactly if this is what they describe. -/
lemma describe_eq_ok_iff :
    describe token s (own.orElse outer) = .ok cask ↔
      cask.token = token ∧ cask.selected = s ∧ Describes own outer cask := by
  constructor
  · intro h
    rw [describe] at h
    split at h
    · cases h
    · cases h
    · next version checksum hversion hchecksum =>
      cases hurl : expandField version .url (own.orElse outer).url with
      | error e => simp [hurl] at h
      | ok url =>
        cases happcast : expandAppcast version (own.orElse outer).appcast with
        | error e => simp [hurl, happcast] at h
        | ok appcast =>
          simp only [hurl, happcast, Except.ok.injEq] at h
          subst h
          exact ⟨rfl, rfl, hversion.symm, hchecksum.symm, expandField_eq_ok_iff.1 hurl,
            expandAppcast_eq_ok_iff.1 happcast, rfl, rfl, rfl, rfl, rfl⟩
  · rintro ⟨rfl, rfl, h⟩
    have hversion : (own.orElse outer).version = some cask.version := h.version.symm
    have hchecksum : (own.orElse outer).checksum = some cask.checksum := h.checksum.symm
    have hurl : expandField cask.version .url (own.orElse outer).url = .ok cask.url :=
      expandField_eq_ok_iff.2 h.url
    have happcast : expandAppcast cask.version (own.orElse outer).appcast = .ok cask.appcast :=
      expandAppcast_eq_ok_iff.2 h.appcast
    simp only [describe, hversion, hchecksum, hurl, happcast]
    simp only [Declarations.orElse, ← h.autoUpdates, ← h.name, ← h.homepage, ← h.license, ← h.app]

/-- There is no descriptor if a required field is declared in neither scope, or if a template
cannot be expanded. -/
lemma describe_error_cases (h : describe token s d = .error e) :
    (d.version = none ∨ d.checksum = none) ∨ ∃ field te, e = .template field te := by
  rw [describe] at h
  split at h
  · next hversion => exact .inl (.inl hversion)
  · next hchecksum => exact .inl (.inr hchecksum)
  · next version checksum _ _ =>
    refine .inr ?_
    cases hurl : expandField version .url d.url with
    | error e' =>
      obtain rfl : e' = e := by simpa [hurl] using h
      exact ⟨.url, exists_of_expandField_eq_error hurl⟩
    | ok url =>
      cases happcast : expandAppcast version d.appcast with
      | error e' =>
        obtain rfl : e' = e := by simpa [hurl, happcast] using h
        exact ⟨.appcast, exists_of_expandAppcast_eq_error happcast⟩
      | ok appcast => simp [hurl, happcast] at h

/-! ## From a selected clause to the answer -/

variable {m : Manifest} {f : Facts}

/-- A manifest fails as the selection of a clause does. -/
lemma resolve_of_select_eq_error (h : m.select f = .error e) :
    m.resolve f = .error ⟨m.token, e⟩ := by
  rw [resolve, h]

/-- A manifest answers as the selected clause is described. -/
lemma resolve_of_select_eq_ok (h : m.select f = .ok (s, own)) :
    m.resolve f = (describe m.token s (own.orElse m.outer)).mapError (⟨m.token, ·⟩) := by
  rw [resolve, h]
  dsimp only
  cases describe m.token s (own.orElse m.outer) <;> rfl

/-- The descriptor of a selected clause is what the clause and the outer scope describe. -/
lemma resolve_eq_ok_iff (h : m.select f = .ok (s, own)) :
    m.resolve f = .ok cask ↔
      cask.token = m.token ∧ cask.selected = s ∧ Describes own m.outer cask := by
  rw [resolve_of_select_eq_ok h, ← describe_eq_ok_iff]
  cases describe m.token s (own.orElse m.outer) <;> simp [Except.mapError]

end Manifest

end CaskAudit
