import CaskAudit.Toml.Basic
import Mathlib.Data.Option.Basic
import Mathlib.Tactic.Lemma

/-!
# Records of values

A record is a table with known keys, or an array of the values in the order of the keys
(`IsRecord`). What may be missing in a record is read as what stands under its key
(`optional?_eq_some_iff`), for every kind of value that is read from one written form only.
-/

namespace CaskAudit

namespace Toml

variable {α : Type} {names : List String} {entries : List (String × Toml)} {key : String}

/-- A value is a record of entries, under keys of which all are known. -/
inductive IsRecord (names : List String) : Toml → List (String × Toml) → Prop
  | table {line : Option Nat} {entries : List (String × Toml)} (h : ∀ p ∈ entries, p.1 ∈ names) :
      IsRecord names (.table line entries) entries
  | array {line : Option Nat} {items : List Toml} :
      IsRecord names (.array line items) (names.zip items)

/-- The entries that are read are those of a record. -/
lemma record?_eq_some_iff {t : Toml} :
    t.record? names = some entries ↔ IsRecord names t entries := by
  have hknown : ∀ es : List (String × Toml),
      es.all (names.contains ·.1) = true ↔ ∀ p ∈ es, p.1 ∈ names := by
    simp
  constructor
  · intro h
    cases t with
    | table line es =>
      simp only [record?, Option.ite_none_right_eq_some, Option.some.injEq, hknown] at h
      obtain ⟨hes, rfl⟩ := h
      exact .table hes
    | array line items =>
      obtain rfl := Option.some.inj h
      exact .array
    | string _ | bool _ | int _ | scalar _ => cases h
  · rintro (h | _)
    · simp only [record?, (hknown entries).2 h, if_true]
    · rfl

/-- A table with known keys only is read by key. -/
lemma completeRecord?_table {line : Option Nat} (h : ∀ p ∈ entries, p.1 ∈ names) :
    (Toml.table line entries).completeRecord? names = some entries := by
  unfold completeRecord?
  rw [record?_eq_some_iff.2 (.table h), Option.bind_some]

/-- An entry that may be missing is read as what stands under its key, if values that pass a test
are read from one written form each. -/
lemma optional?_eq_some_iff {read : Toml → Option α} (write : α → Toml) (P : α → Prop)
    (h : ∀ t a, read t = some a ↔ t = write a ∧ P a) {o : Option α} :
    optional? read key entries = some o ↔ entries.lookup key = o.map write ∧ ∀ a ∈ o, P a := by
  unfold optional?
  cases entries.lookup key with
  | none => cases o <;> simp
  | some t => cases o <;> simp [h]

/-- A text that may be missing is read under its key. -/
lemma optional?_string_iff {o : Option String} :
    optional? string? key entries = some o ↔ entries.lookup key = o.map .string := by
  rw [optional?_eq_some_iff .string (fun _ => True)]
  · simp
  · intro t a
    cases t <;> simp [string?]

/-- A truth value that may be missing is read under its key. -/
lemma optional?_bool_iff {o : Option Bool} :
    optional? bool? key entries = some o ↔ entries.lookup key = o.map .bool := by
  rw [optional?_eq_some_iff .bool (fun _ => True)]
  · simp
  · intro t a
    cases t <;> simp [bool?]

/-- Entries have a number below a bound under a key, or nothing is under the key. -/
structure HasNumber (entries : List (String × Toml)) (key : String) (bound : Nat)
    (o : Option Nat) : Prop where
  lookup_eq : entries.lookup key = o.map fun n => .int n
  lt : ∀ n ∈ o, n < bound

/-- Without entries there is no number. -/
lemma hasNumber_nil_iff {bound : Nat} {o : Option Nat} : HasNumber [] key bound o ↔ o = none := by
  constructor
  · intro h
    exact Option.map_eq_none_iff.1 h.lookup_eq.symm
  · rintro rfl
    exact ⟨rfl, fun n hn => by cases hn⟩

/-- A number that may be missing is read under its key. -/
lemma optional?_natBelow_iff {bound : Nat} {o : Option Nat} :
    optional? (natBelow? bound) key entries = some o ↔ HasNumber entries key bound o := by
  rw [optional?_eq_some_iff (fun n : Nat => .int n) (· < bound)]
  · exact ⟨fun h => ⟨h.1, h.2⟩, fun h => ⟨h.lookup_eq, h.lt⟩⟩
  · intro t n
    cases t with
    | int i =>
      simp only [natBelow?, Option.ite_none_right_eq_some, Option.some.injEq, Toml.int.injEq]
      omega
    | string _ | bool _ | scalar _ | array _ _ | table _ _ => simp [natBelow?]

end Toml

end CaskAudit
