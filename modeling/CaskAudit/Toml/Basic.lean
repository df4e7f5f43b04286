/-!
# TOML values

The values of a TOML document, with the line on which a table or an array was opened. A table that
came into being only because a longer key passes through it was opened nowhere.
-/

namespace CaskAudit

/-- A TOML value. -/
inductive Toml where
  | string (s : String)
  | bool (b : Bool)
  | int (n : Int)
  /-- A number with a fraction or an exponent, a date or a time. -/
  | scalar (text : String)
  | array (line : Option Nat) (items : List Toml)
  | table (line : Option Nat) (entries : List (String × Toml))

instance : Inhabited Toml := ⟨.bool false⟩

namespace Toml

/-- The line on which a table or an array was opened. -/
def line? : Toml → Option Nat
  | .array line _ => line
  | .table line _ => line
  | _ => none

/-- The string that a value is. -/
def string? : Toml → Option String
  | .string s => some s
  | _ => none

/-- The truth value that a value is. -/
def bool? : Toml → Option Bool
  | .bool b => some b
  | _ => none

/-- The natural number below a bound that a value is. -/
def natBelow? (bound : Nat) : Toml → Option Nat
  | .int n => if 0 ≤ n ∧ n < bound then some n.toNat else none
  | _ => none

/-- The items of an array. -/
def items? : Toml → Option (List Toml)
  | .array _ items => some items
  | _ => none

/-- The entries of a record whose keys are `names`: a table gives them by key and may have no other
key, an array gives them in the order of `names` and may go on after the last. -/
def record? (names : List String) : Toml → Option (List (String × Toml))
  | .table _ entries => if entries.all (names.contains ·.1) then some entries else none
  | .array _ items => some (names.zip items)
  | _ => none

/-- Like `record?`, but an array has to give every key. -/
def completeRecord? (names : List String) (t : Toml) : Option (List (String × Toml)) :=
  (t.record? names).bind fun entries =>
    match t with
    | .array _ _ => if entries.length = names.length then some entries else none
    | _ => some entries

/-- Reads an entry that may be missing; one that is present has to be readable. -/
def optional? {α : Type} (read : Toml → Option α) (name : String)
    (entries : List (String × Toml)) : Option (Option α) :=
  match entries.lookup name with
  | none => some none
  | some value => (read value).map some

/-! ## Equality -/

mutual

/-- Whether two values are the same. -/
def same : Toml → Toml → Bool
  | .string s, .string t => s == t
  | .bool b, .bool c => b == c
  | .int m, .int n => m == n
  | .scalar s, .scalar t => s == t
  | .array line items, .array line' items' => line == line' && sameItems items items'
  | .table line entries, .table line' entries' => line == line' && sameEntries entries entries'
  | _, _ => false

/-- Whether two lists of values are the same. -/
def sameItems : List Toml → List Toml → Bool
  | [], [] => true
  | t :: ts, u :: us => t.same u && sameItems ts us
  | _, _ => false

/-- Whether two lists of entries are the same. -/
def sameEntries : List (String × Toml) → List (String × Toml) → Bool
  | [], [] => true
  | (key, t) :: es, (key', u) :: fs => key == key' && t.same u && sameEntries es fs
  | _, _ => false

end

mutual

/-- The comparison of values decides equality. -/
theorem same_iff : ∀ t u : Toml, t.same u = true ↔ t = u
  | .string _, u => by cases u <;> simp [same]
  | .bool _, u => by cases u <;> simp [same]
  | .int _, u => by cases u <;> simp [same]
  | .scalar _, u => by cases u <;> simp [same]
  | .array _ items, u => by cases u <;> simp [same, sameItems_iff items]
  | .table _ entries, u => by cases u <;> simp [same, sameEntries_iff entries]

/-- The comparison of lists of values decides equality. -/
theorem sameItems_iff : ∀ ts us : List Toml, sameItems ts us = true ↔ ts = us
  | [], us => by cases us <;> simp [sameItems]
  | t :: ts, us => by cases us <;> simp [sameItems, same_iff t, sameItems_iff ts]

/-- The comparison of lists of entries decides equality. -/
theorem sameEntries_iff : ∀ es fs : List (String × Toml), sameEntries es fs = true ↔ es = fs
  | [], fs => by cases fs <;> simp [sameEntries]
  | (_, t) :: es, fs => by
    cases fs <;> simp [sameEntries, same_iff t, sameEntries_iff es, Prod.ext_iff, and_assoc]

end

instance : DecidableEq Toml := fun t u => decidable_of_iff _ (same_iff t u)

end Toml

end CaskAudit
