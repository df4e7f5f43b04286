/-!
# JSON values

A JSON value as a document gives it. Objects keep their members in order of appearance, repeated
names included; a string whose escapes name an unpaired surrogate is legal text without being a
string of characters, and stands as `brokenString`.
-/

namespace CaskAudit

/-- A JSON value. -/
inductive Json where
  | null
  | bool (b : Bool)
  /-- An integer between `-2^63` and `2^64 - 1`. -/
  | int (n : Int)
  /-- Any other number, as written. -/
  | decimal (text : String)
  | string (s : String)
  /-- A string literal with an unpaired surrogate. -/
  | brokenString
  | array (items : List Json)
  | object (members : List (String × Json))

instance : Inhabited Json := ⟨.null⟩

namespace Json

/-- The last member of an object with a given name. -/
def member? (name : String) : Json → Option Json
  | .object members => (members.reverse.find? (·.1 == name)).map (·.2)
  | _ => none

/-- The string that a value is. -/
def string? : Json → Option String
  | .string s => some s
  | _ => none

/-- The truth value that a value is. -/
def bool? : Json → Option Bool
  | .bool b => some b
  | _ => none

/-- The natural number below a bound that a value is. -/
def natBelow? (bound : Nat) : Json → Option Nat
  | .int n => if 0 ≤ n ∧ n < bound then some n.toNat else none
  | _ => none

/-- The items that an array has. -/
def items? : Json → Option (List Json)
  | .array items => some items
  | _ => none

/-- A string, or null for its absence. -/
def ofOption : Option String → Json
  | none => .null
  | some s => .string s

/-- The members of a record, each under its name: an object gives them by name, an array in the
order of `names`. A name given twice is refused, and so are more items than names. -/
def record? (names : List String) : Json → Option (List (String × Json))
  | .object members =>
    let known := members.filter (names.contains ·.1)
    if (known.map (·.1)).eraseDups.length = known.length then some known else none
  | .array items => if items.length ≤ names.length then some (names.zip items) else none
  | _ => none

/-- Whether an object has no member outside a list of names. -/
def onlyNames (names : List String) : Json → Bool
  | .object members => members.all (names.contains ·.1)
  | _ => true

/-- The variant that a value names: a string alone, or an object whose single member carries the
variant's contents. -/
def variant? : Json → Option (String × Option Json)
  | .string s => some (s, none)
  | .object [(name, contents)] => some (name, some contents)
  | _ => none

/-- The name of a variant without contents. -/
def plainVariant? (j : Json) : Option String :=
  match j.variant? with
  | some (name, none) => some name
  | some (name, some .null) => some name
  | _ => none

end Json

end CaskAudit
