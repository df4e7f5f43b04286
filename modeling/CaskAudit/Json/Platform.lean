import CaskAudit.Guard.Basic
import CaskAudit.Json.Basic

/-!
# Platforms and guards as JSON

Releases, processors, facts and guards as JSON values, and back. A name is accepted only as it is
written; a guard is an object whose single member names its kind.
-/

namespace CaskAudit

/-- The value of a list that a JSON value names. -/
def Json.named? {α : Type} (all : List α) (name : α → String) (j : Json) : Option α :=
  j.plainVariant?.bind fun text => all.find? (name · = text)

/-- A release by its symbolic name. -/
def Release.toJson (r : Release) : Json := .string r.name

/-- The release that a JSON value names. -/
def Release.ofJson? (j : Json) : Option Release := j.named? Release.all Release.name

namespace Arch

/-- Every processor family. -/
def all : List Arch := [arm, intel, powerPc]

/-- The name of a processor family in JSON. -/
def jsonName : Arch → String
  | arm => "arm"
  | intel => "intel"
  | powerPc => "powerpc"

/-- A processor family by its name. -/
def toJson (a : Arch) : Json := .string a.jsonName

/-- The processor family that a JSON value names. -/
def ofJson? (j : Json) : Option Arch := j.named? all jsonName

end Arch

namespace WordSize

/-- Every word size. -/
def all : List WordSize := [bits32, bits64]

/-- The name of a word size in JSON. -/
def jsonName : WordSize → String
  | bits32 => "32"
  | bits64 => "64"

/-- A word size by its name. -/
def toJson (w : WordSize) : Json := .string w.jsonName

/-- The word size that a JSON value names. -/
def ofJson? (j : Json) : Option WordSize := j.named? all jsonName

end WordSize

namespace Capability

/-- Every capability. -/
def all : List Capability := [is32Bit, is64Bit, intel, arm, powerPc]

/-- The name of a capability in JSON. -/
def jsonName : Capability → String
  | is32Bit => "is32_bit"
  | is64Bit => "is64_bit"
  | intel => "intel"
  | arm => "arm"
  | powerPc => "power_pc"

/-- A capability by its name. -/
def toJson (c : Capability) : Json := .string c.jsonName

/-- The capability that a JSON value names. -/
def ofJson? (j : Json) : Option Capability := j.named? all jsonName

end Capability

/-- A comparison operator by its symbol. -/
def Comparison.toJson (op : Comparison) : Json := .string op.symbol

/-- The comparison operator that a JSON value names. -/
def Comparison.ofJson? (j : Json) : Option Comparison := j.named? Comparison.all Comparison.symbol

/-- Reads a member that stands for a default where it is missing. -/
def Json.memberOr? {α : Type} (default : α) (read : Json → Option α) (name : String)
    (members : List (String × Json)) : Option α :=
  match members.lookup name with
  | none => some default
  | some j => read j

namespace Facts

/-- Facts as an object. -/
def toJson (f : Facts) : Json :=
  .object [("release", f.release.toJson), ("arch", f.arch.toJson),
    ("word_size", f.wordSize.toJson)]

/-- The facts that an object or an array states; the processor may be left open. -/
def ofJson? (j : Json) : Option Facts := do
  let members ← j.record? ["release", "arch", "word_size"]
  let release ← Release.ofJson? (← members.lookup "release")
  let open_ := Facts.ofRelease release
  let arch ← Json.memberOr? open_.arch Arch.ofJson? "arch" members
  let wordSize ← Json.memberOr? open_.wordSize WordSize.ofJson? "word_size" members
  return ⟨release, arch, wordSize⟩

end Facts

namespace Guard

mutual

/-- A guard as an object. -/
def toJson : Guard → Json
  | .release op token =>
    .object [("release", .object [("op", op.toJson), ("token", .string token)])]
  | .capability c => .object [("capability", c.toJson)]
  | .not g => .object [("not", toJson g)]
  | .all gs => .object [("all", .array (toJsonList gs))]
  | .any gs => .object [("any", .array (toJsonList gs))]

/-- Several guards, each as an object. -/
def toJsonList : List Guard → List Json
  | [] => []
  | g :: gs => toJson g :: toJsonList gs

end

/-- The comparison that an object states. -/
def comparisonOfJson? (j : Json) : Option Guard :=
  match j with
  | .object _ => do
    let members ← j.record? ["op", "token"]
    let op ← Comparison.ofJson? (← members.lookup "op")
    let token ← (← members.lookup "token").string?
    return .release op token
  | _ => none

mutual

/-- The guard that a JSON value states. -/
def ofJson? : Json → Option Guard
  | .object [("release", contents)] => comparisonOfJson? contents
  | .object [("capability", contents)] => (Capability.ofJson? contents).map .capability
  | .object [("not", contents)] => (ofJson? contents).map .not
  | .object [("all", .array items)] => (ofJsonList? items).map .all
  | .object [("any", .array items)] => (ofJsonList? items).map .any
  | _ => none

/-- The guards that several JSON values state. -/
def ofJsonList? : List Json → Option (List Guard)
  | [] => some []
  | item :: items =>
    match ofJson? item, ofJsonList? items with
    | some g, some gs => some (g :: gs)
    | _, _ => none

end

end Guard

end CaskAudit
