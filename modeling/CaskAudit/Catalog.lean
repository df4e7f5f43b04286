import CaskAudit.Manifest

/-!
# Catalogs

A catalog holds manifests in the order of their tokens. The first manifest of a token stays; a
second one is refused, or dropped where a whole list is collected.
-/

namespace CaskAudit

/-- Manifests in the order of their tokens. -/
structure Catalog where
  manifests : List Manifest
  deriving BEq, Repr

namespace Catalog

/-- A catalog without manifests. -/
def empty : Catalog := ⟨[]⟩

/-- The manifest with a token, which any spelling of the token finds. -/
def get? (c : Catalog) (token : String) : Option Manifest :=
  c.manifests.find? (·.token = Token.ofText token)

/-- The number of manifests. -/
def size (c : Catalog) : Nat := c.manifests.length

/-- Whether a catalog has no manifests. -/
def isEmpty (c : Catalog) : Bool := c.manifests.isEmpty

/-- Puts a manifest before the first one with a greater token. -/
def place (m : Manifest) : List Manifest → List Manifest
  | [] => [m]
  | n :: ns => if m.token.text < n.token.text then m :: n :: ns else n :: place m ns

/-- Adds a manifest, unless its token is taken. -/
def insert? (c : Catalog) (m : Manifest) : Option Catalog :=
  if c.manifests.any (·.token = m.token) then none else some ⟨place m c.manifests⟩

/-- The catalog of several manifests; of those with one token the first stays. -/
def collect (ms : List Manifest) : Catalog :=
  ms.foldl (fun c m => (c.insert? m).getD c) empty

end Catalog

end CaskAudit
