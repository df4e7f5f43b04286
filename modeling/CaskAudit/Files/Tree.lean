import CaskAudit.Files.Basic
import CaskAudit.Text.Pieces
import CaskAudit.Text.Utf8

/-!
# Trees of files

A directory with everything below it as a value. Paths are taken one component after another from
the root of the tree, as an operating system takes them, so a path through a missing directory is
missing even where it comes back.
-/

namespace CaskAudit

open Text

/-- A file, or a directory whose entries are in the order of their names. -/
inductive FileTree where
  | file (bytes : List UInt8)
  | directory (entries : List (String × FileTree))

instance : Inhabited FileTree := ⟨.directory []⟩

namespace FileTree

/-- The entries of a directory; a file has none. -/
def entries : FileTree → List (String × FileTree)
  | file _ => []
  | directory es => es

/-- Puts an entry at its place by name, instead of one of the same name if there is one. -/
def putEntry (name : String) (t : FileTree) :
    List (String × FileTree) → List (String × FileTree)
  | [] => [(name, t)]
  | (n, u) :: es =>
    if n = name then (name, t) :: es
    else if name < n then (name, t) :: (n, u) :: es
    else (n, u) :: putEntry name t es

/-- The entry with a name. -/
def child? (name : String) (es : List (String × FileTree)) : Option FileTree := es.lookup name

/-- Puts a tree at a path below a directory, making the directories on the way. A directory that is
there already keeps its entries when it is put again. -/
def put (t : FileTree) : List String → List (String × FileTree) → List (String × FileTree)
  | [], es => es
  | [name], es =>
    match t, child? name es with
    | directory [], some (directory _) => es
    | _, _ => putEntry name t es
  | name :: next :: path, es =>
    let below := ((child? name es).map entries).getD []
    putEntry name (directory (put t (next :: path) below)) es

/-- The components of a relative path. -/
def components (path : String) : List String := (splitOn '/' path.toList).map String.ofList

/-- The tree with contents at relative paths. -/
def ofPaths (contents : List (String × FileTree)) : FileTree :=
  directory (contents.foldl (fun es (path, t) => put t (components path) es) [])

/-- Follows a path from a place; `above` are the directories around it, innermost first. -/
def follow (above : List FileTree) (t : FileTree) : List String → Except FileFault FileTree
  | [] => .ok t
  | name :: path =>
    match t with
    | file _ => .error .notDirectory
    | directory es =>
      if name = "" ∨ name = "." then follow above t path
      else if name = ".." then
        match above with
        | [] => .error .missing
        | u :: above => follow above u path
      else
        match child? name es with
        | none => .error .missing
        | some u => follow (t :: above) u path

/-- What a path leads to. -/
def find (t : FileTree) (path : String) : Except FileFault FileTree :=
  if path.isEmpty || path.toList.head? = some '/' then .error .missing
  else follow [] t (components path)

/-- The text of a file. -/
def read (t : FileTree) (path : String) : Except FileFault String :=
  match t.find path with
  | .error e => .error e
  | .ok (directory _) => .error .isDirectory
  | .ok (file bytes) =>
    match decode? bytes with
    | some cs => .ok (String.ofList cs)
    | none => .error .notText

mutual

/-- The paths of the files in a tree that is found at a path. -/
def filesBelow (path : String) : FileTree → List String
  | file _ => [path]
  | directory es => filesIn path es

/-- The paths of the files in the entries of a directory that is found at a path. -/
def filesIn (path : String) : List (String × FileTree) → List String
  | [] => []
  | (name, t) :: es => filesBelow (joinPath path name) t ++ filesIn path es

end

/-- Walks through what a path leads to. -/
def walk (t : FileTree) (root : String) : List WalkStep :=
  match t.find root with
  | .error e => [.fault root e.describe]
  | .ok u => (u.filesBelow root).map .file

/-- Whether a path leads to a directory. -/
def isDirectory (t : FileTree) (path : String) : Bool :=
  match t.find path with
  | .ok (directory _) => true
  | _ => false

/-- The files of a tree. -/
def files (t : FileTree) : Files := ⟨t.read, t.isDirectory, t.walk⟩

end FileTree

end CaskAudit
