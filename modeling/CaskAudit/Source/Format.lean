import CaskAudit.Source.Definition
import CaskAudit.Source.Document

/-!
# Formats of manifest sources

A manifest is written as a definition or as a document of tables; the extension of its path tells
which.
-/

namespace CaskAudit

open Text

/-- The components of a path, without those that stand for the directory before them. -/
def pathComponents (path : List Char) : List (List Char) :=
  (splitOn '/' path).filter fun part => !part.isEmpty && part ≠ ['.']

/-- The last component of a path, unless it stands for a parent directory. -/
def fileName? (path : List Char) : Option (List Char) :=
  (pathComponents path).getLast?.filter (· ≠ ['.', '.'])

/-- The part of a file name after its last dot; a dot at the very start does not count. -/
def nameExtension? (name : List Char) : Option (List Char) :=
  match splitFirst? '.' name.reverse with
  | some (_, []) => none
  | some (ext, _) => some ext.reverse
  | none => none

/-- The extension of the file that a path names. -/
def pathExtension? (path : String) : Option String :=
  ((fileName? path.toList).bind nameExtension?).map String.ofList

/-- A format of manifest sources. -/
inductive SourceFormat where
  | definition | document
  deriving DecidableEq, Repr

namespace SourceFormat

/-- The format that the extension of a path tells. -/
def ofPath? (path : String) : Option SourceFormat :=
  match pathExtension? path with
  | some "rb" => some definition
  | some "toml" => some document
  | _ => none

/-- The manifest that a text in a format gives. -/
def parse : SourceFormat → String → Except SourceError Manifest
  | definition, src => Definition.parse src
  | document, src => Document.parse src

end SourceFormat

end CaskAudit
