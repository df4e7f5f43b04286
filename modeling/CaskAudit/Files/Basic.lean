/-!
# Files

What the library wants to know of files: the text of one, whether a path leads to a directory, and
the files below a directory. Where the answers come from is left to the caller.
-/

namespace CaskAudit

/-- Why a file has no text. -/
inductive FileFault where
  | missing
  | isDirectory
  | notDirectory
  | notText
  | other (cause : String)
  deriving DecidableEq, Repr

/-- A fault in the words of the operating system. -/
def FileFault.describe : FileFault → String
  | missing => "No such file or directory (os error 2)"
  | isDirectory => "Is a directory (os error 21)"
  | notDirectory => "Not a directory (os error 20)"
  | notText => "stream did not contain valid UTF-8"
  | other cause => cause

/-- What a walk through a directory meets: the path of a file, or a place where it cannot go on. -/
inductive WalkStep where
  | file (path : String)
  | fault (root cause : String)
  deriving DecidableEq, Repr

/-- Answers to questions about files. -/
structure Files where
  read : String → Except FileFault String
  isDirectory : String → Bool
  /-- The files below a directory, depth first and by name. -/
  walk : String → List WalkStep

/-- The path of an entry of a directory. -/
def joinPath (directory name : String) : String :=
  if directory.isEmpty || directory.toList.getLast? = some '/' then directory ++ name
  else directory ++ "/" ++ name

end CaskAudit
