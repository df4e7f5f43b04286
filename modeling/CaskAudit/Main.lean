import CaskAudit.CommandLine.Run
import CaskAudit.Fetch.Offline
import CaskAudit.Report.Moment
import CaskAudit.Text.Utf8
import Std.Time.Format

/-!
# The program

Gathers what a command can see, runs it and prints what it has to say. Feeds are looked up in a
world without a network.
-/

namespace CaskAudit

/-- The variables that settings and options are taken from. -/
def variableNames : List String :=
  ["CASK_CHECK_TIMEOUT", "CASK_CHECK_RETRIES", "CASK_CHECK_CONCURRENCY", "CASK_CHECK_USER_AGENT",
    "CASK_CHECK_GITHUB_TOKEN", "GITHUB_TOKEN"]

/-- The environment as far as it matters. -/
def readEnvironment : IO Environment := do
  let values ← variableNames.mapM fun name => do return (name, ← IO.getEnv name)
  return fun name => (values.lookup name).bind id

/-- The fault that a failed access to a file shows. -/
def faultOf : IO.Error → FileFault
  | .noFileOrDirectory .. => .missing
  | .inappropriateType _ 21 _ => .isDirectory
  | .inappropriateType .. => .notDirectory
  | e => .other (toString e)

/-- The text of a file. -/
def readText (path : String) : IO (Except FileFault String) := do
  try
    let bytes ← IO.FS.readBinFile path
    match Text.decode? bytes.toList with
    | some cs => return .ok (String.ofList cs)
    | none => return .error .notText
  catch e => return .error (faultOf e)

/-- The file with the settings, below the home of the program. -/
def readSettings : IO SettingsFile := do
  let home ← IO.getEnv "CASK_CHECK_HOME"
  let userHome ← IO.getEnv "HOME"
  match home.or (userHome.map (joinPath · ".cask-check")) with
  | none => return .absent
  | some home =>
    let path := joinPath home "config.toml"
    match ← readText path with
    | .ok text => return .contents path text
    | .error .missing => return .absent
    | .error .notDirectory => return .absent
    | .error e => return .unreadable path e.describe

/-- The names in a directory, in order, or nothing if it is none. -/
def namesIn (path : String) : IO (Option (List String)) := do
  try
    let place ← IO.FS.realPath path
    let found ← place.readDir
    return some ((found.toList.map (·.fileName)).mergeSort fun a b => a ≤ b)
  catch _ => return none

/-- Walks through a directory, depth first. -/
partial def walkFrom (path : String) : IO (List WalkStep) := do
  match ← namesIn path with
  | none => return [.file path]
  | some names => return (← names.mapM fun name => walkFrom (joinPath path name)).flatten

/-- The texts of the files whose paths tell that they hold manifests. -/
def readManifests (paths : List String) : IO (List (String × Except FileFault String)) :=
  (paths.filter fun path => (SourceFormat.ofPath? path).isSome).mapM fun path => do
    return (path, ← readText path)

/-- The path in a step of a walk. -/
def WalkStep.path? : WalkStep → Option String
  | .file path => some path
  | .fault _ _ => none

/-- The files that a command asks for. -/
def readFiles : Command → IO Files
  | .resolve file _ _ => do return given (← readManifests [file]) none
  | .verify files _ _ => do return given (← readManifests files) none
  | .check directory _ _ _ => do
    if (← namesIn directory).isNone then return given [] none
    let steps ← walkFrom directory
    return given (← readManifests (steps.filterMap WalkStep.path?)) (some steps)
  | .appcast _ _ => return given [] none
where
  /-- Files of which some have been read, and a directory that has been walked. -/
  given (texts : List (String × Except FileFault String)) (steps : Option (List WalkStep)) :
      Files :=
    ⟨fun path => (texts.lookup path).getD (.error .missing), fun _ => steps.isSome,
      fun _ => steps.getD []⟩

/-- What a command with arguments can see. -/
def surroundingsOf (args : List String) : IO Surroundings := do
  let env ← readEnvironment
  let files ← match Invocation.parse env args with
    | .ok i => readFiles i.command
    | .error _ => readFiles (.verify [] default false)
  let now ← Std.Time.Timestamp.now
  let moment := Moment.text now.toNanosecondsSinceUnixEpoch.val.toNat
  return ⟨env, ← readSettings, files, .offline, moment⟩

end CaskAudit

open CaskAudit in
/-- Runs the command that the arguments ask for. -/
def main (args : List String) : IO UInt32 := do
  let x := execute (← surroundingsOf args) args
  for line in x.stderr do IO.eprintln line
  for line in x.stdout do IO.println line
  return x.status.toUInt32
