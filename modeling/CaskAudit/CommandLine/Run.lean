import CaskAudit.Batch.Scripted
import CaskAudit.CommandLine.Arguments
import CaskAudit.Report.Document
import CaskAudit.Report.Error
import CaskAudit.Report.Listing

/-!
# Running commands

What a command prints and with which status it exits, as a function of its surroundings. A failure
wins over a changed feed; a changed feed counts only where that was asked for.
-/

namespace CaskAudit

/-- Everything that a command can see. -/
structure Surroundings where
  env : Environment
  settingsFile : SettingsFile
  files : Files
  world : World
  /-- The time of the run, as reports show it. -/
  checkedAt : String

/-- What a command prints, line by line, and its exit status. -/
structure Execution where
  status : Nat
  stdout : List String
  stderr : List String
  deriving DecidableEq, Repr

/-- The exit status of a run: 1 if something failed, 2 if a feed changed and that was asked for. -/
def exitStatus (failed changed outdated : Bool) : Nat :=
  if failed then 1 else if outdated && changed then 2 else 0

/-- A time in milliseconds as seconds with one decimal. -/
def seconds (ms : Nat) : String :=
  let tenths := (ms + 50) / 100
  s!"{tenths / 10}.{tenths % 10}"

/-- An execution that failed as a whole. -/
def Execution.failure (line : String) : Execution := ⟨1, [], [line]⟩

/-- Settings with those that were given as options. -/
def NetworkOptions.apply (n : NetworkOptions) (s : Settings) : Settings :=
  { s with
    timeoutSecs := n.timeout.getD s.timeoutSecs
    retry := { s.retry with maxAttempts := n.retries.getD s.retry.maxAttempts }
    concurrency := n.concurrency.getD s.concurrency
    githubToken := n.githubToken.or s.githubToken }

/-- How requests are made under some settings. -/
def Settings.fetchOptions (s : Settings) : FetchOptions := ⟨s.retry, s.timeoutMs⟩

/-- Whether a character may stand in the value of a header. -/
def isHeaderChar (c : Char) : Bool := c == '\t' || (' ' ≤ c && c != '\x7f')

/-- How requests are made under some settings, or the line that tells why none can be made: the user
agent has to be sent as a header. -/
def Settings.requestOptions (s : Settings) : Except String FetchOptions :=
  if s.userAgent.toList.all isHeaderChar then .ok s.fetchOptions
  else
    .error (errorChain "Failed to build HTTP client" (FetchError.message (.request "builder error"))
      [])

/-- Whether a URL is one of those that are requested with the token for GitHub. -/
def isRequestedWithToken (url : String) : Bool :=
  (Text.dropLeading? "https://api.github.com/".toList url.toList).isSome

/-- A world in which requests tell a token: with a token that cannot be sent as a header, none is
made for a URL that is requested with it. -/
def World.withToken (w : World) (token : Option String) : World :=
  if (token.getD "").toList.all isHeaderChar then w
  else
    { w with
      scripts := w.scripts.filter (!isRequestedWithToken ·.1)
      otherwise := fun url =>
        if isRequestedWithToken url then ⟨0, .failure (.request "builder error")⟩
        else w.otherwise url }

/-- What a command can see under some settings. -/
def Surroundings.under (s : Surroundings) (settings : Settings) : Surroundings :=
  { s with world := s.world.withToken settings.githubToken }

namespace Command

/-! ## One manifest -/

/-- Tells what a manifest says about a host. -/
def runResolve (s : Surroundings) (file : String) (f : Facts) (json : Bool) : Execution :=
  match s.files.loadManifest file with
  | .error e => .failure (errorChain s!"Failed to load {file}" e.message e.causes)
  | .ok m =>
    match m.resolve f with
    | .error e => .failure (errorChain s!"Failed to resolve {file}" e.message e.causes)
    | .ok cask => ⟨0, if json then [cask.toJson.pretty] else cask.lines f, []⟩

/-! ## Several manifests -/

/-- A verification of files under way: the tokens that have been verified with the file of each, the
lines of progress, newest first, and whether a file has failed. -/
structure Audit where
  world : World
  seen : List (Token × String)
  report : Report
  rows : List OutcomeRow
  progress : List String
  failed : Bool

/-- Notes that a file has failed. -/
def Audit.fail (a : Audit) (file message : String) : Audit :=
  { a with
    report := a.report.put file (.error message)
    rows := failedRow file message :: a.rows
    progress := errorLine s!"{file}: {message}" :: a.progress
    failed := true }

/-- Notes the outcome of a verification. -/
def Audit.note (a : Audit) (file : String) (c : CheckedCask) (w : World) : Audit :=
  { a with
    world := w
    seen := (c.cask.token, file) :: a.seen
    report := a.report.put c.cask.token.text (.outcome c.outcome)
    rows := c.row :: a.rows
    progress := progressLine c.cask.token c.outcome.label :: a.progress }

/-- The report of a token that was in a file before. -/
def repeatedToken (token : Token) (first : String) : String :=
  s!"Duplicate cask token '{token.text}' (first loaded from {first})"

/-- What a file says about a host, or why nothing. -/
def resolveFile (fs : Files) (f : Facts) (file : String) : Except String ResolvedCask :=
  match fs.loadManifest file with
  | .error e => .error e.message
  | .ok m => (m.resolve f).mapError ResolveError.message

/-- Verifies the feed of a file, unless its token has been verified. -/
def Audit.file (fs : Files) (o : FetchOptions) (f : Facts) (a : Audit) (file : String) : Audit :=
  match resolveFile fs f file with
  | .error message => a.fail file message
  | .ok cask =>
    match a.seen.lookup cask.token with
    | some first => a.fail file (repeatedToken cask.token first)
    | none =>
      let (outcome, w) := World.run (CaskAudit.verify o cask.appcast) a.world
      a.note file ⟨cask, outcome⟩ w

/-- Verifies the feeds of files one after another. -/
def runVerify (s : Surroundings) (settings : Settings) (files : List String) (f : Facts)
    (json : Bool) : Execution :=
  match settings.requestOptions with
  | .error line => .failure line
  | .ok o =>
    let start : Audit := ⟨s.world, [], .empty f, [], [], false⟩
    let a := files.foldl (Audit.file s.files o f) start
    ⟨exitStatus a.failed false false,
      if json then [(a.report.toJson s.checkedAt).pretty] else outcomeTable a.rows.reverse,
      if json then [] else a.progress.reverse⟩

/-! ## A directory -/

/-- The row of a checked manifest. -/
def resultRow (token : Token) : CheckResult → OutcomeRow
  | .ok c => c.row
  | .error e => failedRow token.text e.message

/-- The entry of a checked manifest. -/
def resultEntry : CheckResult → ReportEntry
  | .ok c => .outcome c.outcome
  | .error e => .error e.message

/-- Whether a manifest could not be checked. -/
def resultFailed : CheckResult → Bool
  | .ok _ => false
  | .error _ => true

/-- Whether the feed of a manifest has changed. -/
def resultChanged : CheckResult → Bool
  | .ok c => c.outcome.isChanged
  | .error _ => false

/-- The report of a checked catalog. -/
def reportOf (f : Facts) (results : List (Token × CheckResult)) (faults : List CatalogError) :
    Report :=
  let put := fun (r : Report) (token, result) => r.put token.text (resultEntry result)
  { results.foldl put (Report.empty f) with failures := faults.map CatalogError.failure }

/-- The exit status of a checked catalog. -/
def statusOf (results : List (Token × CheckResult)) (faults : List CatalogError)
    (outdated : Bool) : Nat :=
  exitStatus (!faults.isEmpty || results.any (resultFailed ·.2)) (results.any (resultChanged ·.2))
    outdated

/-- Verifies the feeds of the manifests below a directory. -/
def runCheck (s : Surroundings) (settings : Settings) (directory : String) (f : Facts)
    (outdated json : Bool) : Execution :=
  if !s.files.isDirectory directory then .failure (errorLine s!"{directory} is not a directory")
  else
    let (catalog, faults) := s.files.loadDirectory directory
    let faultLines := if json then [] else faults.map fun e => errorLine e.message
    if catalog.isEmpty && faults.isEmpty then
      .failure (errorLine s!"No manifests found in {directory}")
    else
      match settings.requestOptions with
      | .error line => ⟨1, [], faultLines ++ [line]⟩
      | .ok o =>
        let (w, batch) := Batch.run o f settings.concurrency catalog s.world
        let results := batch.inOrder catalog
        let elapsed := seconds (w.now - s.world.now)
        let progress :=
          if json then [] else batch.allEvents.filterMap (ProgressEvent.line? elapsed)
        ⟨statusOf results faults outdated,
          if json then [((reportOf f results faults).toJson s.checkedAt).pretty]
          else outcomeTable (results.map fun (token, result) => resultRow token result),
          faultLines ++ progress⟩

/-! ## A feed -/

/-- A feed with the entries that options leave. -/
def narrow (o : AppcastOptions) (feed : Feed) : Feed :=
  let matching := match o.filter with
    | some p => feed.retain (Pattern.occursIn p)
    | none => feed
  if o.stable then { matching with entries := matching.entries.filter (!·.prerelease) }
  else matching

/-- The first pre-release of a feed, if its version is not that of the latest entry. -/
def otherPrerelease? (feed : Feed) (latest : Option FeedEntry) : Option FeedEntry :=
  feed.latestPrerelease?.filter fun pre => (latest.map (·.version)) ≠ some pre.version

/-- The line that tells the latest version and its build. -/
def versionLine : Option FeedEntry → String
  | some ⟨version, some build, _, _, _⟩ => version ++ " " ++ build
  | some e => e.version
  | none => "-"

/-- The parts of a feed that options ask for; with none of them, a listing of it. -/
def appcastLines (o : AppcastOptions) (snapshot : FeedSnapshot) : List String :=
  let latest := snapshot.feed.headline?
  let prerelease := otherPrerelease? snapshot.feed latest
  if o.json then [(snapshot.report latest prerelease).pretty]
  else if o.checkpoint || o.provider || o.version || o.downloads then
    (if o.checkpoint then [snapshot.checkpoint.hex] else []) ++
    (if o.provider then [snapshot.feed.provider.name] else []) ++
    (if o.version then [versionLine latest] else []) ++
    (if o.downloads then (latest.map (·.urls)).getD [] else [])
  else snapshot.lines latest prerelease

/-- Fetches a feed and tells what is in it. -/
def runAppcast (s : Surroundings) (settings : Settings) (url : String) (o : AppcastOptions) :
    Execution :=
  match settings.requestOptions with
  | .error line => .failure line
  | .ok requests =>
    match (World.run (CaskAudit.snapshot requests url) s.world).1 with
    | .error e => .failure (errorChain s!"Failed to read {url}" e.message [])
    | .ok snapshot =>
      ⟨0, appcastLines o { snapshot with feed := narrow o snapshot.feed }, []⟩

/-- Runs a command under some settings. -/
def run (s : Surroundings) (settings : Settings) : Command → Execution
  | .resolve file f json => runResolve s file f json
  | .verify files f json => runVerify s settings files f json
  | .check directory f outdated json => runCheck s settings directory f outdated json
  | .appcast url o => runAppcast s settings url o

end Command

/-- The settings under which an invocation runs, or the line that tells why there are none. -/
def Invocation.settings (i : Invocation) (s : Surroundings) : Except String Settings :=
  match Settings.load s.settingsFile s.env with
  | .error e => .error (errorChain "Failed to load configuration" e.message e.causes)
  | .ok loaded =>
    let settings := i.network.apply loaded
    match settings.validate with
    | .error e => .error (errorChain "Invalid configuration" e.message e.causes)
    | .ok () => .ok settings

/-- Runs an invocation. -/
def Invocation.run (i : Invocation) (s : Surroundings) : Execution :=
  match i.settings s with
  | .error line => .failure line
  | .ok settings => i.command.run (s.under settings) settings

/-- A line that tells how the program is called. -/
def usageLine : String := "Usage: cask-check [OPTIONS] <resolve|verify|check|appcast> ..."

/-- Runs what arguments ask for. -/
def execute (s : Surroundings) (args : List String) : Execution :=
  match Invocation.parse s.env args with
  | .error .usage => ⟨2, [], [usageLine]⟩
  | .error .help => ⟨0, [usageLine], []⟩
  | .error .version => ⟨0, ["cask-check 0.1.0"], []⟩
  | .ok i => i.run s

end CaskAudit
