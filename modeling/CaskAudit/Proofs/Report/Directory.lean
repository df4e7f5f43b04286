import CaskAudit.CommandLine.Run
import CaskAudit.Proofs.Batch.Provenance
import CaskAudit.Proofs.Catalog.Loading
import CaskAudit.Proofs.Report.Entries

/-!
# The report of a directory

The files below a directory give a catalog and failures, and each of them is in the report: a
manifest of the catalog has one entry, under its token, and the failures are told in the order of
the walk. The entries and the failures decide the exit status (`AccountsFor`): a failure of either
kind wins over a changed feed, which counts only where that was asked for, and no other outcome
counts. There is no report where nothing is found, or where no request can be made.
-/

namespace CaskAudit

/-! ## What is found in a directory -/

namespace Files

/-- What comes of the files below a directory, in the order of the walk. -/
def found (fs : Files) (root : String) : List (Except CatalogError Manifest) :=
  (fs.walk root).filterMap fs.outcome?

variable (fs : Files) (root : String)

/-- A directory gives the catalog of the manifests that are found, and the failures among what is
found. -/
lemma loadDirectory_eq :
    fs.loadDirectory root =
      (Catalog.afterAdding (loaded (fs.found root)),
        failed (Catalog.fates [] (fs.found root))) :=
  Catalog.loadSteps_afterAdding fs [] (fs.walk root)

/-- The catalog of a directory is ordered. -/
lemma ordered_loadDirectory : (fs.loadDirectory root).1.Ordered := by
  rw [loadDirectory_eq]
  exact (Catalog.holdsFirst_afterAdding _).ordered

/-- Whatever is found is either in the catalog or a failure. -/
lemma size_add_length_loadDirectory :
    (fs.loadDirectory root).1.size + (fs.loadDirectory root).2.length = (fs.found root).length := by
  have hperm := Catalog.perm_afterAdding [] (fs.found root)
  rw [loadDirectory_eq, Catalog.size, ← Catalog.length_fates [] (fs.found root),
    ← length_loaded_add_length_failed]
  exact congrArg (· + _) hperm.length_eq

/-- A directory has neither a manifest nor a failure exactly if nothing is found in it. -/
lemma found_eq_nil_iff :
    ((fs.loadDirectory root).1.isEmpty && (fs.loadDirectory root).2.isEmpty) = true ↔
      fs.found root = [] := by
  have hcatalog : (fs.loadDirectory root).1.isEmpty = true ↔ (fs.loadDirectory root).1.size = 0 :=
    List.isEmpty_iff_length_eq_zero
  have hfailures : (fs.loadDirectory root).2.isEmpty = true ↔
      (fs.loadDirectory root).2.length = 0 := List.isEmpty_iff_length_eq_zero
  calc
    _ ↔ (fs.loadDirectory root).1.size = 0 ∧ (fs.loadDirectory root).2.length = 0 := by
      rw [Bool.and_eq_true, hcatalog, hfailures]
    _ ↔ (fs.found root).length = 0 := by
      rw [← Nat.add_eq_zero_iff, size_add_length_loadDirectory]
    _ ↔ fs.found root = [] := List.length_eq_zero_iff

end Files

namespace Command

/-! ## Entries and the exit status -/

/-- A result as an entry with its name. -/
def namedEntry (p : Token × CheckResult) : String × ReportEntry := (p.1.text, resultEntry p.2)

variable {f : Facts} {results : List (Token × CheckResult)} {faults : List CatalogError}
  {failed changed outdated : Bool}

/-- Results are put into a report one after another. -/
lemma foldl_put (es : List (String × ReportEntry)) (failures : List LoadFailure) :
    results.foldl (fun r (token, result) => r.put token.text (resultEntry result))
      ⟨f, es, failures⟩ = (⟨f, Report.putAll es (results.map namedEntry), failures⟩ : Report) := by
  induction results generalizing es with
  | nil => rfl
  | cons p results ih => exact ih (Report.putEntry p.1.text (resultEntry p.2) es)

/-- The report of results in the order of their tokens has them as they are. -/
lemma reportOf_eq (h : Report.Sorted (results.map namedEntry)) :
    reportOf f results faults =
      ⟨f, results.map namedEntry, faults.map CatalogError.failure⟩ := by
  rw [reportOf, Report.empty, foldl_put, Report.putAll_of_sorted h]

/-- Some result is a failure exactly if the entry of one tells an error. -/
lemma any_resultFailed_iff :
    results.any (resultFailed ·.2) = true ↔
      ∃ name message, (name, .error message) ∈ results.map namedEntry := by
  rw [List.any_eq_true]
  constructor
  · rintro ⟨⟨token, e | c⟩, hmem, hfailed⟩
    · exact ⟨_, _, List.mem_map_of_mem hmem⟩
    · cases hfailed
  · rintro ⟨name, message, hmem⟩
    obtain ⟨⟨token, e | c⟩, hresult, heq⟩ := List.mem_map.1 hmem
    · exact ⟨_, hresult, rfl⟩
    · cases heq

/-- Some feed has changed exactly if the entry of one tells a change. -/
lemma any_resultChanged_iff :
    results.any (resultChanged ·.2) = true ↔
      ∃ name recorded latest release,
        (name, .outcome (.changed recorded latest release)) ∈ results.map namedEntry := by
  rw [List.any_eq_true]
  constructor
  · rintro ⟨⟨token, e | ⟨cask, outcome⟩⟩, hmem, hchanged⟩
    · cases hchanged
    · cases outcome with
      | changed recorded latest release => exact ⟨_, _, _, _, List.mem_map_of_mem hmem⟩
      | notApplicable | unchanged _ | unavailable _ => cases hchanged
  · rintro ⟨name, recorded, latest, release, hmem⟩
    obtain ⟨⟨token, e | ⟨cask, outcome⟩⟩, hresult, heq⟩ := List.mem_map.1 hmem
    · cases heq
    · cases heq
      exact ⟨_, hresult, rfl⟩

/-- The exit status is 1 exactly for a failure. -/
lemma exitStatus_eq_one_iff : exitStatus failed changed outdated = 1 ↔ failed = true := by
  decide +revert

/-- The exit status is 2 exactly for a change that was asked for, without a failure. -/
lemma exitStatus_eq_two_iff :
    exitStatus failed changed outdated = 2 ↔
      exitStatus failed changed outdated ≠ 1 ∧ outdated = true ∧ changed = true := by
  decide +revert

/-- There is no other exit status. -/
lemma exitStatus_le_two : exitStatus failed changed outdated ≤ 2 := by
  decide +revert

/-! ## The account -/

/-- A report and an exit status account for a directory, where the check of the manifests in it has
come to results. -/
structure AccountsFor (fs : Files) (directory : String) (o : FetchOptions) (f : Facts)
    (outdated : Bool) (results : List (Token × CheckResult)) (report : Report) (status : Nat) :
    Prop where
  facts : report.facts = f
  /-- Each manifest of the catalog has a result, which is why it is refused, or an outcome. -/
  checks : List.Forall₂ (fun m p => p.1 = m.token ∧ m.Yields o f p.2)
    (fs.loadDirectory directory).1.manifests results
  /-- Each result has an entry under its token. -/
  entries : report.results = results.map namedEntry
  /-- No name has two entries. -/
  sorted : Report.Sorted report.results
  /-- What cannot be loaded, repeats a token or stops the walk is told once, in the order of the
  walk. -/
  failures : report.failures =
    (CaskAudit.failed (Catalog.fates [] (fs.found directory))).map CatalogError.failure
  status_eq_one_iff : status = 1 ↔
    report.failures ≠ [] ∨ ∃ name message, (name, .error message) ∈ report.results
  status_eq_two_iff : status = 2 ↔
    status ≠ 1 ∧ outdated = true ∧ ∃ name recorded latest release,
      (name, .outcome (.changed recorded latest release)) ∈ report.results
  status_le_two : status ≤ 2

/-- The names of results for manifests in the order of a catalog are in order. -/
lemma sorted_namedEntry {c : Catalog} (hc : c.Ordered) {o : FetchOptions}
    (h : List.Forall₂ (fun m p => p.1 = m.token ∧ m.Yields o f p.2) c.manifests results) :
    Report.Sorted (results.map namedEntry) := by
  have hnames : List.Forall₂ (· = ·) (c.manifests.map (·.token.text))
      ((results.map namedEntry).map Prod.fst) := by
    rw [List.map_map, List.forall₂_map_left_iff, List.forall₂_map_right_iff]
    exact h.imp fun m p hp => congrArg Token.text hp.1.symm
  rw [List.forall₂_eq_eq_eq] at hnames
  have hsorted : ((results.map namedEntry).map Prod.fst).Pairwise (· < ·) := by
    rw [← hnames]
    exact List.pairwise_map.2 hc
  exact List.pairwise_map.1 hsorted

/-- The report of what a directory holds, with the exit status, accounts for the directory. -/
lemma accountsFor_reportOf (fs : Files) (directory : String) (o : FetchOptions)
    (outdated : Bool)
    (h : List.Forall₂ (fun m p => p.1 = m.token ∧ m.Yields o f p.2)
      (fs.loadDirectory directory).1.manifests results) :
    AccountsFor fs directory o f outdated results
      (reportOf f results (fs.loadDirectory directory).2)
      (statusOf results (fs.loadDirectory directory).2 outdated) := by
  have hsorted := sorted_namedEntry (fs.ordered_loadDirectory directory) h
  rw [reportOf_eq hsorted]
  refine ⟨rfl, h, rfl, hsorted, ?_, ?_, ?_, exitStatus_le_two⟩
  · rw [Files.loadDirectory_eq]
  · rw [statusOf, exitStatus_eq_one_iff, Bool.or_eq_true, any_resultFailed_iff]
    simp
  · rw [statusOf, exitStatus_eq_two_iff, any_resultChanged_iff]

/-- A directory in which something is found is reported, unless no request can be made; then there
is no report, and no report either of a directory in which nothing is found, and the exit status is
1. The report has one entry for each manifest of the catalog, under its token: the outcome that its
verification comes to, or why the manifest is refused. It tells once, in the order of the walk, what
cannot be loaded, repeats a token or stops the walk. The exit status is 1 exactly if something of
this is told or some entry is an error, otherwise 2 exactly if it was asked whether feeds have
changed and some has, and otherwise 0. -/
theorem report_of_directory (s : Surroundings) (settings : Settings) (directory : String)
    (f : Facts) (outdated : Bool) (hdirectory : s.files.isDirectory directory = true) :
    (s.files.found directory = [] →
      Command.run s settings (.check directory f outdated true) =
        .failure (errorLine s!"No manifests found in {directory}")) ∧
    (s.files.found directory ≠ [] →
      (∀ line, settings.requestOptions = .error line →
        Command.run s settings (.check directory f outdated true) = .failure line) ∧
      ∀ o, settings.requestOptions = .ok o →
        ∃ report status,
          Command.run s settings (.check directory f outdated true) =
            ⟨status, [(report.toJson s.checkedAt).pretty], []⟩ ∧
          AccountsFor s.files directory o f outdated
            ((Batch.run o f settings.concurrency (s.files.loadDirectory directory).1
              s.world).2.inOrder (s.files.loadDirectory directory).1)
            report status) := by
  have hdir : (!s.files.isDirectory directory) = false := by rw [hdirectory, Bool.not_true]
  refine ⟨?_, ?_⟩
  · intro hnothing
    have hempty := (s.files.found_eq_nil_iff directory).2 hnothing
    rw [Command.run, runCheck, hdir]
    simp only [hempty, Bool.false_eq_true, if_false, if_true]
  · intro hfound
    have hnonempty := mt (s.files.found_eq_nil_iff directory).1 hfound
    refine ⟨?_, ?_⟩
    · intro line hline
      rw [Command.run, runCheck, hdir]
      simp only [hnonempty, hline, Bool.false_eq_true, if_false, if_true, List.nil_append]
      rfl
    · intro o ho
      have hchecks := Batch.forall₂_inOrder o f settings.concurrency
        (s.files.ordered_loadDirectory directory) s.world
      refine ⟨_, _, ?_, accountsFor_reportOf s.files directory o outdated hchecks⟩
      rw [Command.run, runCheck, hdir]
      simp only [hnonempty, ho, Bool.false_eq_true, if_false, if_true, List.nil_append]

/-- A cask whose feed has another checkpoint than an empty one. -/
def staleDefinition : String :=
  "cask 'praat' do\nversion '1'\nsha256 :no_check\nappcast 'https://e/feed', checkpoint: '" ++
    String.ofList (List.replicate 64 '0') ++ "'\nend"

/-- A directory with a cask and a file that is missing, where the feed of the cask is empty. -/
def changedDirectory : Surroundings where
  env _ := none
  settingsFile := .absent
  files :=
    { read := fun path => if path = "casks/a.rb" then .ok staleDefinition else .error .missing
      isDirectory := fun path => path = "casks"
      walk := fun _ => [.file "casks/a.rb", .file "casks/b.toml"] }
  world := World.start [("https://e/feed", [⟨5, .body []⟩])] none
  checkedAt := ""

/-- A feed has changed and a file is missing, so the exit status is 1 even where 2 is asked for. -/
theorem report_of_directory_changed :
    changedDirectory.files.isDirectory "casks" = true ∧
      ∃ report : Report,
        Command.run changedDirectory .standard (.check "casks" (.ofRelease .lion) true true) =
          ⟨1, [(report.toJson "").pretty], []⟩ ∧
        report.failures.length = 1 ∧
        ∃ name recorded latest release,
          (name, .outcome (.changed recorded latest release)) ∈ report.results := by
  have hdirectory : changedDirectory.files.isDirectory "casks" = true := by decide
  have hfound : changedDirectory.files.found "casks" ≠ [] := by
    refine mt List.length_eq_zero_iff.2 ?_
    decide +kernel
  obtain ⟨report, status, hrun, haccounts⟩ :=
    ((report_of_directory changedDirectory .standard "casks" (.ofRelease .lion) true hdirectory).2
      hfound).2 _ rfl
  have hlength : report.failures.length = 1 := by
    rw [haccounts.failures]
    decide +kernel
  have hstatus : status = 1 := haccounts.status_eq_one_iff.2 <| .inl fun hnil => by
    rw [hnil] at hlength
    cases hlength
  refine ⟨hdirectory, report, hstatus ▸ hrun, hlength, ?_⟩
  rw [haccounts.entries, ← any_resultChanged_iff]
  decide +kernel

/-- A directory with a cask, where the user agent is spread over two lines. -/
def brokenAgent : Surroundings :=
  { changedDirectory with
    env := fun name => if name = "CASK_CHECK_USER_AGENT" then some "a\nb" else none }

/-- There is no report of a manifest where the user agent cannot be sent. -/
theorem report_missing :
    brokenAgent.files.isDirectory "casks" = true ∧
      (brokenAgent.files.loadDirectory "casks").1.size = 1 ∧
      execute brokenAgent ["check", "casks", "--release", "lion", "--json"] =
        ⟨1, [], ["error: Failed to build HTTP client: request failed: builder error"]⟩ := by
  decide +kernel

end Command

end CaskAudit
