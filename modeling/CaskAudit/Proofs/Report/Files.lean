import CaskAudit.CommandLine.Run
import CaskAudit.Fetch.Offline
import CaskAudit.Proofs.Report.Entries
import CaskAudit.Proofs.Results

/-!
# Reports of files

Files are verified one after another, and each comes to a result: an outcome, or the reason for
which nothing is verified (`Judges`, `Audits`). The results decide all of the report and the exit
status (`Audit.exists_audits`). An outcome is reported under the token of its cask and a failure
under the path of its file. Paths are given once, and a token is verified once, so two files share
an entry exactly if the path of one that fails is the token of one that is verified; then only the
later of the two is in the report.
-/

namespace CaskAudit.Command

/-! ## Results of files -/

/-- What a file comes to: the outcome for the cask in it, or why nothing has been verified. -/
abbrev FileResult := Except String CheckedCask

/-- Whether nothing has been verified for a file. -/
def FileResult.failed (r : FileResult) : Bool := r.toOption.isNone

/-- Whether the cask in a file has a token. -/
def declares (fs : Files) (f : Facts) (token : Token) (file : String) : Bool :=
  match resolveFile fs f file with
  | .ok cask => cask.token = token
  | .error _ => false

/-- What a file comes to after some earlier ones, in a world that is left as another one: nothing is
verified for a file that has no cask for the host, or one with the token of an earlier file;
otherwise the feed of the cask is verified. -/
inductive Judges (fs : Files) (o : FetchOptions) (f : Facts) (earlier : List String) (w : World)
    (file : String) : FileResult → World → Prop
  | unresolved {message : String} (hfile : resolveFile fs f file = .error message) :
      Judges fs o f earlier w file (.error message) w
  | repeated {cask : ResolvedCask} {first : String} (hfile : resolveFile fs f file = .ok cask)
      (hfirst : earlier.find? (declares fs f cask.token) = some first) :
      Judges fs o f earlier w file (.error (repeatedToken cask.token first)) w
  | verified {cask : ResolvedCask} (hfile : resolveFile fs f file = .ok cask)
      (hnew : earlier.find? (declares fs f cask.token) = none) :
      Judges fs o f earlier w file
        (.ok ⟨cask, (World.run (CaskAudit.verify o cask.appcast) w).1⟩)
        (World.run (CaskAudit.verify o cask.appcast) w).2

/-- What files come to one after another, each in the world that those before it have left. -/
inductive Audits (fs : Files) (o : FetchOptions) (f : Facts) :
    List String → World → List (String × FileResult) → World → Prop
  | nil (earlier : List String) (w : World) : Audits fs o f earlier w [] w
  | cons {earlier : List String} {w w' w'' : World} {file : String} {r : FileResult}
      {results : List (String × FileResult)} (hfile : Judges fs o f earlier w file r w')
      (hrest : Audits fs o f (earlier ++ [file]) w' results w'') :
      Audits fs o f earlier w ((file, r) :: results) w''

/-- The casks that have been verified. -/
def checkedCasks (results : List (String × FileResult)) : List CheckedCask :=
  results.filterMap (·.2.toOption)

/-- The entry of a file: its failure under its path, or the outcome under the token. -/
def fileEntry : String × FileResult → String × ReportEntry
  | (file, .error message) => (file, .error message)
  | (_, .ok c) => (c.cask.token.text, .outcome c.outcome)

variable {fs : Files} {o : FetchOptions} {f : Facts} {earlier files : List String}
  {w w' w'' : World} {file : String} {r : FileResult} {results : List (String × FileResult)}
  {token : Token} {c : CheckedCask} {a : Audit}

/-! ## Tokens are verified once -/

/-- The cask that is verified for a file is the one in it. -/
lemma Judges.resolveFile_eq (h : Judges fs o f earlier w file (.ok c) w') :
    resolveFile fs f file = .ok c.cask := by
  cases h with
  | verified hfile hnew => exact hfile

/-- A cask is verified only if no earlier file has its token. -/
lemma Judges.find?_eq_none (h : Judges fs o f earlier w file (.ok c) w') :
    earlier.find? (declares fs f c.cask.token) = none := by
  cases h with
  | verified hfile hnew => exact hnew

/-- A file has the token of its cask. -/
lemma declares_of_resolveFile {cask : ResolvedCask} (h : resolveFile fs f file = .ok cask) :
    declares fs f cask.token file = true := by
  unfold declares
  rw [h]
  exact decide_eq_true rfl

/-- What is verified is the cask in its file, and no earlier file has its token. -/
lemma Audits.of_mem (h : Audits fs o f earlier w results w') (hmem : (file, .ok c) ∈ results) :
    resolveFile fs f file = .ok c.cask ∧
      earlier.find? (declares fs f c.cask.token) = none := by
  induction h with
  | nil => cases hmem
  | cons hfile hrest ih =>
    rcases List.mem_cons.1 hmem with heq | hmem
    · obtain ⟨rfl, rfl⟩ := Prod.mk.inj heq
      exact ⟨hfile.resolveFile_eq, hfile.find?_eq_none⟩
    · obtain ⟨hresolve, hnone⟩ := ih hmem
      rw [List.find?_append, Option.or_eq_none_iff] at hnone
      exact ⟨hresolve, hnone.1⟩

/-- A token is verified for one file only. -/
lemma Audits.pairwise (h : Audits fs o f earlier w results w') :
    results.Pairwise fun p q => ∀ c, p.2.toOption = some c → ∀ d, q.2.toOption = some d →
      c.cask.token ≠ d.cask.token := by
  induction h with
  | nil => exact List.Pairwise.nil
  | @cons earlier w w' w'' file r results hfile hrest ih =>
    refine List.pairwise_cons.2 ⟨?_, ih⟩
    rintro ⟨later, s⟩ hmem c hr d hs htoken
    obtain rfl : r = .ok c := toOption_eq_some_iff.1 hr
    obtain rfl : s = .ok d := toOption_eq_some_iff.1 hs
    -- The file itself is one of those before the later one, and has the token.
    obtain ⟨-, hnone⟩ := hrest.of_mem hmem
    have hdeclares := declares_of_resolveFile hfile.resolveFile_eq
    rw [htoken] at hdeclares
    refine List.find?_eq_none.1 hnone file ?_ hdeclares
    exact List.mem_append_right _ (List.mem_singleton_self file)

/-- The casks that are verified have pairwise different tokens. -/
lemma Audits.nodup_tokens (h : Audits fs o f earlier w results w') :
    ((checkedCasks results).map (·.cask.token)).Nodup :=
  List.pairwise_map.2 (List.pairwise_filterMap.2 h.pairwise)

/-! ## Shared entries -/

/-- Files that are given once have entries of their own exactly if the path of no file that fails is
the token of a cask that is verified. -/
lemma Audits.nodup_names_iff (h : Audits fs o f earlier w results w')
    (hfiles : (results.map Prod.fst).Nodup) :
    ((results.map fileEntry).map Prod.fst).Nodup ↔
      ∀ file message c, (file, .error message) ∈ results → c ∈ checkedCasks results →
        file ≠ c.cask.token.text := by
  constructor
  · intro hnodup file message c hfailed hc heq
    obtain ⟨⟨other, r⟩, hmem, hr⟩ := List.mem_filterMap.1 hc
    obtain rfl : r = .ok c := toOption_eq_some_iff.1 hr
    rw [List.map_map] at hnodup
    have hsame := List.inj_on_of_nodup_map hnodup hfailed hmem heq
    cases hsame
  · intro hapart
    rw [List.map_map]
    refine List.pairwise_map.2 ?_
    refine ((List.pairwise_map.1 hfiles).and h.pairwise).imp_of_mem ?_
    rintro ⟨file, message | c⟩ ⟨other, message' | d⟩ hp hq ⟨hne, htokens⟩
    · exact hne
    · exact hapart file message d hp (List.mem_filterMap.2 ⟨_, hq, rfl⟩)
    · exact (hapart other message' c hq (List.mem_filterMap.2 ⟨_, hp, rfl⟩)).symm
    · exact fun htext => htokens c rfl d rfl (congrArg Token.mk htext)

/-! ## The audit -/

/-- An audit knows the first file of each token that is in an earlier one. -/
def Audit.Knows (fs : Files) (f : Facts) (earlier : List String) (a : Audit) : Prop :=
  ∀ token, a.seen.lookup token = earlier.find? (declares fs f token)

/-- What one more file adds to an audit. -/
structure Audit.Follows (a b : Audit) (results : List (String × FileResult)) : Prop where
  entries : b.report.results = Report.putAll a.report.results (results.map fileEntry)
  facts : b.report.facts = a.report.facts
  failures : b.report.failures = a.report.failures
  failed : b.failed = (a.failed || results.any (·.2.failed))

/-- A file without a cask is none of those that have a token. -/
lemma Audit.Knows.of_unresolved (h : a.Knows fs f earlier) {message : String}
    (hfile : resolveFile fs f file = .error message) : a.Knows fs f (earlier ++ [file]) := by
  intro token
  have hnone : declares fs f token file = false := by
    rw [declares, hfile]
  rw [h, List.find?_append]
  simp [hnone]

/-- A file with the token of an earlier one is not the first one of it. -/
lemma Audit.Knows.of_repeated (h : a.Knows fs f earlier) {cask : ResolvedCask} {first : String}
    (hfile : resolveFile fs f file = .ok cask)
    (hfirst : earlier.find? (declares fs f cask.token) = some first) :
    a.Knows fs f (earlier ++ [file]) := by
  intro token
  rw [h, List.find?_append]
  by_cases htoken : cask.token = token
  · rw [← htoken, hfirst, Option.some_or]
  · have hnone : declares fs f token file = false := by
      simp [declares, hfile, htoken]
    simp [hnone]

/-- A file with a new token is the first one of it. -/
lemma Audit.Knows.of_verified (h : a.Knows fs f earlier) {cask : ResolvedCask} {outcome : Outcome}
    (hfile : resolveFile fs f file = .ok cask)
    (hnew : earlier.find? (declares fs f cask.token) = none) (w : World) :
    (a.note file ⟨cask, outcome⟩ w).Knows fs f (earlier ++ [file]) := by
  intro token
  have hseen : (a.note file ⟨cask, outcome⟩ w).seen = (cask.token, file) :: a.seen := rfl
  rw [hseen, List.find?_append]
  by_cases htoken : token = cask.token
  · have hself : declares fs f cask.token file = true := declares_of_resolveFile hfile
    rw [htoken, hnew, List.lookup_cons_self]
    simp [hself]
  · have hnone : declares fs f token file = false := by
      simp [declares, hfile, Ne.symm htoken]
    have hne : (token == cask.token) = false := beq_eq_false_iff_ne.2 htoken
    rw [List.lookup_cons, hne, h token]
    simp [hnone]

/-- A file without a cask fails. -/
lemma Audit.file_of_unresolved {message : String} (hfile : resolveFile fs f file = .error message) :
    Audit.file fs o f a file = a.fail file message := by
  rw [Audit.file, hfile]

/-- A file with a token that is known fails. -/
lemma Audit.file_of_repeated {cask : ResolvedCask} {first : String}
    (hfile : resolveFile fs f file = .ok cask) (hseen : a.seen.lookup cask.token = some first) :
    Audit.file fs o f a file = a.fail file (repeatedToken cask.token first) := by
  rw [Audit.file, hfile]
  dsimp only
  rw [hseen]

/-- The feed of a file with a new token is verified. -/
lemma Audit.file_of_verified {cask : ResolvedCask} (hfile : resolveFile fs f file = .ok cask)
    (hseen : a.seen.lookup cask.token = none) :
    Audit.file fs o f a file =
      a.note file ⟨cask, (World.run (CaskAudit.verify o cask.appcast) a.world).1⟩
        (World.run (CaskAudit.verify o cask.appcast) a.world).2 := by
  rw [Audit.file, hfile]
  dsimp only
  rw [hseen]

/-- A failure of a file is followed. -/
lemma Audit.follows_fail (a : Audit) (file message : String) :
    a.Follows (a.fail file message) [(file, .error message)] :=
  ⟨rfl, rfl, rfl, (Bool.or_true a.failed).symm⟩

/-- An outcome of a file is followed. -/
lemma Audit.follows_note (a : Audit) (file : String) (c : CheckedCask) (w : World) :
    a.Follows (a.note file c w) [(file, .ok c)] :=
  ⟨rfl, rfl, rfl, (Bool.or_false a.failed).symm⟩

/-- One more file comes to a result, and the audit follows it. -/
lemma Audit.exists_judges (o : FetchOptions) (h : a.Knows fs f earlier) (file : String) :
    ∃ r, Judges fs o f earlier a.world file r (Audit.file fs o f a file).world ∧
      (Audit.file fs o f a file).Knows fs f (earlier ++ [file]) ∧
      a.Follows (Audit.file fs o f a file) [(file, r)] := by
  cases hfile : resolveFile fs f file with
  | error message =>
    rw [Audit.file_of_unresolved hfile]
    exact ⟨_, .unresolved hfile, h.of_unresolved hfile, a.follows_fail file message⟩
  | ok cask =>
    have hlookup := h cask.token
    cases hseen : a.seen.lookup cask.token with
    | some first =>
      rw [hseen] at hlookup
      rw [Audit.file_of_repeated hfile hseen]
      exact ⟨_, .repeated hfile hlookup.symm, h.of_repeated hfile hlookup.symm,
        a.follows_fail file _⟩
    | none =>
      rw [hseen] at hlookup
      rw [Audit.file_of_verified hfile hseen]
      exact ⟨_, .verified hfile hlookup.symm, h.of_verified hfile hlookup.symm _,
        a.follows_note file _ _⟩

/-- Two audits one after the other add what each of them does. -/
lemma Audit.Follows.trans {b d : Audit} {more : List (String × FileResult)}
    (h : a.Follows b results) (h' : b.Follows d more) : a.Follows d (results ++ more) where
  entries := by
    rw [h'.entries, h.entries, List.map_append]
    exact List.foldl_append.symm
  facts := h'.facts.trans h.facts
  failures := h'.failures.trans h.failures
  failed := by rw [h'.failed, h.failed, List.any_append, Bool.or_assoc]

/-- Files come to results one after another, and the audit follows them. -/
lemma Audit.exists_audits (o : FetchOptions) (h : a.Knows fs f earlier) (files : List String) :
    ∃ results w', Audits fs o f earlier a.world results w' ∧ results.map Prod.fst = files ∧
      a.Follows (files.foldl (Audit.file fs o f) a) results := by
  induction files generalizing a earlier with
  | nil => exact ⟨[], a.world, .nil _ _, rfl, rfl, rfl, rfl, (Bool.or_false a.failed).symm⟩
  | cons file files ih =>
    obtain ⟨r, hjudges, hknows, hfollows⟩ := Audit.exists_judges o h file
    obtain ⟨results, w', haudits, hpaths, hrest⟩ := ih hknows
    exact ⟨(file, r) :: results, w', .cons hjudges haudits, congrArg (file :: ·) hpaths,
      hfollows.trans hrest⟩

/-- Files that are given once come to one result each, an outcome where the cask of a file is
verified and a reason where it cannot be, or not again. No token is verified twice, and the exit
status is 1 exactly if some file fails. The report has one entry for each name, in the order of the
names, which is the one of the last file that comes to an entry of this name. It has the entries of
all files exactly if the path of no file that fails is the token of a cask that is verified. Without
a user agent that can be sent there is no report. -/
theorem report_of_files (s : Surroundings) (settings : Settings) (files : List String)
    (hfiles : files.Nodup) (f : Facts) :
    (∀ line, settings.requestOptions = .error line →
      Command.run s settings (.verify files f true) = .failure line) ∧
    ∀ o, settings.requestOptions = .ok o →
      ∃ results w, ∃ report : Report,
        Audits s.files o f [] s.world results w ∧ results.map Prod.fst = files ∧
        ((checkedCasks results).map (·.cask.token)).Nodup ∧
        Command.run s settings (.verify files f true) =
          ⟨if results.any (·.2.failed) then 1 else 0, [(report.toJson s.checkedAt).pretty], []⟩ ∧
        report.facts = f ∧ report.failures = [] ∧
        report.results.Pairwise (·.1 < ·.1) ∧
        (∀ name, report.results.lookup name = (results.map fileEntry).reverse.lookup name) ∧
        (report.results.Perm (results.map fileEntry) ↔
          ∀ file message c, (file, .error message) ∈ results → c ∈ checkedCasks results →
            file ≠ c.cask.token.text) := by
  refine ⟨?_, ?_⟩
  · intro line hline
    rw [Command.run, runVerify, hline]
  · intro o ho
    let start : Audit := ⟨s.world, [], .empty f, [], [], false⟩
    have hknows : start.Knows s.files f [] := fun _ => rfl
    obtain ⟨results, w, haudits, hpaths, hfollows⟩ := Audit.exists_audits o hknows files
    have hentries : (files.foldl (Audit.file s.files o f) start).report.results =
        Report.putAll [] (results.map fileEntry) := hfollows.entries
    have hfailed : (files.foldl (Audit.file s.files o f) start).failed =
        results.any (·.2.failed) := hfollows.failed
    refine ⟨results, w, (files.foldl (Audit.file s.files o f) start).report, haudits, hpaths,
      haudits.nodup_tokens, ?_, hfollows.facts, hfollows.failures, ?_, ?_, ?_⟩
    · rw [Command.run, runVerify, ho]
      dsimp only
      rw [hfailed, exitStatus]
      rfl
    · rw [hentries]
      exact Report.sorted_putAll _
    · intro name
      rw [hentries, Report.lookup_putAll_nil]
    · rw [hentries, Report.perm_putAll_iff]
      exact haudits.nodup_names_iff (hpaths ▸ hfiles)

/-- A definition of a cask with a token. -/
def definitionOf (token : String) : String :=
  "cask '" ++ token ++ "' do\nversion '1'\nsha256 :no_check\nend"

/-- Two files with casks of the same token, and paths that lead nowhere. -/
def repeatedFiles : Files where
  read path := if path = "a.rb" ∨ path = "b.rb" then .ok (definitionOf "Praat") else .error .missing
  isDirectory _ := false
  walk _ := []

/-- Files with casks of the same token, and one whose token is the path of the second of them. -/
def clashingFiles : Files where
  read path := .ok (definitionOf (if path = "c.rb" then "b.rb" else "praat"))
  isDirectory _ := false
  walk _ := []

/-- Surroundings with nothing but files. -/
def surroundingsWith (fs : Files) : Surroundings := ⟨fun _ => none, .absent, fs, .offline, ""⟩

/-- A token that is repeated and a file that is missing are reported next to an outcome. -/
theorem report_of_files_repeated :
    ["a.rb", "b.rb", "c.rb"].Nodup ∧
      ∃ report : Report,
        (Command.run (surroundingsWith repeatedFiles) .standard
          (.verify ["a.rb", "b.rb", "c.rb"] (.ofRelease .lion) true)).stdout =
            [(report.toJson "").pretty] ∧
        report.results.length = 3 := by
  have hfiles : ["a.rb", "b.rb", "c.rb"].Nodup := by decide
  have htokens : ∀ file ∈ ["a.rb", "b.rb", "c.rb"], ∀ cask,
      resolveFile repeatedFiles (.ofRelease .lion) file = .ok cask → cask.token.text = "praat" := by
    have hall : ["a.rb", "b.rb", "c.rb"].all (fun file =>
        match resolveFile repeatedFiles (.ofRelease .lion) file with
        | .ok cask => cask.token.text = "praat"
        | .error _ => true) = true := by
      decide +kernel
    intro file hfile cask hcask
    have hone := List.all_eq_true.1 hall file hfile
    rw [hcask] at hone
    exact of_decide_eq_true hone
  obtain ⟨results, w, report, haudits, hpaths, -, hrun, -, -, -, -, hperm⟩ :=
    (report_of_files (surroundingsWith repeatedFiles) .standard _ hfiles (.ofRelease .lion)).2 _ rfl
  refine ⟨hfiles, report, congrArg Execution.stdout hrun, ?_⟩
  have hlength : (results.map fileEntry).length = 3 := by
    rw [List.length_map, ← List.length_map (f := Prod.fst), hpaths]
    rfl
  rw [← hlength]
  refine (hperm.2 ?_).length_eq
  intro file message c hfailed hc
  have hfile : file ∈ ["a.rb", "b.rb", "c.rb"] := hpaths ▸ List.mem_map_of_mem hfailed
  obtain ⟨⟨other, r⟩, hmem, hr⟩ := List.mem_filterMap.1 hc
  obtain rfl : r = .ok c := toOption_eq_some_iff.1 hr
  have hother : other ∈ ["a.rb", "b.rb", "c.rb"] := hpaths ▸ List.mem_map_of_mem hmem
  rw [htokens other hother c.cask (haudits.of_mem hmem).1]
  rintro rfl
  simp at hfile

/-- The failure of a file is not in the report where its path is the token of a later one. -/
theorem failure_overwritten :
    ["a.rb", "b.rb", "c.rb"].Nodup ∧
      Command.run (surroundingsWith clashingFiles) .standard
          (.verify ["a.rb", "b.rb", "c.rb"] (.ofRelease .lion) true) =
        ⟨1, [((⟨.ofRelease .lion, [("b.rb", .outcome .notApplicable),
          ("praat", .outcome .notApplicable)], []⟩ : Report).toJson "").pretty], []⟩ := by
  decide +kernel

end CaskAudit.Command
