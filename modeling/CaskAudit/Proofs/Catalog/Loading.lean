import CaskAudit.Proofs.Catalog.Histories
import CaskAudit.Proofs.Manifest.Construction
import CaskAudit.Proofs.Source.Lines

/-!
# Catalogs of directories

A directory is loaded as if the manifests in its files were added one after another in the order of
the walk (`loadSteps_afterAdding`). Every file with the extension of a manifest, and every place
where the walk cannot go on, becomes either one entry of the catalog or one failure: `fates` says
which.
-/

namespace CaskAudit

/-! ## Results -/

section Results

variable {ε α : Type}

/-- The values among results. -/
def loaded (rs : List (Except ε α)) : List α := rs.filterMap Except.toOption

/-- The errors among results. -/
def failed (rs : List (Except ε α)) : List ε :=
  rs.filterMap fun
    | .error e => some e
    | .ok _ => none

@[simp] lemma loaded_nil : loaded ([] : List (Except ε α)) = [] := rfl

@[simp] lemma loaded_ok_cons (a : α) (rs : List (Except ε α)) :
    loaded (.ok a :: rs) = a :: loaded rs := rfl

@[simp] lemma loaded_error_cons (e : ε) (rs : List (Except ε α)) :
    loaded (.error e :: rs) = loaded rs := rfl

@[simp] lemma failed_nil : failed ([] : List (Except ε α)) = [] := rfl

@[simp] lemma failed_ok_cons (a : α) (rs : List (Except ε α)) :
    failed (.ok a :: rs) = failed rs := rfl

@[simp] lemma failed_error_cons (e : ε) (rs : List (Except ε α)) :
    failed (.error e :: rs) = e :: failed rs := rfl

/-- A result is either a value or an error. -/
lemma length_loaded_add_length_failed (rs : List (Except ε α)) :
    (loaded rs).length + (failed rs).length = rs.length := by
  induction rs with
  | nil => rfl
  | cons r rs ih =>
    cases r with
    | error e =>
      rw [loaded_error_cons, failed_error_cons, List.length_cons, List.length_cons, ← ih]
      omega
    | ok a =>
      rw [loaded_ok_cons, failed_ok_cons, List.length_cons, List.length_cons, ← ih]
      omega

end Results

/-! ## The tokens of manifests -/

/-- The token of a manifest is one that a text writes. -/
lemma Manifest.isWritten_of_build {text : String} {outer : Declarations} {clauses : List Clause}
    {m : Manifest} (h : (build text outer clauses).mapError SourceError.manifest = .ok m) :
    m.token.IsWritten := by
  cases hbuild : build text outer clauses with
  | error e =>
    rw [hbuild] at h
    cases h
  | ok m' =>
    rw [hbuild] at h
    obtain rfl := Except.ok.inj h
    exact ⟨text, congrArg Manifest.token (build_eq_ok_iff.1 hbuild).2⟩

/-- A manifest that is read in either format has a token that a text writes. -/
lemma SourceFormat.isWritten_of_parse {format : SourceFormat} {src : String} {m : Manifest}
    (h : format.parse src = .ok m) : m.token.IsWritten := by
  cases format with
  | definition =>
    obtain ⟨ls, -, h⟩ := bind_eq_ok h
    obtain ⟨⟨token, body⟩, -, h⟩ := bind_eq_ok h
    obtain ⟨s, -, h⟩ := bind_eq_ok h
    obtain ⟨⟨outer, clauses⟩, -, h⟩ := bind_eq_ok h
    exact Manifest.isWritten_of_build h
  | document =>
    rw [SourceFormat.parse, Document.parse] at h
    split at h
    · cases h
    · obtain ⟨-, -, h⟩ := bind_eq_ok h
      split at h
      · cases h
      · obtain ⟨fields, -, h⟩ := bind_eq_ok h
        obtain ⟨outer, -, h⟩ := bind_eq_ok h
        obtain ⟨clauses, -, h⟩ := bind_eq_ok h
        exact Manifest.isWritten_of_build h

namespace Files

variable {fs : Files} {m : Manifest}

/-- A manifest that is loaded has a token that a text writes. -/
lemma isWritten_of_loadManifest {path : String} (h : fs.loadManifest path = .ok m) :
    m.token.IsWritten := by
  rw [loadManifest] at h
  split at h
  · cases h
  · split at h
    · cases h
    · exact SourceFormat.isWritten_of_parse h

end Files

/-! ## The steps of a walk -/

/-- Whether a step of a walk is a file with the extension of a manifest, or a place where the walk
cannot go on. -/
def WalkStep.counts : WalkStep → Bool
  | .fault _ _ => true
  | .file path => pathExtension? path = some "rb" || pathExtension? path = some "toml"

/-- A file has a format exactly if its extension is that of a manifest. -/
lemma SourceFormat.isNone_ofPath? (path : String) :
    (ofPath? path).isNone = !(WalkStep.file path).counts := by
  rw [ofPath?, WalkStep.counts]
  split
  · next h => simp [h]
  · next h => simp [h]
  · next hrb htoml =>
    have hrb' : pathExtension? path ≠ some "rb" := hrb
    have htoml' : pathExtension? path ≠ some "toml" := htoml
    simp [hrb', htoml']

namespace Files

/-- What comes of a step that counts: the manifest in the file, or why there is none. -/
def outcome? (fs : Files) : WalkStep → Option (Except CatalogError Manifest)
  | .fault root cause => some (.error (.walk root cause))
  | .file path =>
    if (WalkStep.file path).counts then some ((fs.loadManifest path).mapError (.source path))
    else none

/-- Every step that counts has an outcome, and no other. -/
lemma length_filterMap_outcome? (fs : Files) (steps : List WalkStep) :
    (steps.filterMap fs.outcome?).length = steps.countP WalkStep.counts := by
  rw [List.length_filterMap_eq_countP]
  congr 1
  funext step
  cases step with
  | fault root cause => rfl
  | file path =>
    rw [outcome?]
    split
    · next h => exact h.symm
    · next h => exact (Bool.eq_false_iff.2 h).symm

/-- A step adds the manifest that comes of it, if one does. -/
lemma loadStep_eq (fs : Files) (c : Catalog) (step : WalkStep) :
    fs.loadStep c step =
      match fs.outcome? step with
      | none => (c, [])
      | some (.error e) => (c, [e])
      | some (.ok m) => ((c.add m).1, (c.add m).2.toList) := by
  cases step with
  | fault root cause => rfl
  | file path =>
    rw [loadStep, SourceFormat.isNone_ofPath?, outcome?]
    cases (WalkStep.file path).counts with
    | false => rfl
    | true =>
      cases fs.loadManifest path with
      | error e => rfl
      | ok m =>
        simp only [Bool.not_true, Bool.false_eq_true, if_false, if_true, Except.mapError,
          Catalog.add]
        cases c.insert? m <;> rfl

end Files

namespace Catalog

/-! ## Fates -/

/-- What becomes of results when the manifests among them are added after earlier ones: one whose
token came before is a failure. -/
def fates (earlier : List Manifest) :
    List (Except CatalogError Manifest) → List (Except CatalogError Manifest)
  | [] => []
  | .error e :: rs => .error e :: fates earlier rs
  | .ok m :: rs =>
    (if ∃ n ∈ earlier, n.token = m.token then .error (.duplicateToken m.token) else .ok m) ::
      fates (earlier ++ [m]) rs

/-- Every result has a fate. -/
lemma length_fates (ms : List Manifest) (rs : List (Except CatalogError Manifest)) :
    (fates ms rs).length = rs.length := by
  induction rs generalizing ms with
  | nil => rfl
  | cons r rs ih =>
    cases r with
    | error e => exact congrArg (· + 1) (ih ms)
    | ok m => exact congrArg (· + 1) (ih _)

/-- The catalog gains the manifests whose fate is to be entries. -/
lemma perm_afterAdding (ms : List Manifest) (rs : List (Except CatalogError Manifest)) :
    (afterAdding (ms ++ loaded rs)).manifests.Perm
      ((afterAdding ms).manifests ++ loaded (fates ms rs)) := by
  -- A manifest that is refused is still an earlier one for the results after it.
  induction rs generalizing ms with
  | nil => simp [fates]
  | cons r rs ih =>
    cases r with
    | error e => exact ih ms
    | ok m =>
      rw [loaded_ok_cons, List.append_cons, fates]
      refine (ih (ms ++ [m])).trans ?_
      rw [afterAdding_append_singleton]
      split
      · next hm =>
        rw [(holdsFirst_afterAdding ms).add_of_mem hm, loaded_error_cons]
      · next hm =>
        rw [(holdsFirst_afterAdding ms).add_of_not_mem hm, loaded_ok_cons]
        exact ((perm_place m _).append_right _).trans List.perm_middle.symm

/-- The steps of a walk add the manifests that come of them, and the failures are told in order. -/
lemma loadSteps_afterAdding (fs : Files) (ms : List Manifest) (steps : List WalkStep) :
    fs.loadSteps (afterAdding ms) steps =
      (afterAdding (ms ++ loaded (steps.filterMap fs.outcome?)),
        failed (fates ms (steps.filterMap fs.outcome?))) := by
  induction steps generalizing ms with
  | nil => simp [Files.loadSteps, fates]
  | cons step steps ih =>
    rw [Files.loadSteps, Files.loadStep_eq]
    cases hstep : fs.outcome? step with
    | none => simpa [hstep] using ih ms
    | some r =>
      rw [List.filterMap_cons_some hstep]
      cases r with
      | error e =>
        simp only [ih, fates, loaded_error_cons, failed_error_cons, List.singleton_append]
      | ok m =>
        rw [loaded_ok_cons, List.append_cons, fates]
        simp only [← afterAdding_append_singleton, ih]
        split
        · next hm =>
          rw [(holdsFirst_afterAdding ms).add_of_mem hm]
          rfl
        · next hm =>
          rw [(holdsFirst_afterAdding ms).add_of_not_mem hm]
          rfl

/-- The manifests of loaded files have tokens that texts write. -/
lemma isWritten_of_mem_loaded {fs : Files} {steps : List WalkStep} {m : Manifest}
    (h : m ∈ loaded (steps.filterMap fs.outcome?)) : m.token.IsWritten := by
  obtain ⟨r, hr, hm⟩ := List.mem_filterMap.1 h
  obtain ⟨step, -, hstep⟩ := List.mem_filterMap.1 hr
  cases step with
  | fault root cause =>
    cases hstep
    cases hm
  | file path =>
    rw [Files.outcome?] at hstep
    split at hstep
    · cases hload : fs.loadManifest path with
      | error e =>
        rw [hload] at hstep
        cases hstep
        cases hm
      | ok m' =>
        rw [hload] at hstep
        cases hstep
        cases hm
        exact Files.isWritten_of_loadManifest hload
    · cases hstep

/-- After any additions, the catalog holds the first manifest of each token, in the order of the
tokens, and every spelling of the token finds it. One more addition fails exactly if the token came
before; then the catalog stays as it was. Collecting the manifests gives the same catalog. A
directory is loaded as if the manifests in its files were added in the order of the walk, so the
first file of a token that can be loaded gives the entry: each file with the extension of a
manifest, and each place where the walk cannot go on, becomes either one entry or one failure. -/
theorem first_of_each_token :
    (∀ ms : List Manifest,
      HoldsFirst ms (afterAdding ms) ∧ Findable (afterAdding ms) ∧
      collect ms = afterAdding ms ∧
      ∀ m, ((∃ n ∈ ms, n.token = m.token) →
          (afterAdding ms).add m = (afterAdding ms, some (.duplicateToken m.token))) ∧
        ((∀ n ∈ ms, n.token ≠ m.token) →
          (afterAdding ms).add m = (afterAdding (ms ++ [m]), none))) ∧
    ∀ (fs : Files) (root : String),
      let results := (fs.walk root).filterMap fs.outcome?
      let c := (fs.loadDirectory root).1
      let failures := (fs.loadDirectory root).2
      c = afterAdding (loaded results) ∧ HoldsFirst (loaded results) c ∧
      c.manifests.Perm (loaded (fates [] results)) ∧
      failures = failed (fates [] results) ∧
      c.size + failures.length = (fs.walk root).countP WalkStep.counts ∧
      ∀ m ∈ c.manifests, m.token.IsWritten := by
  constructor
  · intro ms
    have hfirst := holdsFirst_afterAdding ms
    refine ⟨hfirst, hfirst.ordered.findable, collect_eq_afterAdding ms, fun m => ⟨?_, ?_⟩⟩
    · exact hfirst.add_of_mem
    · intro hm
      have hnew : ¬∃ n ∈ ms, n.token = m.token := by
        rintro ⟨n, hn, htoken⟩
        exact hm n hn htoken
      rw [afterAdding_append_singleton, hfirst.add_of_not_mem hnew]
  · intro fs root results c failures
    have hload : fs.loadDirectory root =
        (afterAdding (loaded results), failed (fates [] results)) :=
      loadSteps_afterAdding fs [] (fs.walk root)
    have hc : c = afterAdding (loaded results) := congrArg Prod.fst hload
    have hfailures : failures = failed (fates [] results) := congrArg Prod.snd hload
    have hperm : c.manifests.Perm (loaded (fates [] results)) := by
      rw [hc]
      exact perm_afterAdding [] results
    have hfirst : HoldsFirst (loaded results) c := hc ▸ holdsFirst_afterAdding (loaded results)
    refine ⟨hc, hfirst, hperm, hfailures, ?_, ?_⟩
    · calc c.size + failures.length
          = (loaded (fates [] results)).length + (failed (fates [] results)).length := by
            rw [size, hperm.length_eq, hfailures]
        _ = results.length := by rw [length_loaded_add_length_failed, length_fates]
        _ = (fs.walk root).countP WalkStep.counts := Files.length_filterMap_outcome? fs _
    · intro m hm
      exact isWritten_of_mem_loaded (List.mem_of_find?_eq_some ((hfirst.mem_iff m).1 hm))

/-- Two manifests of one token around another one, and a directory in which a file has the same
token as an earlier one, a file cannot be read, and a file has another extension. -/
theorem first_of_each_token_praat :
    let praat : Manifest := ⟨.ofText " Praat", .empty, []⟩
    let later : Manifest := ⟨.ofText "praat", { Declarations.empty with app := some "P" }, []⟩
    let arq : Manifest := ⟨.ofText "arq", .empty, []⟩
    let fs : Files :=
      { read := fun path =>
          if path = "b.toml" then .error .missing
          else .ok "cask 'Praat' do\nversion '1'\nsha256 :no_check\nend"
        isDirectory := fun _ => false
        walk := fun root => [.file "a.rb", .file "b.toml", .file "c.txt", .file "d.rb",
          .fault root "loop"] }
    (afterAdding [praat, arq]).add later =
      (afterAdding [praat, arq], some (.duplicateToken ⟨"praat"⟩)) ∧
    (afterAdding [praat, arq, later]).get? "\tPRAAT " = some praat ∧
    (fs.loadDirectory "casks").1.size = 1 ∧
    (fs.loadDirectory "casks").1.size + (fs.loadDirectory "casks").2.length = 4 := by
  intro praat later arq fs
  have hsame : praat.token = later.token := by decide +kernel
  have hadd := ((first_of_each_token.1 [praat, arq]).2.2.2 later).1 ⟨praat, by simp, hsame⟩
  obtain ⟨hfirst, hfind, -, -⟩ := first_of_each_token.1 [praat, arq, later]
  have hpraat : praat ∈ (afterAdding [praat, arq, later]).manifests := by
    rw [hfirst.mem_iff]
    simp
  have hdirectory := (first_of_each_token.2 fs "casks").2.2.2.2.1
  refine ⟨hadd, ?_, by decide +kernel, hdirectory⟩
  exact hfind.get?_spelling praat hpraat ⟨_, rfl⟩ ['\t'] "PRAAT".toList [' '] (by decide)
    (by decide) (by decide +kernel)

end Catalog

end CaskAudit
