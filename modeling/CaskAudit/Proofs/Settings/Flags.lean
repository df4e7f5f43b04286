import CaskAudit.CommandLine.Run
import CaskAudit.Fetch.Offline
import CaskAudit.Proofs.Settings.Layers

/-!
# Flags over settings

Flags are a layer of their own above the settings that are loaded. The arguments alone tell which
flags are given (`parse_eq_map`), and they win over what the variables and the file say, with one
exception: the variable `GITHUB_TOKEN` stands in for the flag that tells the token, so that it also
wins over `CASK_CHECK_GITHUB_TOKEN`, which it gives way to where settings are loaded
(`settings_by_flags`).
-/

namespace CaskAudit

/-- No variable is set. -/
def noVariables : Environment := fun _ => none

/-- Options for the network, where a variable stands in for a token that they do not tell. -/
def NetworkOptions.withVariable (n : NetworkOptions) (value : Option String) :
    NetworkOptions :=
  { n with githubToken := n.githubToken.or value }

/-- An invocation, where a variable stands in for a token that it does not tell. -/
def Invocation.withVariable (i : Invocation) (value : Option String) : Invocation :=
  { i with network := i.network.withVariable value }

/-- The settings of a run: what a flag says, or else what has been loaded, where the variable
`GITHUB_TOKEN` counts as a flag. -/
def NetworkOptions.above (flags : NetworkOptions) (env : Environment) (loaded : Settings) :
    Settings where
  timeoutSecs := flags.timeout.getD loaded.timeoutSecs
  retry :=
    { maxAttempts := flags.retries.getD loaded.retry.maxAttempts
      initialBackoffMs := loaded.retry.initialBackoffMs
      maxBackoffMs := loaded.retry.maxBackoffMs }
  concurrency := flags.concurrency.getD loaded.concurrency
  userAgent := loaded.userAgent
  githubToken := (flags.githubToken.or (env "GITHUB_TOKEN")).or loaded.githubToken

variable {env : Environment} {args : List String} {file : SettingsFile} {loaded : Settings}

/-- Where no option tells the token, a variable does. -/
lemma ofOptions_eq_withVariable (env : Environment) (before after : Options) :
    NetworkOptions.ofOptions env before after =
      (NetworkOptions.ofOptions noVariables before after).withVariable (env "GITHUB_TOKEN") := by
  unfold NetworkOptions.ofOptions NetworkOptions.withVariable noVariables
  simp only [Option.or_none]

namespace Invocation

/-- The arguments of a command tell all that it asks for, but for the token. -/
lemma ofCommand_eq_map (env : Environment) (before : Options) (name : String)
    (args : List String) :
    ofCommand env before name args =
      (ofCommand noVariables before name args).map (·.withVariable (env "GITHUB_TOKEN")) := by
  unfold ofCommand
  split
  · rfl
  · split
    · rfl
    · split
      · rfl
      · split
        · rw [ofOptions_eq_withVariable]
          rfl
        · rfl

/-- The arguments tell all that is asked for, but for the token. -/
lemma parse_eq_map (env : Environment) (args : List String) :
    parse env args = (parse noVariables args).map (·.withVariable (env "GITHUB_TOKEN")) := by
  unfold parse
  split
  · rfl
  · exact ofCommand_eq_map env _ _ _
  · rfl

end Invocation

/-- A variable that stands in for a flag is applied with the flags. -/
lemma apply_withVariable (flags : NetworkOptions) (env : Environment) (loaded : Settings) :
    (flags.withVariable (env "GITHUB_TOKEN")).apply loaded = flags.above env loaded := rfl

/-- The token that is loaded is that of `CASK_CHECK_GITHUB_TOKEN`, or else that of `GITHUB_TOKEN`,
or else another one. -/
lemma exists_githubToken_of_load (h : Settings.load file env = .ok loaded) :
    ∃ other, loaded.githubToken =
      ((env "CASK_CHECK_GITHUB_TOKEN").or (env "GITHUB_TOKEN")).or other := by
  obtain ⟨l, v, -, hv, rfl, -⟩ := Settings.exists_layers_of_load h
  rw [Settings.settings_above, hv.githubToken]
  exact ⟨l.settings.githubToken, rfl⟩

/-- The token of a run is that of the flag, or else the one that is loaded, exactly if the flag is
given, one of the two variables is not set, or both are set to the same token. -/
lemma githubToken_above_eq_iff (h : Settings.load file env = .ok loaded) (flags : NetworkOptions) :
    (flags.above env loaded).githubToken = flags.githubToken.or loaded.githubToken ↔
      flags.githubToken.isSome ∨ env "GITHUB_TOKEN" = none ∨
        env "CASK_CHECK_GITHUB_TOKEN" = none ∨
        env "CASK_CHECK_GITHUB_TOKEN" = env "GITHUB_TOKEN" := by
  obtain ⟨other, hother⟩ := exists_githubToken_of_load h
  unfold NetworkOptions.above
  rw [hother]
  cases flags.githubToken <;> cases env "GITHUB_TOKEN" <;> cases env "CASK_CHECK_GITHUB_TOKEN" <;>
    simp [eq_comm]

/-- An invocation has the settings that flags leave of loaded ones, unless nothing would be waited
for with them. -/
lemma Invocation.settings_withVariable {s : Surroundings} (flags : NetworkOptions)
    (command : Command) (h : Settings.load s.settingsFile s.env = .ok loaded) :
    ((⟨flags, command⟩ : Invocation).withVariable (s.env "GITHUB_TOKEN")).settings s =
      if (flags.above s.env loaded).timeoutSecs = 0 then
        .error (errorChain "Invalid configuration" SettingsError.zeroTimeout.message [])
      else .ok (flags.above s.env loaded) := by
  unfold settings withVariable
  by_cases h0 : (flags.above s.env loaded).timeoutSecs = 0
  · have hrefused : (flags.above s.env loaded).validate = .error .zeroTimeout := if_pos h0
    simp only [h, apply_withVariable, hrefused, if_pos h0]
    rfl
  · have hvalid : (flags.above s.env loaded).validate = .ok () := if_neg h0
    simp only [h, apply_withVariable, hvalid, if_neg h0]

/-- The settings of a run are what the flags say, or else what is loaded; without settings there is
no run, and neither is there one with a timeout of zero. The token keeps to this order exactly if
its flag is given, one of the two variables for it is not set, or both are set to the same token:
the variable `GITHUB_TOKEN` counts as the flag. -/
theorem settings_by_flags (s : Surroundings) (args : List String) {flags : NetworkOptions}
    {command : Command} (h : Invocation.parse noVariables args = .ok ⟨flags, command⟩) :
    ∃ i, Invocation.parse s.env args = .ok i ∧ i.command = command ∧ execute s args = i.run s ∧
      (∀ e, Settings.load s.settingsFile s.env = .error e →
        i.settings s = .error (errorChain "Failed to load configuration" e.message e.causes)) ∧
      ∀ loaded, Settings.load s.settingsFile s.env = .ok loaded →
        ((flags.above s.env loaded).timeoutSecs = 0 →
          i.settings s = .error (errorChain "Invalid configuration"
            SettingsError.zeroTimeout.message [])) ∧
        (1 ≤ (flags.above s.env loaded).timeoutSecs →
          i.settings s = .ok (flags.above s.env loaded)) ∧
        ((flags.above s.env loaded).githubToken = flags.githubToken.or loaded.githubToken ↔
          flags.githubToken.isSome ∨ s.env "GITHUB_TOKEN" = none ∨
            s.env "CASK_CHECK_GITHUB_TOKEN" = none ∨
            s.env "CASK_CHECK_GITHUB_TOKEN" = s.env "GITHUB_TOKEN") := by
  have hparse : Invocation.parse s.env args =
      .ok ((⟨flags, command⟩ : Invocation).withVariable (s.env "GITHUB_TOKEN")) := by
    rw [Invocation.parse_eq_map, h]
    rfl
  refine ⟨_, hparse, rfl, ?_, fun e he => ?_,
    fun loaded hloaded => ⟨fun h0 => ?_, fun h1 => ?_, ?_⟩⟩
  · unfold execute
    rw [hparse]
  · unfold Invocation.settings
    rw [he]
  · rw [Invocation.settings_withVariable flags command hloaded, if_pos h0]
  · rw [Invocation.settings_withVariable flags command hloaded,
      if_neg (Nat.one_le_iff_ne_zero.1 h1)]
  · exact githubToken_above_eq_iff hloaded flags

/-- Surroundings without files and without a network, in which variables tell two tokens, of which
one is spread over two lines. -/
def twoTokens : Surroundings where
  env name :=
    match name with
    | "CASK_CHECK_GITHUB_TOKEN" => some "t"
    | "GITHUB_TOKEN" => some "a\nb"
    | _ => none
  settingsFile := .contents "config.toml" "timeout_secs = 4\nconcurrency = 2\n"
  files := ⟨fun _ => .error .missing, fun _ => false, fun _ => []⟩
  world := .offline
  checkedAt := ""

/-- Flags win over the file, and a token that a flag tells over both variables. -/
theorem settings_by_flags_told :
    Invocation.parse noVariables
        ["--timeout", "7", "resolve", "a.rb", "--release", "lion", "--github-token", "u"] =
      .ok ⟨⟨some 7, none, none, some "u"⟩, .resolve "a.rb" ⟨.lion, .intel, .bits64⟩ false⟩ ∧
    Settings.load twoTokens.settingsFile twoTokens.env =
      .ok ⟨4, .standard, 2, "cask-check/0.1.0", some "t"⟩ ∧
    ∃ i, Invocation.parse twoTokens.env
        ["--timeout", "7", "resolve", "a.rb", "--release", "lion", "--github-token", "u"] = .ok i ∧
      i.settings twoTokens = .ok ⟨7, .standard, 2, "cask-check/0.1.0", some "u"⟩ := by
  have hparse : Invocation.parse noVariables
        ["--timeout", "7", "resolve", "a.rb", "--release", "lion", "--github-token", "u"] =
      .ok ⟨⟨some 7, none, none, some "u"⟩, .resolve "a.rb" ⟨.lion, .intel, .bits64⟩ false⟩ := by
    rfl
  have hload : Settings.load twoTokens.settingsFile twoTokens.env =
      .ok ⟨4, .standard, 2, "cask-check/0.1.0", some "t"⟩ := by
    decide +kernel
  obtain ⟨i, hi, -, -, -, hsettings⟩ := settings_by_flags twoTokens _ hparse
  exact ⟨hparse, hload, i, hi, (hsettings _ hload).2.1 (by decide)⟩

/-- Where the releases of a repository are listed. -/
def releasesUrl : String := "https://api.github.com/repos/o/r/releases"

/-- The token of `GITHUB_TOKEN` is told although the one of `CASK_CHECK_GITHUB_TOKEN` is loaded: no
request can be made with it, and with the other one a request would be made. -/
theorem token_passed_over :
    (Settings.load twoTokens.settingsFile twoTokens.env).toOption.map (·.githubToken) =
      some (some "t") ∧
    ((Invocation.parse twoTokens.env ["appcast", releasesUrl, "--retries", "1"]).toOption.bind
      fun i => (i.settings twoTokens).toOption.map (·.githubToken)) = some (some "a\nb") ∧
    execute twoTokens ["appcast", releasesUrl, "--retries", "1"] =
      ⟨1, [], ["error: Failed to read " ++ releasesUrl ++ ": request failed: builder error"]⟩ ∧
    execute twoTokens ["appcast", releasesUrl, "--retries", "1", "--github-token", "t"] =
      ⟨1, [], ["error: Failed to read " ++ releasesUrl ++ ": connection failed: " ++
        "error sending request for url (" ++ releasesUrl ++ ")"]⟩ := by
  decide +kernel

end CaskAudit
