import CaskAudit.Proofs.Results
import CaskAudit.Proofs.Text.Decimal
import CaskAudit.Proofs.Toml.Records
import CaskAudit.Settings.Layers

/-!
# Settings in layers

A layer says something of some settings: the file is one, the variables are another above it, and
the standard settings are below both (`Layer.above`, `Layer.settings`). Reading the file and taking
over the variables are told apart (`ofFile_eq_ok_iff`, `override_eq_ok_iff`), and so are their
errors: first that of the file, then that of the first variable that is set to no number
(`override_eq_error_iff`), and last a timeout of zero. `Loads` has one rule for each of these ends,
and settings are loaded by these rules (`load_by_layers`).
-/

namespace CaskAudit

open Text

namespace Settings

/-! ## Layers -/

/-- What one layer says of each setting. -/
structure Layer where
  timeoutSecs : Option Nat
  maxAttempts : Option Nat
  initialBackoffMs : Option Nat
  maxBackoffMs : Option Nat
  concurrency : Option Nat
  userAgent : Option String
  githubToken : Option String

namespace Layer

/-- A layer that says nothing. -/
def silent : Layer := ⟨none, none, none, none, none, none, none⟩

/-- What one layer says, or else another one below it. -/
def above (upper lower : Layer) : Layer where
  timeoutSecs := upper.timeoutSecs.or lower.timeoutSecs
  maxAttempts := upper.maxAttempts.or lower.maxAttempts
  initialBackoffMs := upper.initialBackoffMs.or lower.initialBackoffMs
  maxBackoffMs := upper.maxBackoffMs.or lower.maxBackoffMs
  concurrency := upper.concurrency.or lower.concurrency
  userAgent := upper.userAgent.or lower.userAgent
  githubToken := upper.githubToken.or lower.githubToken

/-- The settings of a layer, which are the standard ones where it says nothing. -/
def settings (l : Layer) : Settings where
  timeoutSecs := l.timeoutSecs.getD standard.timeoutSecs
  retry :=
    { maxAttempts := l.maxAttempts.getD standard.retry.maxAttempts
      initialBackoffMs := l.initialBackoffMs.getD standard.retry.initialBackoffMs
      maxBackoffMs := l.maxBackoffMs.getD standard.retry.maxBackoffMs }
  concurrency := l.concurrency.getD standard.concurrency
  userAgent := l.userAgent.getD standard.userAgent
  githubToken := l.githubToken.or standard.githubToken

/-! ## The layer of a file -/

/-- The entries of a policy that may be missing. -/
inductive IsPolicy : Option Toml → List (String × Toml) → Prop
  | none : IsPolicy none []
  | some {t : Toml} {entries : List (String × Toml)}
      (h : Toml.IsRecord ["max_attempts", "initial_backoff_ms", "max_backoff_ms"] t entries) :
      IsPolicy (some t) entries

/-- A layer says what the entries of a file and those of its policy write. -/
structure IsWrittenBy (l : Layer) (entries policy : List (String × Toml)) : Prop where
  timeoutSecs : Toml.HasNumber entries "timeout_secs" limit64 l.timeoutSecs
  concurrency : Toml.HasNumber entries "concurrency" limit64 l.concurrency
  userAgent : entries.lookup "user_agent" = l.userAgent.map .string
  githubToken : entries.lookup "github_token" = l.githubToken.map .string
  maxAttempts : Toml.HasNumber policy "max_attempts" limit32 l.maxAttempts
  initialBackoffMs : Toml.HasNumber policy "initial_backoff_ms" limit64 l.initialBackoffMs
  maxBackoffMs : Toml.HasNumber policy "max_backoff_ms" limit64 l.maxBackoffMs

/-- A layer says what a value writes. -/
inductive IsGivenBy (l : Layer) : Toml → Prop
  | intro {t : Toml} {entries policy : List (String × Toml)}
      (ht : Toml.IsRecord ["timeout_secs", "retry", "concurrency", "user_agent", "github_token"] t
        entries)
      (hp : IsPolicy (entries.lookup "retry") policy) (h : l.IsWrittenBy entries policy) :
      IsGivenBy l t

/-- A layer is that of a file; where there is no file, it says nothing. -/
inductive IsIn : Layer → SettingsFile → Prop
  | absent : IsIn silent .absent
  | contents {l : Layer} {path text : String} {t : Toml} (ht : Toml.parse? text = some t)
      (h : l.IsGivenBy t) : IsIn l (.contents path text)

end Layer

variable {l v : Layer} {s : Settings} {env : Environment} {file : SettingsFile}

/-- A number that stands for a default where it is missing. -/
lemma entryOr?_natBelow_iff {entries : List (String × Toml)} {key : String}
    {bound default n : Nat} :
    Toml.entryOr? default (Toml.natBelow? bound) key entries = some n ↔
      ∃ o, Toml.HasNumber entries key bound o ∧ o.getD default = n := by
  unfold Toml.entryOr?
  rw [Option.map_eq_some_iff]
  simp only [Toml.optional?_natBelow_iff]

/-- A text that stands for a default where it is missing. -/
lemma entryOr?_string_iff {entries : List (String × Toml)} {key default text : String} :
    Toml.entryOr? default Toml.string? key entries = some text ↔
      ∃ o : Option String, entries.lookup key = o.map .string ∧ o.getD default = text := by
  unfold Toml.entryOr?
  rw [Option.map_eq_some_iff]
  simp only [Toml.optional?_string_iff]

/-- The policy of what is said of its settings. -/
def policyOf (attempts initial longest : Option Nat) : RetryPolicy where
  maxAttempts := attempts.getD standard.retry.maxAttempts
  initialBackoffMs := initial.getD standard.retry.initialBackoffMs
  maxBackoffMs := longest.getD standard.retry.maxBackoffMs

/-- A policy is read from a record of its settings. -/
lemma policy_ofToml?_eq_some_iff {t : Toml} {p : RetryPolicy} :
    RetryPolicy.ofToml? t = some p ↔
      ∃ entries attempts initial longest,
        Toml.IsRecord ["max_attempts", "initial_backoff_ms", "max_backoff_ms"] t entries ∧
        Toml.HasNumber entries "max_attempts" limit32 attempts ∧
        Toml.HasNumber entries "initial_backoff_ms" limit64 initial ∧
        Toml.HasNumber entries "max_backoff_ms" limit64 longest ∧
        p = policyOf attempts initial longest := by
  unfold RetryPolicy.ofToml?
  simp only [bind, Option.bind_eq_some_iff, Toml.record?_eq_some_iff, entryOr?_natBelow_iff,
    pure, Option.some.injEq]
  constructor
  · rintro ⟨entries, hr, _, ⟨attempts, ha, rfl⟩, _, ⟨initial, hi, rfl⟩, _, ⟨longest, hl, rfl⟩, rfl⟩
    exact ⟨entries, attempts, initial, longest, hr, ha, hi, hl, rfl⟩
  · rintro ⟨entries, attempts, initial, longest, hr, ha, hi, hl, rfl⟩
    exact ⟨entries, hr, _, ⟨attempts, ha, rfl⟩, _, ⟨initial, hi, rfl⟩, _, ⟨longest, hl, rfl⟩, rfl⟩

/-- A policy that stands for the standard one where it is missing. -/
lemma entryOr?_policy_iff {entries : List (String × Toml)} {p : RetryPolicy} :
    Toml.entryOr? standard.retry RetryPolicy.ofToml? "retry" entries = some p ↔
      ∃ policy attempts initial longest, Layer.IsPolicy (entries.lookup "retry") policy ∧
        Toml.HasNumber policy "max_attempts" limit32 attempts ∧
        Toml.HasNumber policy "initial_backoff_ms" limit64 initial ∧
        Toml.HasNumber policy "max_backoff_ms" limit64 longest ∧
        p = policyOf attempts initial longest := by
  unfold Toml.entryOr? Toml.optional?
  cases entries.lookup "retry" with
  | none =>
    constructor
    · intro h
      obtain rfl := Option.some.inj h
      exact ⟨[], none, none, none, .none, Toml.hasNumber_nil_iff.2 rfl,
        Toml.hasNumber_nil_iff.2 rfl, Toml.hasNumber_nil_iff.2 rfl, rfl⟩
    · rintro ⟨policy, attempts, initial, longest, ⟨⟩, ha, hi, hl, rfl⟩
      rw [Toml.hasNumber_nil_iff.1 ha, Toml.hasNumber_nil_iff.1 hi, Toml.hasNumber_nil_iff.1 hl]
      rfl
  | some t =>
    have hread : (((RetryPolicy.ofToml? t).map some).map fun x => x.getD standard.retry) =
        RetryPolicy.ofToml? t := by
      cases RetryPolicy.ofToml? t <;> rfl
    change ((RetryPolicy.ofToml? t).map some).map _ = some p ↔ _
    rw [hread, policy_ofToml?_eq_some_iff]
    constructor
    · rintro ⟨policy, attempts, initial, longest, hr, h⟩
      exact ⟨policy, attempts, initial, longest, .some hr, h⟩
    · rintro ⟨policy, attempts, initial, longest, ⟨⟩ | hr, h⟩
      exact ⟨policy, attempts, initial, longest, hr, h⟩

/-- There is no token in the standard settings. -/
lemma or_standard_githubToken (token : Option String) :
    token.or standard.githubToken = token := Option.or_none

/-- The settings that are read from a value are those of the layer that it gives. -/
lemma ofToml?_eq_some_iff {t : Toml} :
    ofToml? t = some s ↔ ∃ l : Layer, l.IsGivenBy t ∧ s = l.settings := by
  unfold ofToml?
  simp only [bind, Option.bind_eq_some_iff, Toml.record?_eq_some_iff, entryOr?_natBelow_iff,
    entryOr?_string_iff, entryOr?_policy_iff, Toml.optional?_string_iff, pure, Option.some.injEq]
  constructor
  · rintro ⟨entries, hr, _, ⟨timeout, ht, rfl⟩, _, ⟨policy, attempts, initial, longest, hp, hm, hi,
      hl, rfl⟩, _, ⟨concurrency, hc, rfl⟩, _, ⟨agent, ha, rfl⟩, token, hk, rfl⟩
    refine ⟨⟨timeout, attempts, initial, longest, concurrency, agent, token⟩, ?_, ?_⟩
    · exact .intro hr hp ⟨ht, hc, ha, hk, hm, hi, hl⟩
    · unfold Layer.settings policyOf
      rw [or_standard_githubToken]
  · rintro ⟨l, @⟨entries, policy, hr, hp, h⟩, rfl⟩
    refine ⟨entries, hr, _, ⟨_, h.timeoutSecs, rfl⟩, _, ⟨policy, _, _, _, hp, h.maxAttempts,
      h.initialBackoffMs, h.maxBackoffMs, rfl⟩, _, ⟨_, h.concurrency, rfl⟩, _,
      ⟨_, h.userAgent, rfl⟩, _, h.githubToken, ?_⟩
    unfold Layer.settings policyOf
    rw [or_standard_githubToken]

/-- The settings of a file that can be used are those of its layer. -/
lemma ofFile_eq_ok_iff : ofFile file = .ok s ↔ ∃ l : Layer, l.IsIn file ∧ s = l.settings := by
  cases file with
  | absent =>
    constructor
    · intro h
      obtain rfl := Except.ok.inj h
      exact ⟨.silent, .absent, rfl⟩
    · rintro ⟨_, ⟨⟩, rfl⟩
      rfl
  | unreadable path cause =>
    constructor
    · intro h
      cases h
    · rintro ⟨_, ⟨⟩, _⟩
  | contents path text =>
    have hread : ofFile (.contents path text) = .ok s ↔
        (Toml.parse? text).bind ofToml? = some s := by
      rw [ofFile]
      split <;> simp [*]
    rw [hread, Option.bind_eq_some_iff]
    constructor
    · rintro ⟨t, ht, h⟩
      obtain ⟨l, hl, rfl⟩ := ofToml?_eq_some_iff.1 h
      exact ⟨l, .contents ht hl, rfl⟩
    · rintro ⟨l, @⟨⟩ | ⟨ht, hl⟩, rfl⟩
      exact ⟨_, ht, ofToml?_eq_some_iff.2 ⟨l, hl, rfl⟩⟩

/-- The error of a file that cannot be read, or that gives no layer. -/
inductive IsFileError : SettingsFile → SettingsError → Prop
  | unreadable {path cause : String} :
      IsFileError (.unreadable path cause) (.unreadable path cause)
  | malformed {path text : String} (h : ∀ l : Layer, ¬l.IsIn (.contents path text)) :
      IsFileError (.contents path text) (.malformed path)

/-- A file that cannot be used is reported. -/
lemma ofFile_eq_error_iff {e : SettingsError} : ofFile file = .error e ↔ IsFileError file e := by
  constructor
  · intro h
    have hnone : ∀ l : Layer, ¬l.IsIn file := by
      intro l hl
      rw [ofFile_eq_ok_iff.2 ⟨l, hl, rfl⟩] at h
      cases h
    cases file with
    | absent => exact absurd .absent (hnone .silent)
    | unreadable path cause =>
      obtain rfl := Except.error.inj h
      exact .unreadable
    | contents path text =>
      rw [ofFile] at h
      split at h
      · cases h
      · obtain rfl := Except.error.inj h
        exact .malformed hnone
  · rintro (_ | @⟨path, text, h⟩)
    · rfl
    · rw [ofFile]
      split
      · next s hs =>
        obtain ⟨t, ht, hs⟩ := Option.bind_eq_some_iff.1 hs
        obtain ⟨l, hl, -⟩ := ofToml?_eq_some_iff.1 hs
        exact absurd (.contents ht hl) (h l)
      · rfl

/-! ## The layer of the variables -/

/-- A variable is set to a number below a bound, or it is not set. -/
inductive GivesNumber (env : Environment) (name : String) (bound : Nat) : Option Nat → Prop
  | unset (h : env name = none) : GivesNumber env name bound none
  | set {value : String} {n : Nat} (h : env name = some value) (hw : Writes value.toList n)
      (hn : n < bound) : GivesNumber env name bound (some n)

/-- A variable is set to a value that writes no number below a bound. -/
structure IsUnusable (env : Environment) (name : String) (bound : Nat) (value : String) : Prop where
  eq_some : env name = some value
  not_writes : ∀ n < bound, ¬Writes value.toList n

/-- The variables that stand for numbers, each with a bound, in the order in which they are read. -/
def numberVariables : List (String × Nat) :=
  [("CASK_CHECK_TIMEOUT", limit64), ("CASK_CHECK_RETRIES", limit32),
    ("CASK_CHECK_CONCURRENCY", limit64)]

/-- A variable is the first one that is set to no number. -/
def IsFirstUnusable (env : Environment) (name value : String) : Prop :=
  ∃ before bound after, numberVariables = before ++ (name, bound) :: after ∧
    (∀ p ∈ before, ∃ o, GivesNumber env p.1 p.2 o) ∧ IsUnusable env name bound value

/-- A layer says what the variables are set to. -/
structure Layer.IsSetIn (l : Layer) (env : Environment) : Prop where
  timeoutSecs : GivesNumber env "CASK_CHECK_TIMEOUT" limit64 l.timeoutSecs
  maxAttempts : GivesNumber env "CASK_CHECK_RETRIES" limit32 l.maxAttempts
  concurrency : GivesNumber env "CASK_CHECK_CONCURRENCY" limit64 l.concurrency
  userAgent : l.userAgent = env "CASK_CHECK_USER_AGENT"
  githubToken : l.githubToken = (env "CASK_CHECK_GITHUB_TOKEN").or (env "GITHUB_TOKEN")
  initialBackoffMs : l.initialBackoffMs = none
  maxBackoffMs : l.maxBackoffMs = none

/-- A number is taken over from a variable that is set to one. -/
lemma numberVariable_eq_ok_iff {name : String} {bound : Nat} {o : Option Nat} :
    numberVariable env name bound = .ok o ↔ GivesNumber env name bound o := by
  unfold numberVariable
  constructor
  · intro h
    split at h
    · next hname =>
      obtain rfl := Except.ok.inj h
      exact .unset hname
    · next value hname =>
      split at h
      · next n hread =>
        obtain rfl := Except.ok.inj h
        obtain ⟨hw, hn⟩ := readBelow?_trim_eq_some_iff.1 hread
        exact .set hname hw hn
      · cases h
  · rintro (hname | ⟨hname, hw, hn⟩)
    · rw [hname]
    · simp only [hname, readBelow?_trim_eq_some_iff.2 ⟨hw, hn⟩]

/-- A variable that is set to no number is reported with its value as it is set. -/
lemma numberVariable_eq_error_iff {name : String} {bound : Nat} {e : SettingsError} :
    numberVariable env name bound = .error e ↔
      ∃ value, IsUnusable env name bound value ∧ e = .variable name value := by
  unfold numberVariable
  constructor
  · intro h
    split at h
    · cases h
    · next value hname =>
      split at h
      · cases h
      · next hread =>
        obtain rfl := Except.error.inj h
        refine ⟨value, ⟨hname, fun n hn hw => ?_⟩, rfl⟩
        rw [readBelow?_trim_eq_some_iff.2 ⟨hw, hn⟩] at hread
        cases hread
  · rintro ⟨value, ⟨hname, hvalue⟩, rfl⟩
    have hread : readBelow? bound (trim value.toList) = none := by
      rw [Option.eq_none_iff_forall_ne_some]
      intro n hn
      obtain ⟨hw, hn⟩ := readBelow?_trim_eq_some_iff.1 hn
      exact hvalue n hn hw
    simp only [hname, hread]

/-- The settings of a layer over another one are those of the lower layer, but for what the upper
one says. -/
lemma settings_above :
    (v.above l).settings =
      { timeoutSecs := v.timeoutSecs.getD l.settings.timeoutSecs
        retry :=
          { maxAttempts := v.maxAttempts.getD l.settings.retry.maxAttempts
            initialBackoffMs := v.initialBackoffMs.getD l.settings.retry.initialBackoffMs
            maxBackoffMs := v.maxBackoffMs.getD l.settings.retry.maxBackoffMs }
        concurrency := v.concurrency.getD l.settings.concurrency
        userAgent := v.userAgent.getD l.settings.userAgent
        githubToken := v.githubToken.or l.settings.githubToken } := by
  unfold Layer.settings Layer.above
  simp only [Option.getD_or, Option.or_assoc]

/-- Variables that can be used are laid over the layer of the file. -/
lemma override_eq_ok_iff :
    l.settings.override env = .ok s ↔ ∃ v : Layer, v.IsSetIn env ∧ s = (v.above l).settings := by
  unfold override
  constructor
  · intro h
    obtain ⟨timeout, ht, h⟩ := bind_eq_ok h
    obtain ⟨attempts, ha, h⟩ := bind_eq_ok h
    obtain ⟨concurrency, hc, h⟩ := bind_eq_ok h
    rw [numberVariable_eq_ok_iff] at ht ha hc
    obtain rfl := Except.ok.inj h
    refine ⟨⟨timeout, attempts, none, none, concurrency, env "CASK_CHECK_USER_AGENT",
      (env "CASK_CHECK_GITHUB_TOKEN").or (env "GITHUB_TOKEN")⟩,
      ⟨ht, ha, hc, rfl, rfl, rfl, rfl⟩, ?_⟩
    rw [settings_above]
    rfl
  · rintro ⟨v, hv, rfl⟩
    have ht := numberVariable_eq_ok_iff.2 hv.timeoutSecs
    have ha := numberVariable_eq_ok_iff.2 hv.maxAttempts
    have hc := numberVariable_eq_ok_iff.2 hv.concurrency
    rw [ht, ha, hc, settings_above, hv.userAgent, hv.githubToken, hv.initialBackoffMs,
      hv.maxBackoffMs]
    rfl

/-- Variables that cannot be used are reported by the first of them. -/
lemma override_eq_error_iff {e : SettingsError} :
    s.override env = .error e ↔
      ∃ name value, IsFirstUnusable env name value ∧ e = .variable name value := by
  unfold override
  constructor
  · intro h
    obtain ht | ⟨timeout, ht, h⟩ := bind_eq_error h
    · obtain ⟨value, hvalue, rfl⟩ := numberVariable_eq_error_iff.1 ht
      exact ⟨_, value, ⟨[], _, _, rfl, List.forall_mem_nil _, hvalue⟩, rfl⟩
    rw [numberVariable_eq_ok_iff] at ht
    obtain ha | ⟨attempts, ha, h⟩ := bind_eq_error h
    · obtain ⟨value, hvalue, rfl⟩ := numberVariable_eq_error_iff.1 ha
      refine ⟨_, value, ⟨[_], _, _, rfl, ?_, hvalue⟩, rfl⟩
      exact List.forall_mem_singleton.2 ⟨timeout, ht⟩
    rw [numberVariable_eq_ok_iff] at ha
    obtain hc | ⟨concurrency, hc, h⟩ := bind_eq_error h
    · obtain ⟨value, hvalue, rfl⟩ := numberVariable_eq_error_iff.1 hc
      refine ⟨_, value, ⟨[_, _], _, _, rfl, ?_, hvalue⟩, rfl⟩
      exact List.forall_mem_cons.2
        ⟨⟨timeout, ht⟩, List.forall_mem_singleton.2 ⟨attempts, ha⟩⟩
    cases h
  · rintro ⟨name, value, ⟨before, bound, after, heq, hbefore, hvalue⟩, rfl⟩
    have herror := numberVariable_eq_error_iff.2 ⟨value, hvalue, rfl⟩
    have hok : ∀ p ∈ before, ∃ o, numberVariable env p.1 p.2 = .ok o := fun p hp => by
      obtain ⟨o, ho⟩ := hbefore p hp
      exact ⟨o, numberVariable_eq_ok_iff.2 ho⟩
    -- One case for each number of variables before the one that is reported.
    rcases before with _ | ⟨first, _ | ⟨second, _ | ⟨third, before⟩⟩⟩
    · cases heq
      rw [herror]
      rfl
    · cases heq
      obtain ⟨timeout, ht⟩ := hok _ List.mem_cons_self
      rw [ht, herror]
      rfl
    · cases heq
      obtain ⟨timeout, ht⟩ := hok _ List.mem_cons_self
      obtain ⟨attempts, ha⟩ := hok _ (List.mem_cons_of_mem _ List.mem_cons_self)
      rw [ht, ha, herror]
      rfl
    · have hlength := congrArg List.length heq
      simp [numberVariables] at hlength

/-! ## Loading -/

/-- How settings are loaded, or which error is reported. -/
inductive Loads (file : SettingsFile) (env : Environment) : Except SettingsError Settings → Prop
  /-- The file cannot be used. -/
  | fileError {e : SettingsError} (h : IsFileError file e) : Loads file env (.error e)
  /-- The file can be used, but not every variable. -/
  | unusable {l : Layer} {name value : String} (hf : l.IsIn file)
      (h : IsFirstUnusable env name value) : Loads file env (.error (.variable name value))
  /-- With the variables over the file, nothing would be waited for. -/
  | zeroTimeout {l v : Layer} (hf : l.IsIn file) (hv : v.IsSetIn env)
      (h : (v.above l).settings.timeoutSecs = 0) : Loads file env (.error .zeroTimeout)
  /-- The settings are those of the variables over the file over the standard ones. -/
  | settings {l v : Layer} (hf : l.IsIn file) (hv : v.IsSetIn env)
      (h : 1 ≤ (v.above l).settings.timeoutSecs) : Loads file env (.ok (v.above l).settings)

/-- The file is read, then the variables are taken over, and then the result is checked. -/
lemma load_eq :
    load file env = (ofFile file).bind fun s => (s.override env).bind fun s =>
      s.validate.bind fun _ => .ok s := rfl

/-- What is loaded follows the rules. -/
lemma loads_load (file : SettingsFile) (env : Environment) : Loads file env (load file env) := by
  rw [load_eq]
  cases hf : ofFile file with
  | error e => exact .fileError (ofFile_eq_error_iff.1 hf)
  | ok s =>
    obtain ⟨l, hl, rfl⟩ := ofFile_eq_ok_iff.1 hf
    rw [ok_bind]
    cases hv : l.settings.override env with
    | error e =>
      obtain ⟨name, value, h, rfl⟩ := override_eq_error_iff.1 hv
      exact .unusable hl h
    | ok s =>
      obtain ⟨v, hset, rfl⟩ := override_eq_ok_iff.1 hv
      rw [ok_bind]
      unfold validate
      split
      · next h => exact .zeroTimeout hl hset h
      · next h => exact .settings hl hset (Nat.one_le_iff_ne_zero.2 h)

/-- What follows the rules is loaded. -/
lemma Loads.load_eq {result : Except SettingsError Settings} (h : Loads file env result) :
    load file env = result := by
  rw [Settings.load_eq]
  cases h with
  | fileError h =>
    rw [ofFile_eq_error_iff.2 h]
    rfl
  | @unusable l name value hf h =>
    have hfile : ofFile file = .ok l.settings := ofFile_eq_ok_iff.2 ⟨l, hf, rfl⟩
    rw [hfile, ok_bind, override_eq_error_iff.2 ⟨name, value, h, rfl⟩]
    rfl
  | @zeroTimeout l v hf hv h =>
    have hfile : ofFile file = .ok l.settings := ofFile_eq_ok_iff.2 ⟨l, hf, rfl⟩
    have henv : l.settings.override env = .ok (v.above l).settings :=
      override_eq_ok_iff.2 ⟨v, hv, rfl⟩
    rw [hfile, ok_bind, henv, ok_bind, validate, if_pos h]
    rfl
  | @settings l v hf hv h =>
    have hfile : ofFile file = .ok l.settings := ofFile_eq_ok_iff.2 ⟨l, hf, rfl⟩
    have henv : l.settings.override env = .ok (v.above l).settings :=
      override_eq_ok_iff.2 ⟨v, hv, rfl⟩
    rw [hfile, ok_bind, henv, ok_bind, validate, if_neg (Nat.one_le_iff_ne_zero.1 h)]
    rfl

/-- Settings that are loaded are those of two layers, and with them an answer is waited for a second
at least. -/
lemma exists_layers_of_load (h : load file env = .ok s) :
    ∃ l v : Layer, l.IsIn file ∧ v.IsSetIn env ∧ s = (v.above l).settings ∧ 1 ≤ s.timeoutSecs := by
  have hloads := loads_load file env
  rw [h] at hloads
  cases hloads with
  | @settings l v hf hv hs => exact ⟨l, v, hf, hv, rfl, hs⟩

/-- Settings are loaded by the rules for layers: a file that cannot be used is reported first, then
the first variable that is set to no number, then a timeout of zero. Otherwise each setting is what
the highest layer says that says something of it, and an answer is waited for a second at least. -/
theorem load_by_layers (file : SettingsFile) (env : Environment) :
    (∀ result, load file env = result ↔ Loads file env result) ∧
    ∀ s, load file env = .ok s → 1 ≤ s.timeoutSecs := by
  refine ⟨fun result => ⟨fun h => h ▸ loads_load file env, Loads.load_eq⟩, fun s h => ?_⟩
  obtain ⟨_, _, -, -, -, htimeout⟩ := exists_layers_of_load h
  exact htimeout

/-- Variables that set the timeout and a token. -/
def sevenSeconds : Environment := fun name =>
  match name with
  | "CASK_CHECK_TIMEOUT" => some " +7 "
  | "GITHUB_TOKEN" => some "t"
  | _ => none

/-- A file that sets the timeout to zero and the wait before a second try. -/
def zeroTimeoutFile : SettingsFile :=
  .contents "config.toml" "timeout_secs = 0\n[retry]\ninitial_backoff_ms = 5\n"

/-- The settings of the variables laid over those of the file. -/
def sevenSecondsOverFile : Settings :=
  ⟨7, ⟨3, 5, 8000⟩, 8, "cask-check/0.1.0", some "t"⟩

/-- A timeout of zero in a file is replaced, and the wait before a second try is left as it is
there. -/
theorem load_by_layers_replaced :
    load zeroTimeoutFile sevenSeconds = .ok sevenSecondsOverFile ∧
      1 ≤ sevenSecondsOverFile.timeoutSecs := by
  have h : load zeroTimeoutFile sevenSeconds = .ok sevenSecondsOverFile := by decide +kernel
  exact ⟨h, (load_by_layers _ _).2 _ h⟩

end Settings

end CaskAudit
