import CaskAudit.CommandLine.Options
import CaskAudit.Settings.Layers

/-!
# Arguments of the command line

What the arguments of the program ask for. Options stand anywhere among the other arguments of their
command, a value follows its option or is joined to it, and `--` ends the options. The options for
the network may also stand before the command; those after it win.
-/

namespace CaskAudit

open Text

/-- Why arguments are not carried out. -/
inductive Refusal where
  | usage
  | help
  | version
  deriving DecidableEq, Repr

/-- The other arguments that a command takes. -/
inductive Operands where
  | none
  /-- One path. -/
  | path
  /-- One or more paths. -/
  | paths
  /-- One text. -/
  | text
  deriving DecidableEq, Repr

/-- Whether one more operand can be taken after some others. -/
def Operands.accepts (kind : Operands) (before : List String) (operand : String) : Bool :=
  match kind with
  | none => false
  | path => before.isEmpty && !operand.isEmpty
  | paths => !operand.isEmpty
  | text => before.isEmpty

/-- Whether enough operands have been taken. -/
def Operands.complete (kind : Operands) (taken : List String) : Bool :=
  kind = none || !taken.isEmpty

/-- The arguments of a command that have been read, operands newest first. -/
structure Arguments where
  options : Options
  operands : List String

namespace Arguments

/-- Nothing read. -/
def empty : Arguments := ⟨.none, []⟩

/-- Takes an option with its value; a question for help or the version is answered at once. -/
def give (a : Arguments) (name : OptionName) (value : String) : Except Refusal Arguments :=
  match name with
  | .help => .error .help
  | .version => .error .version
  | _ =>
    match a.options.give name value with
    | some o => .ok { a with options := o }
    | none => .error .usage

/-- Takes an operand. -/
def operand (kind : Operands) (a : Arguments) (value : String) : Except Refusal Arguments :=
  if kind.accepts a.operands value then .ok { a with operands := value :: a.operands }
  else .error .usage

/-- Takes several operands. -/
def operandsAll (kind : Operands) (a : Arguments) : List String → Except Refusal Arguments
  | [] => .ok a
  | value :: values =>
    match a.operand kind value with
    | .ok a' => operandsAll kind a' values
    | .error e => .error e

/-- Takes an option by its long name, perhaps with a value joined by an equals sign. The option is
given back where its value is still to come. -/
def long (names : List OptionName) (a : Arguments) (text : List Char) :
    Except Refusal (Arguments × Option OptionName) :=
  let name := String.ofList (text.takeWhile (· ≠ '='))
  let joined := (splitFirst? '=' text).map (·.2)
  match names.find? (·.long.contains name), joined with
  | none, _ => .error .usage
  | some option, none =>
    if option.takesValue then .ok (a, some option)
    else (a.give option "").map (·, none)
  | some option, some value =>
    if option.takesValue then (a.give option (String.ofList value)).map (·, none)
    else .error .usage

/-- Takes options by their letters; after one with a value the rest is its value. The option is
given back where its value is still to come. -/
def short (names : List OptionName) (a : Arguments) :
    List Char → Except Refusal (Arguments × Option OptionName)
  | [] => .ok (a, none)
  | c :: rest =>
    match names.find? (·.short? = some c) with
    | none => .error .usage
    | some option =>
      if option.takesValue then
        if rest.isEmpty then .ok (a, some option)
        else (a.give option (String.ofList (dropOne '=' rest))).map (·, none)
      else
        match a.give option "" with
        | .ok a' => short names a' rest
        | .error e => .error e

/-- Reads arguments up to their end or, where a command has to come, up to the command. An option
whose value is still to come may wait. -/
def read (names : List OptionName) (kind : Operands) (untilCommand : Bool) (a : Arguments)
    (waiting : Option OptionName) : List String → Except Refusal (Arguments × List String)
  | [] => if waiting.isSome then .error .usage else .ok (a, [])
  | arg :: args =>
    match arg.toList, waiting with
    | ['-', '-'], some _ => .error .usage
    | ['-', '-'], none => (a.operandsAll kind args).map (·, [])
    | '-' :: '-' :: text, none =>
      match a.long names text with
      | .ok (a', waiting') => read names kind untilCommand a' waiting' args
      | .error e => .error e
    | '-' :: c :: text, none =>
      match a.short names (c :: text) with
      | .ok (a', waiting') => read names kind untilCommand a' waiting' args
      | .error e => .error e
    | '-' :: _ :: _, some _ => .error .usage
    | _, some option =>
      match a.give option arg with
      | .ok a' => read names kind untilCommand a' none args
      | .error e => .error e
    | _, none =>
      if untilCommand then .ok (a, arg :: args)
      else
        match a.operand kind arg with
        | .ok a' => read names kind untilCommand a' none args
        | .error e => .error e

end Arguments

/-! ## Commands -/

/-- What `appcast` shows of a feed. -/
structure AppcastOptions where
  filter : Option Pattern
  stable : Bool
  checkpoint : Bool
  provider : Bool
  version : Bool
  downloads : Bool
  json : Bool

/-- A command with what it needs. -/
inductive Command where
  | resolve (file : String) (facts : Facts) (json : Bool)
  | verify (files : List String) (facts : Facts) (json : Bool)
  | check (directory : String) (facts : Facts) (outdated json : Bool)
  | appcast (url : String) (options : AppcastOptions)

/-- Settings for the network that were given as options. -/
structure NetworkOptions where
  timeout : Option Nat
  retries : Option Nat
  concurrency : Option Nat
  githubToken : Option String
  deriving DecidableEq, Repr

/-- A command with settings for the network. -/
structure Invocation where
  network : NetworkOptions
  command : Command

/-- The options for the network. -/
def networkNames : List OptionName := [.timeout, .retries, .concurrency, .githubToken]

/-- The options that tell the host. -/
def hostNames : List OptionName := [.release, .arch, .bits]

/-- The options for the output of `appcast` that exclude JSON. -/
def partNames : List OptionName := [.checkpoint, .provider, .appVersion, .downloads]

/-- The host that options tell; only its release has to be given. -/
def Options.facts? (o : Options) : Option Facts :=
  o.release.map fun release => ⟨release, o.arch.getD .intel, o.bits.getD .bits64⟩

/-- The settings that options for a command, or else those before it, and the environment give. -/
def NetworkOptions.ofOptions (env : Environment) (before after : Options) : NetworkOptions where
  timeout := after.timeout.or before.timeout
  retries := after.retries.or before.retries
  concurrency := after.concurrency.or before.concurrency
  githubToken := (after.githubToken.or before.githubToken).or (env "GITHUB_TOKEN")

namespace Command

/-- The options and operands of a command, if there is one of that name. -/
def form? (name : String) : Option (List OptionName × Operands) :=
  match name with
  | "resolve" => some (hostNames ++ [.json], .path)
  | "verify" => some (hostNames ++ [.json], .paths)
  | "check" => some (hostNames ++ [.outdated, .json], .path)
  | "appcast" => some ([.filter, .stable] ++ partNames ++ [.json], .text)
  | _ => none

/-- The command that complete arguments make, unless something required is missing or two options
exclude each other. -/
def ofArguments? (name : String) (o : Options) (operands : List String) : Option Command :=
  match name, operands with
  | "resolve", [file] => o.facts?.map (.resolve file · (o.has .json))
  | "verify", files => o.facts?.map (.verify files · (o.has .json))
  | "check", [directory] => o.facts?.map (.check directory · (o.has .outdated) (o.has .json))
  | "appcast", [url] =>
    if o.has .json && partNames.any o.has then none
    else
      some (.appcast url
        ⟨o.filter, o.has .stable, o.has .checkpoint, o.has .provider, o.has .appVersion,
          o.has .downloads, o.has .json⟩)
  | _, _ => none

end Command

namespace Invocation

/-- What the arguments after `help` ask for: the help for at most one command. -/
def ofHelp : List String → Refusal
  | [] => .help
  | [name] => if name = "help" || (Command.form? name).isSome then .help else .usage
  | _ => .usage

/-- What the arguments after the options in front ask for. -/
def ofCommand (env : Environment) (before : Options) (name : String) (args : List String) :
    Except Refusal Invocation :=
  match Command.form? name with
  | none => .error (if name = "help" then ofHelp args else .usage)
  | some (names, kind) =>
    match Arguments.read (names ++ networkNames ++ [.help]) kind false .empty none args with
    | .error e => .error e
    | .ok (a, _) =>
      if !kind.complete a.operands then .error .usage
      else
        match Command.ofArguments? name a.options a.operands.reverse with
        | some command => .ok ⟨.ofOptions env before a.options, command⟩
        | none => .error .usage

/-- What arguments ask for. -/
def parse (env : Environment) (args : List String) : Except Refusal Invocation :=
  match Arguments.read (networkNames ++ [.help, .version]) .none true .empty none args with
  | .error e => .error e
  | .ok (a, name :: rest) => ofCommand env a.options name rest
  | .ok (_, []) => .error .usage

end Invocation

end CaskAudit
