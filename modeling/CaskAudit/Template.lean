import CaskAudit.Version

/-!
# Templates

A template is a text with places for parts of a version, written as a number sign and the reference
in braces. It is read when a manifest is, and expanded only once the version is known.
-/

namespace CaskAudit

open Text

/-- A fault of a template. -/
inductive TemplateError where
  | unterminated (template : String)
  | unsupported (expr template : String)
  | method (e : VersionError)
  | noValue (expr version : String)
  deriving DecidableEq, Repr

/-- A reference as a template writes it. -/
def interpolation (expr : String) : String := "#\x7b" ++ expr ++ "\x7d"

/-- The report of a fault. -/
def TemplateError.message : TemplateError → String
  | .unterminated template => s!"Unterminated interpolation in '{template}'"
  | .unsupported expr template =>
    s!"Unsupported interpolation '{interpolation expr}' in '{template}'"
  | .method e => e.message
  | .noValue expr version => s!"'{interpolation expr}' has no value for version {version}"

/-- A part of a template. -/
inductive Segment where
  | literal (text : List Char)
  | version (methods : List Method)
  deriving DecidableEq, Repr

/-- A text with references to a version. -/
structure Template where
  source : String
  segments : List Segment
  deriving DecidableEq, Repr

namespace Template

/-- The opening of a reference. -/
def opening : List Char := ['#', '\x7b']

/-- The names of methods, looked up in order. -/
def methodsOf : List (List Char) → Except TemplateError (List Method)
  | [] => .ok []
  | name :: names =>
    match Method.ofName name with
    | .error e => .error (.method e)
    | .ok m => (methodsOf names).map (m :: ·)

/-- The chain of methods that the text between the braces writes. -/
def readReference (source : String) (expr : List Char) : Except TemplateError (List Method) :=
  match splitOn '.' (trim expr) with
  | head :: names =>
    if head = "version".toList then methodsOf names
    else .error (.unsupported (String.ofList expr) source)
  | [] => .error (.unsupported (String.ofList expr) source)

/-- A literal part, or nothing for an empty text. -/
def literalPart (text : List Char) : List Segment :=
  if text.isEmpty then [] else [.literal text]

/-- What follows the first occurrence of a character is shorter than the text. -/
theorem length_lt_of_splitFirst? {d : Char} {s before after : List Char}
    (h : splitFirst? d s = some (before, after)) : after.length < s.length := by
  rw [eq_append_of_splitFirst? h]
  simp only [List.length_append, List.length_cons]
  omega

/-- The parts of a text; `source` is the whole template, for reports. -/
def segmentsOf (source : String) (s : List Char) : Except TemplateError (List Segment) :=
  match hopen : breakOn? opening s with
  | none => .ok (literalPart s)
  | some (before, after) =>
    match hclose : splitFirst? '\x7d' after with
    | none => .error (.unterminated source)
    | some (expr, rest) =>
      match readReference source expr with
      | .error e => .error e
      | .ok methods =>
        have : rest.length < s.length :=
          Nat.lt_trans (length_lt_of_splitFirst? hclose)
            (length_lt_of_breakOn? (by simp [opening]) hopen)
        match segmentsOf source rest with
        | .error e => .error e
        | .ok segments => .ok (literalPart before ++ .version methods :: segments)
termination_by s.length

/-- The template that a text writes. -/
def parse (source : String) : Except TemplateError Template :=
  (segmentsOf source source.toList).map fun segments => ⟨source, segments⟩

/-- Whether a template refers to a version at all. -/
def isVersioned (t : Template) : Bool :=
  t.segments.any fun
    | .version _ => true
    | .literal _ => false

/-- A chain of methods as a reference writes it. -/
def reference (methods : List Method) : String :=
  methods.foldl (fun text m => text ++ "." ++ m.name) "version"

/-- The text of parts for a version; the first reference without a value is reported. -/
def expandSegments (v : Version) : List Segment → Except TemplateError (List Char)
  | [] => .ok []
  | .literal text :: rest => (expandSegments v rest).map (text ++ ·)
  | .version methods :: rest =>
    match Method.applyAll methods v.raw.toList with
    | none => .error (.noValue (reference methods) v.raw)
    | some text => (expandSegments v rest).map (text ++ ·)

/-- The text of a template for a version. -/
def expand (t : Template) (v : Version) : Except TemplateError String :=
  (expandSegments v t.segments).map String.ofList

end Template

end CaskAudit
