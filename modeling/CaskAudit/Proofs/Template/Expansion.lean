import CaskAudit.Proofs.Template.Parts
import Mathlib.Data.List.Forall2
import Mathlib.Logic.ExistsUnique

/-!
# Expanded templates

The text of a template for a version is that of its parts, one after the other: a literal stands for
itself, a chain of methods for what it derives from the version. Where a chain derives nothing, the
first such chain is reported, as a reference that is read as the chain again
(`parse_and_expand_by_parts`).
-/

namespace CaskAudit

open Text

/-- What a part of a template stands for, if it stands for anything. -/
def Segment.value? (v : Version) : Segment → Option (List Char)
  | literal text => some text
  | version ms => Method.applyAll ms v.raw.toList

namespace Template

variable {v : Version} {s : Segment} {segments : List Segment}
  {head text : List Char} {ms : List Method} {e : TemplateError}

/-- A part that stands for a text contributes it, whichever kind of part it is. -/
lemma expandSegments_cons (h : s.value? v = some head) :
    expandSegments v (s :: segments) = (expandSegments v segments).map (head ++ ·) := by
  cases s with
  | literal text =>
    obtain rfl := Option.some.inj h
    rfl
  | version ms =>
    have hms : Method.applyAll ms v.raw.toList = some head := h
    rw [expandSegments, hms]

/-- A chain that stands for nothing is reported. -/
lemma expandSegments_of_none (h : (Segment.version ms).value? v = none) :
    expandSegments v (.version ms :: segments) = .error (.noValue (reference ms) v.raw) := by
  have hms : Method.applyAll ms v.raw.toList = none := h
  rw [expandSegments, hms]

/-- Only a chain stands for nothing. -/
lemma exists_of_value?_eq_none (h : s.value? v = none) : ∃ ms, s = .version ms := by
  cases s with
  | literal text => cases h
  | version ms => exact ⟨ms, rfl⟩

/-- Parts are expanded to what they stand for, one after the other. -/
lemma expandSegments_eq_ok_iff : expandSegments v segments = .ok text ↔
    ∃ values, List.Forall₂ (fun s value => s.value? v = some value) segments values ∧
      text = values.flatten := by
  induction segments generalizing text with
  | nil => simp [expandSegments, eq_comm]
  | cons s segments ih =>
    simp only [List.forall₂_cons_left_iff]
    cases hs : s.value? v with
    | none =>
      obtain ⟨ms, rfl⟩ := exists_of_value?_eq_none hs
      rw [expandSegments_of_none hs]
      simp
    | some head =>
      rw [expandSegments_cons hs, map_eq_ok_iff]
      constructor
      · rintro ⟨rest, hrest, rfl⟩
        obtain ⟨values, hvalues, rfl⟩ := ih.1 hrest
        exact ⟨_, ⟨head, values, rfl, hvalues, rfl⟩, rfl⟩
      · rintro ⟨_, ⟨head', values, hhead, hvalues, rfl⟩, rfl⟩
        obtain rfl := Option.some.inj hhead
        exact ⟨_, ih.2 ⟨values, hvalues, rfl⟩, rfl⟩

/-- Nothing but a first chain that stands for nothing is reported. -/
lemma exists_of_expandSegments_eq_error (h : expandSegments v segments = .error e) :
    ∃ before ms after, segments = before ++ .version ms :: after ∧
      (∀ s ∈ before, s.value? v ≠ none) ∧ (Segment.version ms).value? v = none ∧
      e = .noValue (reference ms) v.raw := by
  induction segments with
  | nil => cases h
  | cons s segments ih =>
    cases hs : s.value? v with
    | none =>
      obtain ⟨ms, rfl⟩ := exists_of_value?_eq_none hs
      rw [expandSegments_of_none hs] at h
      exact ⟨[], ms, segments, rfl, List.forall_mem_nil _, hs, (Except.error.inj h).symm⟩
    | some head =>
      rw [expandSegments_cons hs] at h
      cases hrest : expandSegments v segments with
      | ok rest =>
        rw [hrest] at h
        cases h
      | error e' =>
        rw [hrest] at h
        obtain rfl := Except.error.inj h
        obtain ⟨before, ms, after, rfl, hbefore, hms, he⟩ := ih hrest
        refine ⟨s :: before, ms, after, rfl, List.forall_mem_cons.2 ⟨?_, hbefore⟩, hms, he⟩
        rw [hs]
        exact Option.some_ne_none head

/-- A template is expanded to a text exactly if its parts are. -/
lemma expand_eq_ok_iff {t : Template} {text : String} :
    t.expand v = .ok text ↔ expandSegments v t.segments = .ok text.toList := by
  rw [expand, map_eq_ok_iff]
  constructor
  · rintro ⟨cs, h, rfl⟩
    rw [h, String.toList_ofList]
  · exact fun h => ⟨_, h, String.ofList_toList⟩

/-- A template is reported exactly if its parts are. -/
lemma expand_eq_error_iff {t : Template} :
    t.expand v = .error e ↔ expandSegments v t.segments = .error e := by
  rw [expand]
  cases expandSegments v t.segments <;> simp [Except.map]

/-- The reference to a chain of methods is read as the chain. -/
lemma parse_interpolation (ms : List Method) : parse (interpolation (reference ms)) =
    .ok ⟨interpolation (reference ms), [.version ms]⟩ := by
  have hblank : AllBlank [] := List.forall_mem_nil _
  refine parse_eq_ok_iff.2 ⟨rfl, [.chain [] ms []], ?_, ?_, rfl⟩
  · exact wellFormed_nil.cons ⟨hblank, hblank⟩ fun _ hq => by cases hq
  · simp [write, Part.write, interpolation, opening]

/-- Some part of a template that is reported stands for nothing, and no other template is
reported. -/
lemma exists_expand_eq_error_iff {t : Template} :
    (∃ e, t.expand v = .error e) ↔ ∃ s ∈ t.segments, s.value? v = none := by
  constructor
  · rintro ⟨e, he⟩
    obtain ⟨before, ms, after, hsegments, -, hms, -⟩ :=
      exists_of_expandSegments_eq_error (expand_eq_error_iff.1 he)
    exact ⟨.version ms, by simp [hsegments], hms⟩
  · rintro ⟨s, hs, hnone⟩
    cases hexpand : t.expand v with
    | error e => exact ⟨e, rfl⟩
    | ok text =>
      obtain ⟨values, hvalues, -⟩ := expandSegments_eq_ok_iff.1 (expand_eq_ok_iff.1 hexpand)
      have hmap : t.segments.map (Segment.value? v) = values.map some := by
        rwa [← List.forall₂_eq_eq_eq, List.forall₂_map_left_iff, List.forall₂_map_right_iff]
      have hmem := List.mem_map_of_mem (f := Segment.value? v) hs
      rw [hmap, hnone] at hmem
      obtain ⟨value, -, hvalue⟩ := List.mem_map.1 hmem
      cases hvalue

/-- A text is read as a template exactly if it is written as well-formed parts; these are the only
ones that write it, and the template is read as them. For a version, the template is expanded to
the texts that its parts stand for, one after the other, unless some part stands for nothing; then
the first of these is reported, as a reference that is read as its chain of methods. -/
theorem parse_and_expand_by_parts (source : String) :
    ((∃ t, parse source = .ok t) ↔ ∃ parts, WellFormed parts ∧ write parts = source.toList) ∧
    ∀ t, parse source = .ok t →
      t.source = source ∧
      (∃! parts, WellFormed parts ∧ write parts = source.toList) ∧
      (∀ parts, WellFormed parts → write parts = source.toList →
        t.segments = parts.map Part.segment) ∧
      ∀ v : Version,
        (∀ text, t.expand v = .ok text ↔
          ∃ values, List.Forall₂ (fun s value => s.value? v = some value) t.segments values ∧
            text.toList = values.flatten) ∧
        ((∃ e, t.expand v = .error e) ↔ ∃ s ∈ t.segments, s.value? v = none) ∧
        ∀ e, t.expand v = .error e →
          ∃ before ms after, t.segments = before ++ .version ms :: after ∧
            (∀ s ∈ before, s.value? v ≠ none) ∧ (Segment.version ms).value? v = none ∧
            e = .noValue (reference ms) v.raw ∧
            parse (interpolation (reference ms)) =
              .ok ⟨interpolation (reference ms), [.version ms]⟩ := by
  constructor
  · constructor
    · rintro ⟨t, ht⟩
      obtain ⟨-, parts, hparts, hwrite, -⟩ := parse_eq_ok_iff.1 ht
      exact ⟨parts, hparts, hwrite⟩
    · rintro ⟨parts, hparts, hwrite⟩
      exact ⟨⟨source, _⟩, parse_eq_ok_iff.2 ⟨rfl, parts, hparts, hwrite, rfl⟩⟩
  · intro t ht
    obtain ⟨hsource, parts, hparts, hwrite, hsegments⟩ := parse_eq_ok_iff.1 ht
    have hunique : ∀ parts', WellFormed parts' → write parts' = source.toList → parts' = parts :=
      fun _ hparts' hwrite' => hparts'.eq_of_write_eq hparts (hwrite'.trans hwrite.symm)
    refine ⟨hsource, ⟨parts, ⟨hparts, hwrite⟩, fun parts' h => hunique parts' h.1 h.2⟩, ?_,
      fun v => ⟨?_, exists_expand_eq_error_iff, ?_⟩⟩
    · intro parts' hparts' hwrite'
      rw [hunique parts' hparts' hwrite', hsegments]
    · intro text
      rw [expand_eq_ok_iff, expandSegments_eq_ok_iff]
    · intro e he
      obtain ⟨before, ms, after, hsplit, hbefore, hms, rfl⟩ :=
        exists_of_expandSegments_eq_error (expand_eq_error_iff.1 he)
      exact ⟨before, ms, after, hsplit, hbefore, hms, rfl, parse_interpolation ms⟩

/-- A template with a number sign before a reference and a brace after it. -/
def bracedTemplate : String := "a##\x7b version.before_comma \x7d\x7d-#\x7bversion.minor\x7d"

/-- A number sign before a reference, blanks in it, a brace after it, and a reference that stands
for nothing at the end. -/
theorem parse_and_expand_by_parts_braces :
    ∃ t, parse bracedTemplate = .ok t ∧
      t.segments = [.literal ['a', '#'], .version [.beforeComma], .literal ['\x7d', '-'],
        .version [.minor]] ∧
      (∃! parts, WellFormed parts ∧ write parts =
        bracedTemplate.toList) ∧
      t.expand ⟨"7,2"⟩ = .error (.noValue "version.minor" "7,2") ∧
      ∃ before ms after, t.segments = before ++ .version ms :: after ∧
        (∀ s ∈ before, s.value? ⟨"7,2"⟩ ≠ none) ∧
        (Segment.version ms).value? ⟨"7,2"⟩ = none ∧
        TemplateError.noValue "version.minor" "7,2" = .noValue (reference ms) "7,2" := by
  have hparse : parse bracedTemplate =
      .ok ⟨bracedTemplate,
        [.literal ['a', '#'], .version [.beforeComma], .literal ['\x7d', '-'],
          .version [.minor]]⟩ := by decide +kernel
  obtain ⟨-, hunique, -, hexpand⟩ := (parse_and_expand_by_parts _).2 _ hparse
  have herror : expand ⟨bracedTemplate,
      [.literal ['a', '#'], .version [.beforeComma], .literal ['\x7d', '-'],
        .version [.minor]]⟩ ⟨"7,2"⟩ = .error (.noValue "version.minor" "7,2") := by decide
  obtain ⟨before, ms, after, hsplit, hbefore, hms, he, -⟩ := (hexpand ⟨"7,2"⟩).2.2 _ herror
  exact ⟨_, hparse, rfl, hunique, herror, before, ms, after, hsplit, hbefore, hms, he⟩

end Template

end CaskAudit
