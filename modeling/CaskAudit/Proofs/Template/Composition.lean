import CaskAudit.Proofs.Template.Expansion

/-!
# Templates one after the other

An opening stands in two texts put together only if it stands in one of them or where they meet
(`not_infix_append`). So the first reference of the second text is found where it was, and the
literal that ends a template goes on in the one that begins the next (`segmentsOf_append_fuse`,
by induction along the references of the first text). What is read is expanded as the two templates
are, one after the other (`expandSegments_fuse`).
-/

namespace CaskAudit

open Text

namespace Template

variable {source : String} {s t before after lead : List Char} {segments : List Segment}
  {ms : List Method} {v : Version}

/-! ## Where two texts meet -/

/-- An opening stands where two texts meet. -/
def Straddles (s t : List Char) : Prop := s.getLast? = some '#' ∧ t.head? = some '\x7b'

/-- No opening stands in two texts if none stands in either of them or where they meet. -/
lemma not_infix_append (hs : ¬opening <:+: s) (ht : ¬opening <:+: t) (hst : ¬Straddles s t) :
    ¬opening <:+: s ++ t := by
  induction s with
  | nil => exact ht
  | cons c s ih =>
    rw [List.infix_cons_iff, not_or] at hs
    rw [List.cons_append, List.infix_cons_iff, not_or]
    constructor
    · -- An opening at the beginning stands in the first text, or this is but a number sign.
      intro hbegin
      cases s with
      | nil =>
        obtain ⟨rfl, rest, rfl⟩ : c = '#' ∧ ∃ rest, t = '\x7b' :: rest := by
          obtain ⟨rest, hrest⟩ := hbegin
          obtain ⟨hc, htail⟩ := List.cons.inj hrest
          exact ⟨hc.symm, rest, htail.symm⟩
        exact hst ⟨rfl, rfl⟩
      | cons d s =>
        obtain ⟨rest, hrest⟩ := hbegin
        obtain ⟨hc, htail⟩ := List.cons.inj hrest
        obtain ⟨hd, -⟩ := List.cons.inj htail
        exact hs.1 ⟨s, by rw [← hc, ← hd]; rfl⟩
    · refine ih hs.2 fun hmeet => hst ⟨?_, hmeet.2⟩
      rw [List.getLast?_cons, hmeet.1]
      rfl

/-- The first reference after a text without any is found where it was. -/
lemma breakOn?_opening_append (hs : ¬opening <:+: s) (hst : ¬Straddles s t) :
    breakOn? opening (s ++ t) = (breakOn? opening t).map fun p => (s ++ p.1, p.2) := by
  cases hbreak : breakOn? opening t with
  | none =>
    have ht := breakOn?_eq_none_iff.1 hbreak
    exact breakOn?_eq_none_iff.2 (not_infix_append hs ht hst)
  | some p =>
    obtain ⟨before, after⟩ := p
    obtain ⟨rfl, hbefore⟩ := (breakOn?_eq_some_iff (by decide)).1 hbreak
    have hmeet : ¬Straddles s before := by
      rintro ⟨hlast, hhead⟩
      refine hst ⟨hlast, ?_⟩
      rw [List.head?_append, hhead]
      rfl
    have hlead := not_infix_append hs hbefore hmeet
    rw [← List.append_assoc]
    exact breakOn?_append (by decide) hlead after

/-! ## Parts before parts -/

/-- Parts before others; a literal at the end goes on in one at the beginning. -/
def fuse : List Segment → List Segment → List Segment
  | [], t => t
  | [.literal a], .literal b :: t => .literal (a ++ b) :: t
  | s :: ss, t => s :: fuse ss t

/-- Parts before others are expanded one after the other. -/
lemma expandSegments_fuse (v : Version) (ss ts : List Segment) :
    expandSegments v (fuse ss ts) = (expandSegments v ss).bind fun first =>
      (expandSegments v ts).map (first ++ ·) := by
  fun_induction fuse ss ts with
  | case1 ts =>
    change _ = (expandSegments v ts).map fun text => text
    cases expandSegments v ts <;> rfl
  | case2 a b ts =>
    change (expandSegments v ts).map (a ++ b ++ ·) =
      ((expandSegments v ts).map (b ++ ·)).map (a ++ [] ++ ·)
    cases expandSegments v ts <;> simp [Except.map]
  | case3 s ss ts _ ih =>
    cases hs : s.value? v with
    | none =>
      obtain ⟨ms, rfl⟩ := exists_of_value?_eq_none hs
      rw [expandSegments_of_none hs, expandSegments_of_none hs]
      rfl
    | some head =>
      rw [expandSegments_cons hs, expandSegments_cons hs, ih]
      cases expandSegments v ss with
      | error e => rfl
      | ok text => cases expandSegments v ts <;> simp [Except.bind, Except.map]

/-- A literal goes on in one after it, if no other literal follows. -/
lemma fuse_literalPart (s t : List Char) (ts : List Segment)
    (h : ∀ text rest, ts ≠ .literal text :: rest) :
    fuse (literalPart s) (literalPart t ++ ts) = literalPart (s ++ t) ++ ts := by
  cases s with
  | nil => rfl
  | cons c s =>
    cases t with
    | cons d t => rfl
    | nil =>
      rw [List.append_nil]
      cases ts with
      | nil => rfl
      | cons t ts =>
        cases t with
        | literal text => exact absurd rfl (h text ts)
        | version ms => rfl

/-- Nothing goes on over a reference. -/
lemma fuse_version (s : List Char) (ms : List Method) (ss ts : List Segment) :
    fuse (literalPart s ++ .version ms :: ss) ts = literalPart s ++ .version ms :: fuse ss ts := by
  cases s <;> rfl

/-! ## Reading -/

/-- What is read after the opening of a reference. -/
def afterOpening (source : String) (s : List Char) : Except TemplateError (List Segment) :=
  match splitFirst? '\x7d' s with
  | none => .error (.unterminated source)
  | some (expr, rest) => (readReference source expr).bind fun ms =>
      (segmentsOf source rest).map (.version ms :: ·)

/-- What stands before the first reference is a literal. -/
lemma segmentsOf_of_breakOn? (h : breakOn? opening s = some (before, after)) :
    segmentsOf source s = (afterOpening source after).map (literalPart before ++ ·) := by
  rw [segmentsOf]
  split
  · next hnone =>
    rw [h] at hnone
    cases hnone
  · next before' after' hsome =>
    obtain ⟨rfl, rfl⟩ : before = before' ∧ after = after' := by simpa [h] using hsome
    split
    · next hclose =>
      have hread : afterOpening source after = .error (.unterminated source) := by
        rw [afterOpening, hclose]
      rw [hread]
      rfl
    · next expr rest hclose =>
      have hread : afterOpening source after = (readReference source expr).bind fun ms =>
          (segmentsOf source rest).map (.version ms :: ·) := by
        rw [afterOpening, hclose]
      rw [hread]
      cases readReference source expr with
      | error e => rfl
      | ok ms => cases segmentsOf source rest <;> rfl

/-- What is read after an opening begins with the reference. -/
lemma exists_of_afterOpening (h : afterOpening source s = .ok segments) :
    ∃ ms rest, segments = .version ms :: rest := by
  unfold afterOpening at h
  split at h
  · cases h
  · next expr rest _ =>
    cases hms : readReference source expr with
    | error e =>
      rw [hms] at h
      cases h
    | ok ms =>
      rw [hms] at h
      obtain ⟨found, -, rfl⟩ := map_eq_ok_iff.1 h
      exact ⟨ms, found, rfl⟩

/-- A literal before a text goes on in what is read from the text. -/
lemma segmentsOf_literal_append (hs : ¬opening <:+: s) (hst : ¬Straddles s t) :
    segmentsOf source (s ++ t) = (segmentsOf source t).map (fuse (literalPart s)) := by
  have happend := breakOn?_opening_append hs hst
  cases hbreak : breakOn? opening t with
  | none =>
    rw [hbreak] at happend
    have hboth : segmentsOf source (s ++ t) = .ok (literalPart (s ++ t)) :=
      segmentsOf_of_not_infix (breakOn?_eq_none_iff.1 happend)
    have hright : segmentsOf source t = .ok (literalPart t) :=
      segmentsOf_of_not_infix (breakOn?_eq_none_iff.1 hbreak)
    have hfuse := fuse_literalPart s t [] (by simp)
    rw [List.append_nil, List.append_nil] at hfuse
    rw [hboth, hright]
    exact congrArg Except.ok hfuse.symm
  | some p =>
    obtain ⟨before, after⟩ := p
    rw [hbreak] at happend
    rw [segmentsOf_of_breakOn? happend, segmentsOf_of_breakOn? hbreak]
    cases hread : afterOpening source after with
    | error e => rfl
    | ok found =>
      obtain ⟨ms, rest, rfl⟩ := exists_of_afterOpening hread
      have hfuse := fuse_literalPart s before (.version ms :: rest) (by simp)
      exact congrArg Except.ok hfuse.symm

/-- What is read from a text goes on in what is read from the text after it. -/
lemma segmentsOf_append_fuse (h : segmentsOf source s = .ok segments) (hst : ¬Straddles s t) :
    segmentsOf source (s ++ t) = (segmentsOf source t).map (fuse segments) := by
  fun_induction segmentsOf source s generalizing segments with
  | case1 s hopen =>
    obtain rfl := Except.ok.inj h
    exact segmentsOf_literal_append (breakOn?_eq_none_iff.1 hopen) hst
  | case2 => cases h
  | case3 => cases h
  | case4 => cases h
  | case5 s lead after hopen expr rest hclose ms hms _ segments' hrest ih =>
    obtain rfl := Except.ok.inj h
    obtain ⟨rfl, hlead⟩ := (breakOn?_eq_some_iff (by decide)).1 hopen
    obtain ⟨rfl, hexpr⟩ := splitFirst?_eq_some_iff.1 hclose
    have hmeet : ¬Straddles rest t := by
      rintro ⟨hlast, hhead⟩
      refine hst ⟨?_, hhead⟩
      simp [List.getLast?_append, List.getLast?_cons, hlast]
    have hsplit : lead ++ (opening ++ (expr ++ '\x7d' :: rest)) ++ t =
        lead ++ (opening ++ (expr ++ '\x7d' :: (rest ++ t))) := by simp
    have hread := segmentsOf_append hlead hexpr hms (rest ++ t)
    rw [ih hrest hmeet] at hread
    change segmentsOf source (lead ++ (opening ++ (expr ++ '\x7d' :: rest)) ++ t) = _
    rw [hsplit, hread]
    cases segmentsOf source t with
    | error e => rfl
    | ok found => exact congrArg Except.ok (fuse_version lead ms segments' found).symm

/-- What is read from a text is the same in every template. -/
lemma segmentsOf_eq_ok_congr (source source' : String) :
    segmentsOf source s = .ok segments ↔ segmentsOf source' s = .ok segments := by
  rw [segmentsOf_eq_ok_iff, segmentsOf_eq_ok_iff]

/-- A template before a text is a template exactly if the text is one, whose parts go on from the
first ones. -/
lemma parse_append_eq_ok_iff {a b : String} {t w : Template} (ha : parse a = .ok t)
    (hab : ¬Straddles a.toList b.toList) : parse (a ++ b) = .ok w ↔
      ∃ u, parse b = .ok u ∧ w = ⟨a ++ b, fuse t.segments u.segments⟩ := by
  obtain ⟨segments, hsegments, rfl⟩ := map_eq_ok_iff.1 ha
  have hfirst := (segmentsOf_eq_ok_congr a (a ++ b)).1 hsegments
  rw [parse, String.toList_append, segmentsOf_append_fuse hfirst hab, map_eq_ok_iff]
  constructor
  · rintro ⟨_, hfused, rfl⟩
    obtain ⟨found, hfound, rfl⟩ := map_eq_ok_iff.1 hfused
    have hsecond := (segmentsOf_eq_ok_congr (a ++ b) b).1 hfound
    exact ⟨⟨b, found⟩, map_eq_ok_iff.2 ⟨found, hsecond, rfl⟩, rfl⟩
  · rintro ⟨u, hu, rfl⟩
    obtain ⟨found, hfound, rfl⟩ := map_eq_ok_iff.1 hu
    have hsecond := (segmentsOf_eq_ok_congr b (a ++ b)).1 hfound
    exact ⟨_, map_eq_ok_iff.2 ⟨found, hsecond, rfl⟩, rfl⟩

/-- A template before a text with no opening where they meet is a template exactly if the text is
one. For a version it is expanded to the text of the first template and that of the second after it;
if the first has no text, its fault is told, and otherwise that of the second. -/
theorem parse_and_expand_append {a b : String} {t : Template} (ha : parse a = .ok t)
    (hab : ¬(a.toList.getLast? = some '#' ∧ b.toList.head? = some '\x7b')) :
    ((∃ w, parse (a ++ b) = .ok w) ↔ ∃ u, parse b = .ok u) ∧
    ∀ u w, parse b = .ok u → parse (a ++ b) = .ok w → ∀ v : Version,
      w.expand v = do
        let first ← t.expand v
        let second ← u.expand v
        return first ++ second := by
  constructor
  · constructor
    · rintro ⟨w, hw⟩
      obtain ⟨u, hu, -⟩ := (parse_append_eq_ok_iff ha hab).1 hw
      exact ⟨u, hu⟩
    · rintro ⟨u, hu⟩
      exact ⟨_, (parse_append_eq_ok_iff ha hab).2 ⟨u, hu, rfl⟩⟩
  · intro u w hu hw v
    obtain ⟨u', hu', rfl⟩ := (parse_append_eq_ok_iff ha hab).1 hw
    obtain rfl : u = u' := Except.ok.inj (hu.symm.trans hu')
    rw [expand, expandSegments_fuse, expand, expand]
    cases expandSegments v t.segments with
    | error e => rfl
    | ok first =>
      cases expandSegments v u.segments with
      | error e => rfl
      | ok second => exact congrArg Except.ok String.ofList_append

/-- A template that ends with a number sign. -/
def signLast : String := "v#\x7bversion.major\x7d#"

/-- A template with a number sign after a brace, and a reference that may stand for nothing. -/
def braceFirst : String := "-\x7b#\x7bversion.minor\x7d"

/-- A number sign at the end of the first template, which goes on in a literal of the second, and a
reference of the second that stands for nothing. -/
theorem parse_and_expand_append_sign :
    ∃ t u w, parse signLast = .ok t ∧ parse braceFirst = .ok u ∧
      parse (signLast ++ braceFirst) = .ok w ∧
      w.segments = [.literal ['v'], .version [.major], .literal ['#', '-', '\x7b'],
        .version [.minor]] ∧
      t.expand ⟨"7"⟩ = .ok "v7#" ∧ u.expand ⟨"7"⟩ = .error (.noValue "version.minor" "7") ∧
      w.expand ⟨"7"⟩ = .error (.noValue "version.minor" "7") := by
  have ha : parse signLast =
      .ok ⟨signLast, [.literal ['v'], .version [.major], .literal ['#']]⟩ := by
    decide +kernel
  have hb : parse braceFirst =
      .ok ⟨braceFirst, [.literal ['-', '\x7b'], .version [.minor]]⟩ := by
    decide +kernel
  obtain ⟨hparse, hexpand⟩ := parse_and_expand_append (b := braceFirst) ha (by decide)
  have hw : parse (signLast ++ braceFirst) =
      .ok ⟨signLast ++ braceFirst,
        [.literal ['v'], .version [.major], .literal ['#', '-', '\x7b'], .version [.minor]]⟩ := by
    decide +kernel
  refine ⟨_, _, _, ha, hb, hw, rfl, by decide, by decide, ?_⟩
  rw [hexpand _ _ hb hw]
  decide

end Template

end CaskAudit
