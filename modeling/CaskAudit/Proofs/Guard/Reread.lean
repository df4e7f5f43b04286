import CaskAudit.Proofs.Guard.RoundTrip

/-!
# Guards that are read and written again

A guard that has been read is reported in the syntax of manifests. The release of a comparison is
then written as a symbol, so it has to be an identifier. The reader takes strings and numbers for
releases too, and keeps those that it does not know: `ofText_render_eq_self_iff` says that a guard
which has been read is read back from its text exactly if each of its releases is an identifier.

Where one is not, the text is followed up to the first of them. It is cut off as a shorter symbol or
is no symbol at all (`misreads_release`), and so the releases that are found are not those that were
written, whatever follows (`Misreads`).
-/

namespace CaskAudit.Guard

open Lexeme Text

/-! ## The releases of a guard -/

mutual

/-- The releases that a guard compares with, from left to right. -/
def releases : Guard → List String
  | .release _ token => [token]
  | .capability _ => []
  | .not g => releases g
  | .all gs => allReleases gs
  | .any gs => allReleases gs

/-- The releases that several guards compare with, from left to right. -/
def allReleases : List Guard → List String
  | [] => []
  | g :: gs => releases g ++ allReleases gs

end

/-- The releases that the guards of a phrase compare with. -/
def Phrase.releases : Phrase → List String
  | .operands _ gs => allReleases gs
  | .junction _ g => g.releases
  | .unary g => g.releases
  | .primary g => g.releases

/-- The release that a comparison keeps of a lexeme: without blanks around it and one colon before
it. -/
def keptRelease? (l : Lexeme) : Option String :=
  (releaseName? l).map fun name => String.ofList (dropOne ':' (trim name.toList))

/-- The releases among the lexemes of a phrase are those of its guards. -/
lemma Derives.releases_eq {ls : List Lexeme} {p : Phrase} (h : Derives ls p) :
    ls.filterMap keptRelease? = p.releases := by
  induction h with
  | @last k _ _ _ ih =>
    rw [ih]
    cases k <;> simp [Phrase.releases, Connective.operand, allReleases]
  | @more k _ _ _ _ _ _ ih₁ ih₂ =>
    rw [List.filterMap_append, List.filterMap_cons_none rfl, ih₁, ih₂]
    cases k <;> rfl
  | single _ ih => simpa [Phrase.releases, allReleases] using ih
  | @several k _ _ _ _ ih =>
    rw [ih]
    cases k <;> rfl
  | not _ ih => exact ih
  | plain _ ih => exact ih
  | parentheses _ ih =>
    rw [List.filterMap_cons_none rfl, List.filterMap_append, ih]
    exact List.append_nil _
  | @release _ name _ _ l _ _ hn =>
    have hl : keptRelease? l = some (String.ofList (dropOne ':' (trim name.toList))) := by
      rw [keptRelease?, releaseName?_eq_some_iff.2 hn]
      rfl
    rw [List.filterMap_cons_none rfl, List.filterMap_cons_none rfl, List.filterMap_cons_some hl]
    rfl
  | capability => rfl

/-- An identifier is kept as it is. -/
lemma keptRelease?_symbol {token : String} (h : isIdentifier token = true) :
    keptRelease? (.symbol token) = some token := by
  have := ofComparison_of_isIdentifier .eq h
  rw [ofComparison, Guard.release.injEq] at this
  exact congrArg some this.2

/-- The beginning of a text up to the end of its first word is an identifier. -/
lemma isIdentifier_takeWhile {s : List Char} (h : startsWord s = true) :
    isIdentifier (String.ofList (s.takeWhile isWordPart)) = true := by
  cases s with
  | nil => simp [startsWord] at h
  | cons c s =>
    have hc : isWordPart c = true := by
      simp only [startsWord, isWordStart, Bool.or_eq_true] at h
      simp only [isWordPart, Char.isAlphanum, Bool.or_eq_true]
      exact h.imp_left .inl
    have hall : ((c :: s).takeWhile isWordPart).all isWordPart = true := List.all_takeWhile
    rw [isIdentifier, String.toList_ofList, hall, List.takeWhile_cons_of_pos hc, Bool.and_true]
    exact h

/-! ## Texts that are misread -/

/-- However a text goes on, the releases that are found in it do not begin with the given ones; and
it begins with no equality sign. -/
structure Misreads (s : String) (tokens : List String) : Prop where
  head : ∃ c cs, s.toList = c :: cs ∧ c ≠ '='
  differs : ∀ {t : List Char} {ms : List Lexeme}, Scans (s.toList ++ t) ms →
    ¬tokens <+: ms.filterMap keptRelease?

/-- A colon before anything but a word is not cut into lexemes. -/
lemma not_scans_colon {s : List Char} (h : startsWord s = false) (ms : List Lexeme) :
    ¬Scans (':' :: s) ms := by
  have hn := next_colon_eq_error h
  intro hs
  cases hs with
  | skip hn' _ => simp [hn] at hn'
  | cons hn' _ => simp [hn] at hn'

/-- The text of a comparison with anything but an identifier is misread. -/
lemma misreads_release (op : Comparison) {token : String} (h : isIdentifier token = false) :
    Misreads ("MacOS.release " ++ op.symbol ++ " :" ++ token) [token] := by
  refine ⟨⟨'M', "acOS.release ".toList ++ (op.symbol ++ " :" ++ token).toList, by simp, by decide⟩,
    fun {t ms} hs hp => ?_⟩
  have hsplit : ("MacOS.release " ++ op.symbol ++ " :" ++ token).toList ++ t =
      ("MacOS.release " ++ op.symbol ++ " ").toList ++ ':' :: (token.toList ++ t) := by
    simp
  rw [hsplit, scans_release_iff] at hs
  obtain ⟨ns, rfl, hs⟩ := hs
  rw [List.filterMap_cons_none rfl, List.filterMap_cons_none rfl] at hp
  cases hstart : startsWord (token.toList ++ t) with
  | false => exact not_scans_colon hstart ns hs
  | true =>
    rw [scans_cons_iff (next_colon hstart)] at hs
    obtain ⟨ns, rfl, -⟩ := hs
    have hname := isIdentifier_takeWhile hstart
    rw [List.filterMap_cons_some (keptRelease?_symbol hname), List.cons_prefix_cons] at hp
    rw [hp.1, hname] at h
    exact absurd h (by decide)

/-- A negation of what is misread is misread. -/
lemma Misreads.not {s : String} {tokens : List String} (h : Misreads s tokens) :
    Misreads ("!" ++ s) tokens := by
  obtain ⟨c, cs, hs, hc⟩ := h.head
  have hs' : ("!" ++ s).toList = '!' :: s.toList := by simp
  refine ⟨⟨_, _, hs', by decide⟩, fun {t ms} hscans => ?_⟩
  have hsign : ∃ ns, ms = .operator .not :: ns ∧ Scans (s.toList ++ t) ns := by
    rw [hs', hs] at hscans
    rw [hs]
    exact (scans_cons_iff (next_not hc _)).1 hscans
  obtain ⟨ns, rfl, hns⟩ := hsign
  rw [List.filterMap_cons_none rfl]
  exact h.differs hns

/-- What is misread is misread in parentheses. -/
lemma Misreads.parentheses {s : String} {tokens : List String} (h : Misreads s tokens) :
    Misreads ("(" ++ s ++ ")") tokens := by
  have hs : ("(" ++ s ++ ")").toList = '(' :: (s.toList ++ [')']) := by simp
  refine ⟨⟨_, _, hs, by decide⟩, fun {t ms} hscans => ?_⟩
  have hopen : next '(' (s.toList ++ ')' :: t) = .ok (some .openParen, s.toList ++ ')' :: t) := rfl
  have htext : ("(" ++ s ++ ")").toList ++ t = '(' :: (s.toList ++ ')' :: t) := by simp
  rw [htext, scans_cons_iff hopen] at hscans
  obtain ⟨ns, rfl, hns⟩ := hscans
  rw [List.filterMap_cons_none rfl]
  exact h.differs hns

/-- What is misread is misread with more after it. -/
lemma Misreads.append {s : String} {tokens : List String} (h : Misreads s tokens) (s' : String)
    (tokens' : List String) : Misreads (s ++ s') (tokens ++ tokens') := by
  obtain ⟨c, cs, hs, hc⟩ := h.head
  refine ⟨⟨c, cs ++ s'.toList, by simp [hs], hc⟩, fun {t ms} hscans hp => ?_⟩
  rw [String.toList_append, List.append_assoc] at hscans
  exact h.differs hscans ((List.prefix_append tokens tokens').trans hp)

/-- What is misread is misread after what is not. -/
lemma Misreads.join {s s' : String} {ls : List Lexeme} {tokens : List String} (k : Connective)
    (h : Cuts s ls) (h' : Misreads s' tokens) :
    Misreads (s ++ k.separator ++ s') (ls.filterMap keptRelease? ++ tokens) := by
  obtain ⟨c, cs, hs, hc⟩ := h.head
  refine ⟨⟨c, cs ++ (k.separator ++ s').toList, by simp [hs], hc⟩, fun {t ms} hscans hp => ?_⟩
  obtain ⟨d, ds, hk, hn⟩ := k.separator_eq
  have hsep : (s ++ k.separator ++ s').toList ++ t =
      s.toList ++ ' ' :: d :: (ds ++ (s'.toList ++ t)) := by
    simp [hk]
  rw [hsep, h.scans_iff rfl] at hscans
  simp only [scans_space_iff, scans_cons_iff (hn _)] at hscans
  obtain ⟨-, rfl, ns, rfl, hns⟩ := hscans
  rw [List.filterMap_append, List.filterMap_cons_none rfl, List.prefix_append_right_inj] at hp
  exact h'.differs hns hp

/-! ## Guards that have been read -/

mutual

/-- A guard whose junctions join several operands is what it collapses to. -/
lemma collapse_of_branches : ∀ {g : Guard}, Branches g → collapse g = g
  | .release _ _, _ => by rw [collapse]
  | .capability _, _ => by rw [collapse]
  | .not g, h => by rw [collapse, collapse_of_branches (g := g) h]
  | .all gs, ⟨hl, h⟩ => by
    rw [collapse_all, collapseAll_of_allBranch h]
    exact junction_of_two_le .and hl
  | .any gs, ⟨hl, h⟩ => by
    rw [collapse_any, collapseAll_of_allBranch h]
    exact junction_of_two_le .or hl

/-- Guards whose junctions join several operands are what they collapse to. -/
lemma collapseAll_of_allBranch : ∀ {gs : List Guard}, AllBranch gs → collapseAll gs = gs
  | [], _ => rfl
  | g :: gs, h => by
    rw [collapseAll, collapse_of_branches h.1, collapseAll_of_allBranch h.2]

end

mutual

/-- A guard whose junctions join several operands and whose releases are identifiers can be
written. -/
lemma writable_of_branches : ∀ {g : Guard}, Branches g →
    (∀ token ∈ releases g, isIdentifier token = true) → Writable g
  | .release _ token, _, ht => ht token List.mem_cons_self
  | .capability _, _, _ => trivial
  | .not g, h, ht => writable_of_branches (g := g) h ht
  | .all gs, ⟨hl, h⟩, ht => ⟨by rintro rfl; simp at hl, allWritable_of_allBranch h ht⟩
  | .any gs, ⟨hl, h⟩, ht => ⟨by rintro rfl; simp at hl, allWritable_of_allBranch h ht⟩

/-- Guards whose junctions join several operands and whose releases are identifiers can be
written. -/
lemma allWritable_of_allBranch : ∀ {gs : List Guard}, AllBranch gs →
    (∀ token ∈ allReleases gs, isIdentifier token = true) → AllWritable gs
  | [], _, _ => trivial
  | _ :: _, h, ht =>
    ⟨writable_of_branches h.1 fun token hm => ht token (List.mem_append_left _ hm),
      allWritable_of_allBranch h.2 fun token hm => ht token (List.mem_append_right _ hm)⟩

end

/-- What is misread is misread as an operand. -/
lemma Misreads.wrap {g : Guard} {s : String} {tokens : List String} (h : Misreads s tokens) :
    Misreads (wrap g s) tokens := by
  unfold Guard.wrap
  split
  · exact h.parentheses
  · exact h

mutual

/-- A guard with a release that is no identifier is misread. -/
lemma misreads_render : ∀ {g : Guard}, Branches g →
    (∃ token ∈ releases g, isIdentifier token = false) → Misreads (render g) (releases g)
  | .release op token, _, ⟨_, hm, ht⟩ => by
    obtain rfl := List.mem_singleton.1 hm
    exact misreads_release op ht
  | .capability _, _, ⟨_, hm, _⟩ => absurd hm List.not_mem_nil
  | .not g, h, ht => (misreads_render (g := g) h ht).wrap.not
  | .all gs, ⟨_, h⟩, ht => misreads_renderOperands .and h ht
  | .any gs, ⟨_, h⟩, ht => misreads_renderOperands .or h ht

/-- Operands with a release among them that is no identifier are misread. -/
lemma misreads_renderOperands (k : Connective) : ∀ {gs : List Guard}, AllBranch gs →
    (∃ token ∈ allReleases gs, isIdentifier token = false) →
    Misreads (k.separator.intercalate (renderOperands gs)) (allReleases gs)
  | [], _, ⟨_, hm, _⟩ => absurd hm List.not_mem_nil
  | [g], h, ht => by
    rw [allReleases, allReleases, List.append_nil] at ht ⊢
    rw [intercalate_renderOperands_singleton]
    exact (misreads_render h.1 ht).wrap
  | g :: g' :: gs, h, ⟨token, hm, ht⟩ => by
    rw [intercalate_renderOperands_cons_cons]
    by_cases hg : ∃ token ∈ releases g, isIdentifier token = false
    · rw [String.append_assoc]
      exact (misreads_render h.1 hg).wrap.append _ _
    · have hid : ∀ token ∈ releases g, isIdentifier token = true := by
        simpa using hg
      obtain ⟨ls, hd, hc⟩ := (writes_render (writable_of_branches h.1 hid)).1
      have hls : ls.filterMap keptRelease? = releases g := by
        rw [hd.releases_eq, collapse_of_branches h.1]
        rfl
      have hm' : token ∈ allReleases (g' :: gs) := by
        rcases List.mem_append.1 hm with hm | hm
        · exact absurd (hid token hm) (by simp [ht])
        · exact hm
      have hall : allReleases (g :: g' :: gs) = releases g ++ allReleases (g' :: gs) := rfl
      rw [hall, ← hls]
      exact .join k hc (misreads_renderOperands k h.2 ⟨token, hm', ht⟩)

end

/-- A text that is read as a guard is cut into lexemes that form it. -/
lemma derives_of_ofText {line : Nat} {text : String} {g : Guard} (h : ofText line text = .ok g) :
    ∃ found, scan text = .ok found ∧ Derives (significant found) (.junction .or g) := by
  cases hs : scan text with
  | error e => simp [ofText, hs] at h
  | ok found => exact ⟨found, rfl, (ofText_eq_ok_iff hs).1 h⟩

/-- A guard that has been read is read back from its text, on any line, exactly if each of its
releases is an identifier. -/
theorem ofText_render_eq_self_iff {line : Nat} {text : String} {g : Guard}
    (h : ofText line text = .ok g) (line' : Nat) :
    ofText line' g.render = .ok g ↔ ∀ token ∈ g.releases, isIdentifier token = true := by
  obtain ⟨_, -, hderives⟩ := derives_of_ofText h
  have hg : g.Branches := hderives.branches
  constructor
  · intro hr token hm
    refine Bool.of_not_eq_false fun ht => ?_
    obtain ⟨found, hs, hd⟩ := derives_of_ofText hr
    have hscans : Scans (g.render.toList ++ []) (found.map Placed.lexeme) := by
      rw [List.append_nil]
      exact scans_of_scanFrom hs
    have hfound : (found.map Placed.lexeme).filterMap keptRelease? = g.releases := by
      have hkept : (significant found).filterMap keptRelease? = g.releases := hd.releases_eq
      rw [← hkept, significant, List.filterMap_filter]
      congr 1
      funext l
      cases l <;> rfl
    have hprefix : g.releases <+: (found.map Placed.lexeme).filterMap keptRelease? := by
      simp only [hfound, List.prefix_rfl]
    exact (misreads_render hg ⟨token, hm, ht⟩).differs hscans hprefix
  · intro hall
    have hr := (writes_render (writable_of_branches hg hall)).2.ofText_eq line'
    rwa [collapse_of_branches hg] at hr

/-- A release that is not known but is an identifier is read back, though it was a string. -/
theorem ofText_render_identifier :
    ofText 1 "MacOS.release >= 'os_27'" = .ok (.release .ge "os_27") ∧
    ofText 2 "MacOS.release >= :os_27" = .ok (.release .ge "os_27") := by
  have hsplit : "MacOS.release >= 'os_27'".toList =
      ("MacOS.release " ++ Comparison.ge.symbol ++ " ").toList ++
        '\'' :: (escaped "os_27".toList ++ ['\'']) := by
    decide
  have hs : Scans "MacOS.release >= 'os_27'".toList
      [.word "MacOS.release", .operator .ge, .text "os_27"] := by
    rw [hsplit, scans_release_iff]
    exact ⟨_, rfl, .cons (next_quoted (by decide) _ []) .nil⟩
  have hd : Derives [.word "MacOS.release", .operator .ge, .text "os_27"]
      (.unary (.release .ge "os_27")) :=
    .plain (@Derives.release _ "os_27" _ .ge _ (.inl rfl) rfl (.unknownText (by decide)))
  have h := hd.conjunction.disjunction.ofText_eq hs 1
  have hrender : (Guard.release .ge "os_27").render = "MacOS.release >= :os_27" := by decide
  refine ⟨h, ?_⟩
  rw [← hrender]
  exact (ofText_render_eq_self_iff h 2).2 (by decide)

/-- A release that is not known is kept as a number, and the guard is well formed; but its text
cannot be read. -/
theorem ofText_render_unknown_number :
    ofText 1 "MacOS.release == 10.99" = .ok (.release .eq "10.99") ∧
    (Guard.release .eq "10.99").validate = .ok () ∧
    (Guard.release .eq "10.99").render = "MacOS.release == :10.99" ∧
    ∀ g, ofText 1 "MacOS.release == :10.99" ≠ .ok g := by
  refine ⟨?_, rfl, by decide, fun g hg => ?_⟩
  · have hsplit : "MacOS.release == 10.99".toList =
        ("MacOS.release " ++ Comparison.eq.symbol ++ " ").toList ++ '1' :: "0.99".toList := by
      decide
    have hs : Scans "MacOS.release == 10.99".toList
        [.word "MacOS.release", .operator .eq, .number "10.99"] := by
      rw [hsplit, scans_release_iff]
      exact ⟨_, rfl, .cons rfl .nil⟩
    have hd : Derives [.word "MacOS.release", .operator .eq, .number "10.99"]
        (.unary (.release .eq "10.99")) :=
      .plain (@Derives.release _ "10.99" _ .eq _ (.inl rfl) rfl (.unknownNumber (by decide)))
    exact hd.conjunction.disjunction.ofText_eq hs 1
  · have hsplit : "MacOS.release == :10.99".toList =
        ("MacOS.release " ++ Comparison.eq.symbol ++ " ").toList ++ ':' :: "10.99".toList := by
      decide
    obtain ⟨found, hs, -⟩ := derives_of_ofText hg
    have hscans := scans_of_scanFrom hs
    rw [hsplit, scans_release_iff] at hscans
    obtain ⟨ns, -, hns⟩ := hscans
    exact not_scans_colon (by decide) ns hns

end CaskAudit.Guard
