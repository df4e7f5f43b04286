import CaskAudit.Proofs.Manifest.Selection
import CaskAudit.Proofs.Source.Refusals
import CaskAudit.Proofs.Source.Unambiguous

/-!
# The shape of manifests

A definition has one composition, and its conditional gives the clauses: one with a guard for each
branch with a condition, in their order, and one without a guard for the `else`, if there is one.
Without a conditional there is a single clause, for all hosts (`shape_of_parse`). So a definition
never fails for having no clauses or too many without a guard: what is refused before the manifest
is built is told as another fault (`IsEarly`), and the clauses that it is built of are neither.
-/

namespace CaskAudit

/-! ## Faults that are told before a manifest is built -/

/-- A result is no fault of a manifest as a whole. -/
def IsEarly {α : Type} (x : Except SourceError α) : Prop := ∀ e, x ≠ .error (.manifest e)

section

variable {α β : Type} {x : Except SourceError α}

/-- What is refused for nothing that is a fault of a manifest is refused for none. -/
lemma Fails.isEarly {E : SourceError → Prop} (hx : Fails E x)
    (hE : ∀ e, E e → ∀ m, e ≠ .manifest m) : IsEarly x :=
  fun m h => hE _ (hx _ h) m rfl

/-- A fault of a manifest comes from what goes on after a result that is none. -/
lemma IsEarly.exists_of_bind {f : α → Except SourceError β} (hx : IsEarly x) {e : ManifestError}
    (h : x.bind f = .error (.manifest e)) : ∃ a, x = .ok a ∧ f a = .error (.manifest e) := by
  cases x with
  | error e' => exact absurd (congrArg Except.error (Except.error.inj h)) (hx e)
  | ok a => exact ⟨a, rfl, h⟩

end

namespace Definition

open Statement (ofLexemes)

/-- What the opening line is refused for is told before the manifest is built. -/
lemma isEarly_readOpeningLine (last : Nat) (ls : List Placed) :
    IsEarly (readOpeningLine last ls) := by
  have hfails : Fails _ (readOpeningLine last ls) :=
    fails_readOpeningLine (P := fun _ => True) trivial fun _ _ => trivial
  exact hfails.isEarly fun e he => he.ne_manifest

/-- So is what the statements are refused for. -/
lemma isEarly_readBody (last : Nat) (body : List Placed) : IsEarly (readBody last body) := by
  have hfails : Fails _ (readBody last body) :=
    fails_readBody (P := fun _ => True) trivial fun _ _ => trivial
  refine hfails.isEarly fun e he => ?_
  rcases he with hshape | ⟨st, hst⟩
  · exact hshape.ne_manifest
  · exact hst.refuses.ne_manifest

end Definition

/-! ## Faults of a manifest as a whole -/

namespace Manifest

variable {token : Token} {text : String} {outer : Declarations} {clauses : List Clause}
  {e : ManifestError}

/-- A clause is refused for its guard, or for a field that it misses. -/
lemma checkClauses_error_cases {n : Nat} (h : checkClauses token outer n clauses = .error e) :
    (∃ i g, e = .malformedGuard token i g) ∨ ∃ i field, e = .missingField token i field := by
  induction clauses generalizing n with
  | nil => cases h
  | cons c clauses ih =>
    rw [checkClauses] at h
    split at h
    · next hc =>
      rw [checkClause] at hc
      obtain rfl := Except.error.inj h
      split at hc
      · exact .inl ⟨_, _, (Except.error.inj hc).symm⟩
      · split at hc
        · exact .inr ⟨_, _, (Except.error.inj hc).symm⟩
        · split at hc
          · exact .inr ⟨_, _, (Except.error.inj hc).symm⟩
          · cases hc
    · exact ih h

/-- A description with clauses, of which one at most has no guard, is refused for neither. -/
lemma build_ne_error (hne : clauses ≠ []) (hone : clauses.countP Clause.isFallback ≤ 1) :
    build text outer clauses ≠ .error (.noClauses token) ∧
      build text outer clauses ≠ .error (.severalFallbacks token) := by
  have hcases : ∀ e, build text outer clauses = .error e →
      e = .emptyToken ∨ checkClauses (.ofText text) outer 0 clauses = .error e := by
    intro e h
    rw [build, if_neg (by simpa using hne : ¬clauses.isEmpty = true)] at h
    split at h
    · exact .inl (Except.error.inj h).symm
    · split at h
      · next hcheck => exact .inr (Except.error.inj h ▸ hcheck)
      · rw [if_neg (Nat.not_lt.2 hone)] at h
        cases h
  constructor
  · intro h
    rcases hcases _ h with h | h
    · cases h
    · rcases checkClauses_error_cases h with ⟨i, g, h⟩ | ⟨i, field, h⟩ <;> cases h
  · intro h
    rcases hcases _ h with h | h
    · cases h
    · rcases checkClauses_error_cases h with ⟨i, g, h⟩ | ⟨i, field, h⟩ <;> cases h

/-- A manifest with a single clause for all hosts says the same about each of them. -/
lemma resolve_eq_of_single {m : Manifest} {d : Declarations} (h : m.clauses = [.fallback d])
    (f f' : Facts) : m.resolve f = m.resolve f' := by
  have hselect : ∀ f, m.select f = .ok (.fallback 0, d) := by
    intro f
    have hfallback : m.fallback? = some (0, d) := by
      rw [fallback?, h]
      rfl
    rw [select, h, hfallback]
    rfl
  rw [resolve, hselect, resolve, hselect]

end Manifest

/-- The fields that may differ between releases do not describe the application as such. -/
lemma Declarations.descriptiveFields_releaseFields (d : Declarations) :
    d.releaseFields.descriptiveFields = .empty := rfl

/-- The fields that describe the application as such are none that may differ between releases. -/
lemma Declarations.hasReleaseFields_descriptiveFields (d : Declarations) :
    d.descriptiveFields.hasReleaseFields = false := rfl

namespace Definition

open Statement (ofLexemes)

/-! ## The clauses of a composition -/

variable {c : Composition} {outer : Declarations} {clauses : List Clause}

/-- What is related to something one by one has what everything has that is related so. -/
lemma forall_left_of_forall₂ {α β : Type} {R : α → β → Prop} {p : α → Prop} {l : List α}
    {l' : List β} (h : List.Forall₂ R l l') (hp : ∀ a b, R a b → p a) : ∀ a ∈ l, p a :=
  ((List.forall₂_and_left (R := R) l l').1 (h.imp fun a b hab => ⟨hp a b hab, hab⟩)).1

/-- The items of a conditional that gives clauses stand where they fit. -/
lemma Conditional.Gives.fits {c : Conditional} (h : c.Gives clauses) :
    ∀ i ∈ c.items, i.Fits branchReserved := by
  cases h with
  | intro hb ho =>
    have hbranches : ∀ b ∈ c.first :: c.others, ∀ i ∈ b.items, i.Fits branchReserved := by
      refine forall_left_of_forall₂ hb fun b clause hgives => ?_
      cases hgives with
      | intro hi _ _ => exact hi
    have hotherwise : ∀ o ∈ c.otherwise.toList, ∀ i ∈ o.2, i.Fits branchReserved := by
      refine forall_left_of_forall₂ ho fun o clause hgives => ?_
      cases hgives with
      | intro hi _ => exact hi
    intro i hi
    rcases List.mem_append.1 hi with hi | hi
    · exact hbranches c.first List.mem_cons_self i hi
    rcases List.mem_append.1 hi with hi | hi
    · obtain ⟨b, hb, hi⟩ := List.mem_flatMap.1 hi
      exact hbranches b (List.mem_cons_of_mem _ hb) i hi
    · obtain ⟨o, ho, hi⟩ := List.mem_flatMap.1 hi
      exact hotherwise o ho i hi

/-- The items of a composition that gives something stand where they fit. -/
lemma Composition.Gives.fits (h : c.Gives outer clauses) : c.Fits := by
  cases h with
  | plain hc hi _ =>
    refine ⟨?_, ?_⟩
    · simpa [hc] using hi
    · simp [hc]
  | conditional hc hi _ hg =>
    refine ⟨?_, ?_⟩
    · simpa [hc] using hi
    · simpa [hc] using hg.fits

/-- A conditional gives some clause, and one without a guard at most. -/
lemma Conditional.Gives.countP_le {c : Conditional} (h : c.Gives clauses) :
    clauses ≠ [] ∧ clauses.countP Clause.isFallback ≤ 1 := by
  cases h with
  | @intro guarded fallbacks hb ho =>
    have hguarded : ∀ clause ∈ guarded, ¬clause.isFallback = true := by
      refine forall_left_of_forall₂ hb.flip fun clause b hgives => ?_
      cases hgives with
      | intro _ _ _ => exact Bool.false_ne_true
    have hfallbacks : fallbacks.length ≤ 1 := by
      rw [← ho.length_eq]
      cases c.otherwise <;> simp
    constructor
    · intro hnil
      rw [(List.append_eq_nil_iff.1 hnil).1] at hb
      cases hb
    · rw [List.countP_append, List.countP_eq_zero.2 hguarded, Nat.zero_add]
      exact List.countP_le_length.trans hfallbacks

/-- A composition gives some clause, and one without a guard at most. -/
lemma Composition.Gives.countP_le (h : c.Gives outer clauses) :
    clauses ≠ [] ∧ clauses.countP Clause.isFallback ≤ 1 := by
  cases h with
  | plain _ _ _ => exact ⟨List.cons_ne_nil _ _, Nat.le_refl 1⟩
  | conditional _ _ _ hg => exact hg.countP_le

/-! ## Definitions that are accepted -/

/-- A text that gives a manifest has a composition that gives what the manifest declares. -/
lemma exists_gives_of_parse {src : String} {m : Manifest} (h : parse src = .ok m) :
    ∃ (ls body : List Placed) (token : String) (c : Composition),
      Lexeme.scan src = .ok ls ∧ readOpening ls = .ok (token, body) ∧
      ofLexemes body = c.statements ∧ c.Gives m.outer m.clauses := by
  obtain ⟨found, hfound, hm⟩ := exists_scans_of_parse h
  obtain ⟨⟨token, body⟩, hopening, hm⟩ := bind_eq_ok hm
  obtain ⟨⟨outer, clauses⟩, hbody, hm⟩ := bind_eq_ok hm
  obtain ⟨c, hstatements, hgives⟩ := exists_composition (Statement.unbroken_ofLexemes body) hbody
  cases hb : Manifest.build token outer clauses with
  | error e =>
    rw [hb] at hm
    cases hm
  | ok m' =>
    rw [hb] at hm
    cases hm
    obtain ⟨-, rfl⟩ := Manifest.build_eq_ok_iff.1 hb
    exact ⟨_, body, token, c, scan_eq_ok hfound, hopening, hstatements, hgives⟩

/-- What a manifest is refused for as a whole comes of building it from clauses of which one at most
has no guard. -/
lemma exists_build_of_parse_eq_error {src : String} {e : ManifestError}
    (h : parse src = .error (.manifest e)) :
    ∃ text outer clauses, clauses ≠ [] ∧ clauses.countP Clause.isFallback ≤ 1 ∧
      Manifest.build text outer clauses = .error e := by
  rcases parse_eq_error h with ⟨fault, -, hscan⟩ | ⟨ls, -, h⟩
  · cases hscan
  obtain ⟨⟨text, body⟩, -, h⟩ := (isEarly_readOpeningLine _ _).exists_of_bind h
  obtain ⟨⟨outer, clauses⟩, hbody, h⟩ := (isEarly_readBody _ _).exists_of_bind h
  obtain ⟨c, -, hgives⟩ := exists_composition (Statement.unbroken_ofLexemes body) hbody
  refine ⟨text, outer, clauses, hgives.countP_le.1, hgives.countP_le.2, ?_⟩
  cases hbuild : Manifest.build text outer clauses with
  | ok m =>
    rw [hbuild] at h
    cases h
  | error e' =>
    rw [hbuild] at h
    rw [SourceError.manifest.inj (Except.error.inj h)]

/-- A composition without a conditional gives a single clause. -/
lemma Composition.Gives.of_none (h : c.Gives outer clauses) (hc : c.conditional = none) :
    ∃ d, declareAll .empty c.before = .ok d ∧ outer = d.descriptiveFields ∧
      clauses = [.fallback d.releaseFields] := by
  cases h with
  | plain _ _ hd => exact ⟨_, hd, rfl, rfl⟩
  | conditional hsome _ _ _ => cases hc.symm.trans hsome

/-- A composition with a conditional gives a clause for each branch. -/
lemma Composition.Gives.of_some (h : c.Gives outer clauses) {cond : Conditional}
    {after : List Item} (hc : c.conditional = some (cond, after)) :
    declareAll .empty (c.before ++ after) = .ok outer ∧
      ∃ guarded fallbacks, clauses = guarded ++ fallbacks ∧
        List.Forall₂ Branch.Gives (cond.first :: cond.others) guarded ∧
        List.Forall₂ OtherwiseGives cond.otherwise.toList fallbacks := by
  cases h with
  | plain hnone _ _ => cases hc.symm.trans hnone
  | conditional hsome _ hd hg =>
    cases hc.symm.trans hsome
    cases hg with
    | intro hb ho => exact ⟨hd, _, _, rfl, hb, ho⟩

/-- A text that is accepted has one composition. If this has a conditional, the manifest has a
clause with a guard for each branch with a condition, in their order, and after them one without a
guard if there is an `else`; all fields outside the conditional are declared for every host. If it
has none, there is a single clause for all hosts, with the fields that may differ between releases
and no others, while the outer scope has the others, and the manifest says the same about every
host. No text is refused for having no clauses or several without a guard. -/
theorem shape_of_parse (src : String) :
    (∀ m, parse src = .ok m →
      ∃ (ls body : List Placed) (token : String),
        Lexeme.scan src = .ok ls ∧ readOpening ls = .ok (token, body) ∧
        (∃! c : Composition, c.Fits ∧ ofLexemes body = c.statements) ∧
        ∀ c : Composition, c.Fits → ofLexemes body = c.statements →
          (∀ cond after, c.conditional = some (cond, after) →
            declareAll .empty (c.before ++ after) = .ok m.outer ∧
            ∃ guarded fallbacks, m.clauses = guarded ++ fallbacks ∧
              List.Forall₂ Branch.Gives (cond.first :: cond.others) guarded ∧
              List.Forall₂ OtherwiseGives cond.otherwise.toList fallbacks) ∧
          (c.conditional = none →
            ∃ d, declareAll .empty c.before = .ok d ∧
              m.outer = d.descriptiveFields ∧ m.outer.hasReleaseFields = false ∧
              m.clauses = [.fallback d.releaseFields] ∧
              d.releaseFields.descriptiveFields = .empty ∧
              ∀ f f' : Facts, m.resolve f = m.resolve f')) ∧
    ∀ token, parse src ≠ .error (.manifest (.noClauses token)) ∧
      parse src ≠ .error (.manifest (.severalFallbacks token)) := by
  refine ⟨fun m hm => ?_, fun token => ⟨fun h => ?_, fun h => ?_⟩⟩
  · obtain ⟨ls, body, token, c, hscan, hopening, hstatements, hgives⟩ := exists_gives_of_parse hm
    have hunique : ∀ c' : Composition, c'.Fits → ofLexemes body = c'.statements → c' = c :=
      fun c' hfits' h' => Composition.eq_of_statements_eq hfits' hgives.fits (h' ▸ hstatements)
    refine ⟨ls, body, token, hscan, hopening,
      ⟨c, ⟨hgives.fits, hstatements⟩, fun c' h => hunique c' h.1 h.2⟩, fun c' hfits h' => ?_⟩
    obtain rfl := hunique c' hfits h'
    constructor
    · exact fun cond after hc => hgives.of_some hc
    · intro hc
      obtain ⟨d, hd, houter, hclauses⟩ := hgives.of_none hc
      exact ⟨d, hd, houter, houter ▸ d.hasReleaseFields_descriptiveFields, hclauses,
        d.descriptiveFields_releaseFields, Manifest.resolve_eq_of_single hclauses⟩
  · obtain ⟨text, outer, clauses, hne, hone, hbuild⟩ := exists_build_of_parse_eq_error h
    exact (Manifest.build_ne_error hne hone).1 hbuild
  · obtain ⟨text, outer, clauses, hne, hone, hbuild⟩ := exists_build_of_parse_eq_error h
    exact (Manifest.build_ne_error hne hone).2 hbuild

/-- A definition without a conditional. -/
def plainDefinition : String := "cask 'x' do\nversion '1'\nsha256 :no_check\nend"

/-- A definition with two branches and an `else`. -/
def threeBranches : String :=
  "cask 'x' do\nif MacOS.release == :lion\nversion '1'\n" ++
    "elsif Hardware::CPU.arm?\nversion '2'\nelse\nversion '3'\nend\nsha256 :no_check\nend"

/-- A definition without a conditional, and one with two branches and an `else`. -/
theorem shape_of_parse_branches :
    (∃ m, parse plainDefinition = .ok m ∧
      m.clauses.length = 1 ∧ ∀ f f' : Facts, m.resolve f = m.resolve f') ∧
    ∃ m, parse threeBranches = .ok m ∧
      m.clauses.map Clause.guard? = [some (.release .eq "lion"), some (.capability .arm), none] ∧
      ∃ (ls body : List Placed) (token : String),
        Lexeme.scan threeBranches = .ok ls ∧ readOpening ls = .ok (token, body) ∧
        ∃! c : Composition, c.Fits ∧ ofLexemes body = c.statements := by
  constructor
  · have hscan : Lexeme.scan plainDefinition =
        .ok [⟨.word "cask", 1⟩, ⟨.text "x", 1⟩, ⟨.word "do", 1⟩, ⟨.newline, 1⟩,
          ⟨.word "version", 2⟩, ⟨.text "1", 2⟩, ⟨.newline, 2⟩, ⟨.word "sha256", 3⟩,
          ⟨.symbol "no_check", 3⟩, ⟨.newline, 3⟩, ⟨.word "end", 4⟩] := by
      decide +kernel
    have hparse : parse plainDefinition =
        .ok ⟨⟨"x"⟩, .empty, [.fallback { Declarations.empty with
          version := some ⟨"1"⟩, checksum := some .noCheck }]⟩ := by
      rw [parse_eq, hscan]
      rfl
    obtain ⟨ls, body, token, hls, hopening, -, hshape⟩ := (shape_of_parse _).1 _ hparse
    obtain rfl := Except.ok.inj (hls.symm.trans hscan)
    obtain ⟨-, rfl⟩ := Prod.mk.inj (Except.ok.inj hopening)
    have hplain := (hshape
      ⟨[.stanza .version 2 [⟨.text "1", 2⟩], .stanza .sha256 3 [⟨.symbol "no_check", 3⟩]], none, 4⟩
      ⟨by simp [Item.Fits], by simp⟩ rfl).2 rfl
    obtain ⟨d, -, -, -, -, -, hresolve⟩ := hplain
    exact ⟨_, hparse, rfl, hresolve⟩
  · have hscan : Lexeme.scan threeBranches =
        .ok [⟨.word "cask", 1⟩, ⟨.text "x", 1⟩, ⟨.word "do", 1⟩, ⟨.newline, 1⟩, ⟨.word "if", 2⟩,
          ⟨.word "MacOS.release", 2⟩, ⟨.operator .eq, 2⟩, ⟨.symbol "lion", 2⟩, ⟨.newline, 2⟩,
          ⟨.word "version", 3⟩, ⟨.text "1", 3⟩, ⟨.newline, 3⟩, ⟨.word "elsif", 4⟩,
          ⟨.word "Hardware::CPU.arm?", 4⟩, ⟨.newline, 4⟩, ⟨.word "version", 5⟩, ⟨.text "2", 5⟩,
          ⟨.newline, 5⟩, ⟨.word "else", 6⟩, ⟨.newline, 6⟩, ⟨.word "version", 7⟩, ⟨.text "3", 7⟩,
          ⟨.newline, 7⟩, ⟨.word "end", 8⟩, ⟨.newline, 8⟩, ⟨.word "sha256", 9⟩,
          ⟨.symbol "no_check", 9⟩, ⟨.newline, 9⟩, ⟨.word "end", 10⟩] := by
      decide +kernel
    have hparse : parse threeBranches =
        .ok ⟨⟨"x"⟩, { Declarations.empty with checksum := some .noCheck },
          [.guarded (.release .eq "lion") { Declarations.empty with version := some ⟨"1"⟩ },
            .guarded (.capability .arm) { Declarations.empty with version := some ⟨"2"⟩ },
            .fallback { Declarations.empty with version := some ⟨"3"⟩ }]⟩ := by
      rw [parse_eq, hscan]
      rfl
    obtain ⟨ls, body, token, hls, hopening, hunique, -⟩ := (shape_of_parse _).1 _ hparse
    exact ⟨_, hparse, rfl, ls, body, token, hls, hopening, hunique⟩

end Definition

end CaskAudit
