import CaskAudit.Proofs.Guard.Evaluation
import Mathlib.Data.List.Forall2

/-!
# Guards with releases that are not known

A guard may compare with releases that are not known yet. `decided_without_unknown_releases` says
that they never decide it: a guard that has a truth value keeps it whatever known releases are put
in their place (`Completes`), and no order of the operands of its junctions leads to the other truth
value (`Reordered`), although it may lead to none. A guard without a truth value names the release
that is in its way, and a guard whose releases are all known has a truth value on every host.
-/

namespace CaskAudit.Guard

variable {f : Facts} {k : Connective} {g g' : Guard} {gs gs' : List Guard}

/-! ## Known releases in place of unknown ones -/

/-- The second guard is the first with a known release in place of each that is not known. -/
inductive Completes : Guard → Guard → Prop
  | known {op : Comparison} {token : String} (h : (Release.ofToken? token).isSome) :
      Completes (.release op token) (.release op token)
  | unknown {op : Comparison} {token token' : String} (h : Release.ofToken? token = none)
      (h' : (Release.ofToken? token').isSome) : Completes (.release op token) (.release op token')
  | capability {c : Capability} : Completes (.capability c) (.capability c)
  | not {g g' : Guard} (h : Completes g g') : Completes (.not g) (.not g')
  | all {gs gs' : List Guard} (h : List.Forall₂ Completes gs gs') : Completes (.all gs) (.all gs')
  | any {gs gs' : List Guard} (h : List.Forall₂ Completes gs gs') : Completes (.any gs) (.any gs')

/-- A junction is completed by completing its operands. -/
lemma Completes.exists_operands (h : Completes (k.combine gs) g') :
    ∃ gs', g' = k.combine gs' ∧ List.Forall₂ Completes gs gs' := by
  cases k with
  | or =>
    cases h with
    | any hgs => exact ⟨_, rfl, hgs⟩
  | and =>
    cases h with
    | all hgs => exact ⟨_, rfl, hgs⟩

/-- If operands keep the values that they have, so does the junction of them. -/
lemma Connective.evaluate_of_forall₂ {b : Bool}
    (hgs : List.Forall₂ (fun g g' => ∀ b, g.evaluate f = .ok b → g'.evaluate f = .ok b) gs gs')
    (hb : k.evaluate f gs = .ok b) : k.evaluate f gs' = .ok b := by
  induction hgs with
  | nil => exact hb
  | @cons g g' gs gs' hkeep _ ih =>
    by_cases hg : g.evaluate f = .ok k.neutral
    · rw [evaluate_cons_of_neutral hg] at hb
      rw [evaluate_cons_of_neutral (hkeep _ hg)]
      exact ih hb
    · rw [evaluate_cons_of_ne hg] at hb
      have hg' : g'.evaluate f = .ok b := hkeep b hb
      have hne : g'.evaluate f ≠ .ok k.neutral := by
        rw [hg', ← hb]
        exact hg
      rw [evaluate_cons_of_ne hne, hg']

/-- A truth value does not depend on the releases that are not known. -/
lemma Completes.evaluate_eq {b : Bool} (hg : Completes g g') (hb : evaluate f g = .ok b) :
    evaluate f g' = .ok b := by
  induction g using induction generalizing g' b with
  | release op token =>
    cases hg with
    | known _ => exact hb
    | unknown hunknown _ =>
      rw [evaluate, compareRelease, hunknown] at hb
      split at hb <;> simp at hb
  | capability c =>
    cases hg
    exact hb
  | not g ih =>
    cases hg with
    | not hg => exact evaluate_not_eq_ok_iff.2 (ih hg (evaluate_not_eq_ok_iff.1 hb))
  | junction k gs ih =>
    obtain ⟨gs', rfl, hgs⟩ := hg.exists_operands
    have hne : gs ≠ [] := by
      rintro rfl
      rw [evaluate_combine_nil] at hb
      simp at hb
    have hne' : gs' ≠ [] := by
      rintro rfl
      exact hne (List.forall₂_nil_right_iff.1 hgs)
    have hkeep : List.Forall₂ (fun g g' => ∀ b, evaluate f g = .ok b → evaluate f g' = .ok b)
        gs gs' := by
      refine ((List.forall₂_and_left _ _).2 ⟨ih, hgs⟩).imp ?_
      rintro g g' ⟨ihg, hg⟩ b hb
      exact ihg hg hb
    rw [evaluate_combine hne] at hb
    rw [evaluate_combine hne']
    exact Connective.evaluate_of_forall₂ hkeep hb

/-! ## Operands in another order -/

/-- The second guard is the first with the operands of its junctions in any order, at every
depth. -/
inductive Reordered : Guard → Guard → Prop
  | release {op : Comparison} {token : String} : Reordered (.release op token) (.release op token)
  | capability {c : Capability} : Reordered (.capability c) (.capability c)
  | not {g g' : Guard} (h : Reordered g g') : Reordered (.not g) (.not g')
  | all {gs hs gs' : List Guard} (h : List.Forall₂ Reordered gs hs) (hp : hs.Perm gs') :
      Reordered (.all gs) (.all gs')
  | any {gs hs gs' : List Guard} (h : List.Forall₂ Reordered gs hs) (hp : hs.Perm gs') :
      Reordered (.any gs) (.any gs')

/-- Each of several things that are related one by one is related to one of the others. -/
lemma exists_mem_of_forall₂ {α β : Type} {R : α → β → Prop} {l : List α} {l' : List β}
    (h : List.Forall₂ R l l') {a : α} (ha : a ∈ l) : ∃ b ∈ l', R a b := by
  obtain ⟨i, hi, rfl⟩ := List.mem_iff_getElem.1 ha
  have hi' : i < l'.length := h.length_eq ▸ hi
  exact ⟨l'[i], List.getElem_mem hi', h.get hi hi'⟩

/-- A reordered junction joins reordered operands: each of the old ones is found among the new ones,
and each of the new ones among the old. -/
lemma Reordered.exists_operands (h : Reordered (k.combine gs) g') :
    ∃ gs', g' = k.combine gs' ∧ (gs' = [] → gs = []) ∧
      (∀ g ∈ gs, ∃ g' ∈ gs', Reordered g g') ∧ ∀ g' ∈ gs', ∃ g ∈ gs, Reordered g g' := by
  obtain ⟨hs, gs', rfl, hgs, hp⟩ :
      ∃ hs gs', g' = k.combine gs' ∧ List.Forall₂ Reordered gs hs ∧ hs.Perm gs' := by
    cases k with
    | or =>
      cases h with
      | any hgs hp => exact ⟨_, _, rfl, hgs, hp⟩
    | and =>
      cases h with
      | all hgs hp => exact ⟨_, _, rfl, hgs, hp⟩
  refine ⟨gs', rfl, ?_, ?_, ?_⟩
  · rintro rfl
    obtain rfl := hp.eq_nil
    exact List.forall₂_nil_right_iff.1 hgs
  · intro g hg
    obtain ⟨g', hg', hr⟩ := exists_mem_of_forall₂ hgs hg
    exact ⟨g', hp.mem_iff.1 hg', hr⟩
  · intro g' hg'
    obtain ⟨g, hg, hr⟩ := exists_mem_of_forall₂ hgs.flip (hp.mem_iff.2 hg')
    exact ⟨g, hg, hr⟩

/-- No order of operands leads to another truth value. -/
lemma Reordered.evaluate_unique {b b' : Bool} (hg : Reordered g g') (hb : evaluate f g = .ok b)
    (hb' : evaluate f g' = .ok b') : b' = b := by
  induction g using induction generalizing g' b b' with
  | release op token =>
    cases hg
    simpa [hb] using hb'.symm
  | capability c =>
    cases hg
    simpa [hb] using hb'.symm
  | not g ih =>
    cases hg with
    | not hg =>
      have hnot : (!b') = !b := ih hg (evaluate_not_eq_ok_iff.1 hb) (evaluate_not_eq_ok_iff.1 hb')
      simpa using hnot
  | junction k gs ih =>
    obtain ⟨gs', rfl, hnil, hto, hfrom⟩ := hg.exists_operands
    have hne : gs ≠ [] := by
      rintro rfl
      rw [evaluate_combine_nil] at hb
      simp at hb
    rw [evaluate_combine hne] at hb
    rw [evaluate_combine (mt hnil hne)] at hb'
    -- Each order is decided by one of its operands or by none of them. If only one of the orders
    -- is decided by an operand, this operand contradicts its neutral counterpart in the other.
    rcases k.evaluate_cases f gs with ⟨hall, hv⟩ | ⟨g, hg, hgne, hv⟩
    · have hbn : b = k.neutral := by simpa [hb] using hv
      rcases k.evaluate_cases f gs' with ⟨-, hv'⟩ | ⟨g', hg', -, hv'⟩
      · have hbn' : b' = k.neutral := by simpa [hb'] using hv'
        rw [hbn, hbn']
      · obtain ⟨g, hg, hr⟩ := hfrom g' hg'
        rw [hbn]
        exact ih g hg hr (hall g hg) (hv' ▸ hb')
    · have hgb : evaluate f g = .ok b := hv ▸ hb
      have hbn : b ≠ k.neutral := fun h => hgne (h ▸ hgb)
      rcases k.evaluate_cases f gs' with ⟨hall', -⟩ | ⟨g', hg', hgne', hv'⟩
      · obtain ⟨g', hg', hr⟩ := hto g hg
        exact absurd (ih g hg hr hgb (hall' g' hg')).symm hbn
      · have hgb' : evaluate f g' = .ok b' := hv' ▸ hb'
        have hbn' : b' ≠ k.neutral := fun h => hgne' (h ▸ hgb')
        exact (Bool.eq_not_of_ne hbn').trans (Bool.eq_not_of_ne hbn).symm

/-! ## Unknown releases do not decide -/

/-- Releases that are not known never decide a guard. A truth value stays the same with any known
releases in their place, and no order of operands leads to the other one. A guard that fails for a
release compares with it, and it is not known; and a validated guard whose releases are all known
does not fail. -/
theorem decided_without_unknown_releases (f : Facts) (g : Guard) :
    (∀ b, evaluate f g = .ok b →
      (∀ g', Completes g g' → evaluate f g' = .ok b) ∧
        ∀ g' b', Reordered g g' → evaluate f g' = .ok b' → b' = b) ∧
    (∀ token, evaluate f g = .error (.unknownRelease token) →
      token ∈ g.releases ∧ Release.ofToken? token = none) ∧
    (g.validate = .ok () → (∀ token ∈ g.releases, (Release.ofToken? token).isSome) →
      ∃ b, evaluate f g = .ok b) := by
  refine ⟨fun b hb => ⟨?_, ?_⟩, fun token => releases_of_evaluate, ?_⟩
  · intro g' hg
    exact hg.evaluate_eq hb
  · intro g' b' hg hb'
    exact hg.evaluate_unique hb hb'
  · intro hvalid hknown
    rcases he : evaluate f g with (m | token) | b
    · exact absurd he (evaluate_ne_malformed (validate_eq_ok_iff.1 hvalid) m)
    · obtain ⟨hmem, hunknown⟩ := releases_of_evaluate he
      simpa [hunknown] using hknown token hmem
    · exact ⟨b, rfl⟩

/-- A guard that holds on lion, and compares with two more releases elsewhere. -/
def lionOr (token token' : String) : Guard :=
  .any [.release .eq "lion", .not (.all [.capability .arm, .release .eq token]),
    .release .lt token']

/-- On lion two releases that are not known decide nothing: known ones may be put in their place,
and they may be moved to the front if an operand there decides as well. On tiger the first of them
is named; if both were known, the guard would have a truth value there. -/
theorem decided_without_rhapsody :
    evaluate ⟨.lion, .intel, .bits64⟩ (lionOr "rhapsody" "copland") = .ok true ∧
    evaluate ⟨.lion, .intel, .bits64⟩ (lionOr "tahoe" ":tiger") = .ok true ∧
    evaluate ⟨.lion, .intel, .bits64⟩
      (.any [.not (.all [.capability .arm, .release .eq "rhapsody"]), .release .lt "copland",
        .release .eq "lion"]) = .ok true ∧
    evaluate ⟨.tiger, .arm, .bits64⟩ (lionOr "rhapsody" "copland") =
      .error (.unknownRelease "rhapsody") ∧
    "rhapsody" ∈ (lionOr "rhapsody" "copland").releases ∧
    ∃ b, evaluate ⟨.tiger, .arm, .bits64⟩ (lionOr "tahoe" ":tiger") = .ok b := by
  have hlion : evaluate ⟨.lion, .intel, .bits64⟩ (lionOr "rhapsody" "copland") = .ok true := by
    decide
  have htiger : evaluate ⟨.tiger, .arm, .bits64⟩ (lionOr "rhapsody" "copland") =
      .error (.unknownRelease "rhapsody") := by
    decide
  have hmoved : ∃ b, evaluate ⟨.lion, .intel, .bits64⟩
      (.any [.not (.all [.capability .arm, .release .eq "rhapsody"]), .release .lt "copland",
        .release .eq "lion"]) = .ok b :=
    ⟨true, by decide⟩
  obtain ⟨hcompletes, hreordered⟩ := (decided_without_unknown_releases _ _).1 true hlion
  refine ⟨hlion, hcompletes _ ?_, ?_, htiger, ?_, ?_⟩
  · exact .any (.cons (.known (by decide)) (.cons
      (.not (.all (.cons .capability (.cons (.unknown (by decide) (by decide)) .nil))))
      (.cons (.unknown (by decide) (by decide)) .nil)))
  · obtain ⟨b, hb⟩ := hmoved
    rw [hb, hreordered _ b ?_ hb]
    exact .any (.cons .release (.cons (.not (.all (.cons .capability (.cons .release .nil))
      (.refl _))) (.cons .release .nil))) (List.perm_append_singleton _ _).symm
  · exact ((decided_without_unknown_releases _ _).2.1 "rhapsody" htiger).1
  · exact (decided_without_unknown_releases _ _).2.2 (by decide) (by decide)

end CaskAudit.Guard
