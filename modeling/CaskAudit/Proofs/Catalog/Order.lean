import CaskAudit.Catalog
import Mathlib.Data.String.Basic

/-!
# The order of a catalog

Manifests are put into a catalog in the strict order of their tokens, so no two of a catalog have
the same token. `Catalog.Ordered` says so of a catalog; it holds of every catalog that is built by
adding manifests or collecting them.
-/

namespace CaskAudit.Catalog

/-- The manifests are in the strict order of their tokens. -/
def Ordered (c : Catalog) : Prop := c.manifests.Pairwise (·.token.text < ·.token.text)

variable {c c' : Catalog} {m n : Manifest} {ms : List Manifest}

/-- No two manifests of an ordered catalog have the same token. -/
lemma Ordered.nodup_tokens (h : c.Ordered) : (c.manifests.map Manifest.token).Nodup := by
  refine List.pairwise_map.2 (h.imp ?_)
  intro m n hlt heq
  rw [heq] at hlt
  exact lt_irrefl _ hlt

/-- Placing a manifest adds it once. -/
lemma perm_place (m : Manifest) (ms : List Manifest) : (place m ms).Perm (m :: ms) := by
  induction ms with
  | nil => exact .refl _
  | cons n ms ih =>
    rw [place]
    split
    · exact .refl _
    · exact (ih.cons n).trans (.swap m n ms)

/-- Placing a manifest adds it and nothing else. -/
lemma mem_place : n ∈ place m ms ↔ n = m ∨ n ∈ ms :=
  (perm_place m ms).mem_iff.trans List.mem_cons

/-- Placing a manifest with a new token keeps the order. -/
lemma pairwise_place (h : ms.Pairwise (·.token.text < ·.token.text))
    (hnew : ∀ n ∈ ms, n.token ≠ m.token) : (place m ms).Pairwise (·.token.text < ·.token.text) := by
  induction ms with
  | nil => exact List.pairwise_singleton _ _
  | cons k ms ih =>
    obtain ⟨hk, hms⟩ := List.pairwise_cons.1 h
    rw [place]
    split
    · next hlt =>
      refine List.pairwise_cons.2 ⟨?_, h⟩
      intro n hn
      rcases List.mem_cons.1 hn with rfl | hn
      · exact hlt
      · exact lt_trans hlt (hk n hn)
    · next hge =>
      have hne : k.token.text ≠ m.token.text := by
        intro htext
        have htoken : k.token = m.token := congrArg Token.mk htext
        exact hnew k List.mem_cons_self htoken
      have hkm : k.token.text < m.token.text := lt_of_le_of_ne (not_lt.1 hge) hne
      refine List.pairwise_cons.2 ⟨?_, ih hms fun n hn => hnew n (List.mem_cons_of_mem _ hn)⟩
      intro n hn
      rcases mem_place.1 hn with rfl | hn
      · exact hkm
      · exact hk n hn

/-- A catalog without manifests is ordered. -/
lemma ordered_empty : empty.Ordered := List.Pairwise.nil

/-- A catalog stays ordered when a manifest is added. -/
lemma Ordered.insert? (h : c.Ordered) (hm : c.insert? m = some c') : c'.Ordered := by
  unfold Catalog.insert? at hm
  split at hm
  · cases hm
  · next htaken =>
    obtain rfl := Option.some.inj hm
    refine pairwise_place h ?_
    intro n hn htoken
    exact htaken (List.any_eq_true.2 ⟨n, hn, decide_eq_true htoken⟩)

/-- Collected manifests are ordered. -/
lemma ordered_collect (ms : List Manifest) : (collect ms).Ordered := by
  have hfold : ∀ c : Catalog, c.Ordered →
      (ms.foldl (fun c m => (c.insert? m).getD c) c).Ordered := by
    induction ms with
    | nil => exact fun _ h => h
    | cons m ms ih =>
      intro c h
      rw [List.foldl_cons]
      refine ih _ ?_
      cases hm : c.insert? m with
      | none => exact h
      | some c' => exact h.insert? hm
  exact hfold empty ordered_empty

end CaskAudit.Catalog
