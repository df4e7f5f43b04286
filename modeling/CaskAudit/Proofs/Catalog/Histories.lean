import CaskAudit.Files.Load
import CaskAudit.Proofs.Catalog.Order
import CaskAudit.Proofs.Text.Lowercase
import CaskAudit.Proofs.Text.Trimming
import Mathlib.Data.List.Induction
import Mathlib.Data.List.Nodup

/-!
# Histories of a catalog

A catalog that manifests are added to, one after another, holds the first of them for each token
(`HoldsFirst`); an addition fails exactly if its token came before, and then it leaves the catalog
as it was. What is held is found by every spelling of its token, in whatever letters and between
whatever blanks, and by no other text (`Findable`).
-/

namespace CaskAudit

open Text

/-! ## Spellings of a token -/

/-- Whether a token is one that a text writes. -/
def Token.IsWritten (t : Token) : Prop := ∃ text, t = Token.ofText text

/-- A written token spells itself. -/
lemma Token.IsWritten.lowercase_text {t : Token} (h : t.IsWritten) :
    lowercase t.text.toList = t.text.toList := by
  obtain ⟨text, rfl⟩ := h
  rw [ofText, String.toList_ofList, lowercase_lowercase]

/-- A text whose lower case is a written token writes the token, between whatever blanks. -/
lemma Token.IsWritten.ofText_spelling {t : Token} (h : t.IsWritten) {b v a : List Char}
    (hb : AllBlank b) (ha : AllBlank a) (hv : lowercase v = t.text.toList) :
    Token.ofText (String.ofList (b ++ (v ++ a))) = t := by
  have htrimmed : Trimmed v := by
    obtain ⟨text, rfl⟩ := h
    have hlower : Trimmed (lowercase (trim text.toList)) :=
      (trimmed_lowercase_iff _).2 (trimmed_trim _)
    rw [← trimmed_lowercase_iff, hv, ofText, String.toList_ofList]
    exact hlower
  have htrim : trim (b ++ (v ++ a)) = v := by rw [trim_append hb ha, trim_of_trimmed htrimmed]
  rw [ofText, String.toList_ofList, htrim, hv, String.ofList_toList]

namespace Catalog

variable {c : Catalog} {m n : Manifest} {ms : List Manifest}

/-! ## Lookups -/

/-- Manifests of an ordered catalog are told by their tokens. -/
lemma Ordered.eq_of_token_eq (h : c.Ordered) (hm : m ∈ c.manifests) (hn : n ∈ c.manifests)
    (htoken : m.token = n.token) : m = n :=
  List.inj_on_of_nodup_map h.nodup_tokens hm hn htoken

/-- A text finds the manifest whose token it writes, if an ordered catalog holds it. -/
lemma Ordered.get?_eq_some_iff (h : c.Ordered) {s : String} :
    c.get? s = some m ↔ m ∈ c.manifests ∧ Token.ofText s = m.token := by
  constructor
  · intro hget
    have htoken : m.token = Token.ofText s := by simpa using List.find?_some hget
    exact ⟨List.mem_of_find?_eq_some hget, htoken.symm⟩
  · rintro ⟨hm, htoken⟩
    cases hget : c.get? s with
    | none =>
      have hnone := List.find?_eq_none.1 hget m hm
      simp [htoken] at hnone
    | some n =>
      have hn : n.token = Token.ofText s := by simpa using List.find?_some hget
      rw [h.eq_of_token_eq (List.mem_of_find?_eq_some hget) hm (hn.trans htoken)]

/-- A text finds a manifest exactly if it writes the token of the manifest. Every text whose lower
case is a written token does so, with blanks on both sides or without, the token itself first of
all. -/
structure Findable (c : Catalog) : Prop where
  get?_iff : ∀ s m, c.get? s = some m ↔ m ∈ c.manifests ∧ Token.ofText s = m.token
  get?_spelling : ∀ m ∈ c.manifests, m.token.IsWritten → ∀ b v a, AllBlank b → AllBlank a →
    lowercase v = m.token.text.toList → c.get? (String.ofList (b ++ (v ++ a))) = some m
  get?_own : ∀ m ∈ c.manifests, m.token.IsWritten → c.get? m.token.text = some m

/-- What an ordered catalog holds can be found. -/
lemma Ordered.findable (h : c.Ordered) : c.Findable where
  get?_iff _ _ := h.get?_eq_some_iff
  get?_spelling m hm hwritten b v a hb ha hv :=
    h.get?_eq_some_iff.2 ⟨hm, hwritten.ofText_spelling hb ha hv⟩
  get?_own m hm hwritten := by
    have hnil : AllBlank [] := List.forall_mem_nil _
    have hspelling := hwritten.ofText_spelling hnil hnil hwritten.lowercase_text
    rw [List.nil_append, List.append_nil, String.ofList_toList] at hspelling
    exact h.get?_eq_some_iff.2 ⟨hm, hspelling⟩

/-! ## Additions -/

/-- What adding a manifest leaves of a catalog, and the error where the token is taken. -/
def add (c : Catalog) (m : Manifest) : Catalog × Option CatalogError :=
  match c.insert? m with
  | some c' => (c', none)
  | none => (c, some (.duplicateToken m.token))

/-- The catalog after additions, one after another, whether they fail or not. -/
def afterAdding (ms : List Manifest) : Catalog := ms.foldl (fun c m => (c.add m).1) empty

/-- A catalog holds the first of several manifests for each token, and nothing else, in the order of
the tokens. -/
structure HoldsFirst (ms : List Manifest) (c : Catalog) : Prop where
  ordered : c.Ordered
  mem_iff : ∀ m, m ∈ c.manifests ↔ ms.find? (·.token = m.token) = some m

/-- Of no manifests, the empty catalog holds the first ones. -/
lemma holdsFirst_nil : HoldsFirst [] empty :=
  ⟨ordered_empty, fun m => by simp [empty]⟩

/-- A token is taken exactly if it came before. -/
lemma HoldsFirst.taken_iff (h : HoldsFirst ms c) {t : Token} :
    (∃ n ∈ c.manifests, n.token = t) ↔ ∃ n ∈ ms, n.token = t := by
  constructor
  · rintro ⟨n, hn, rfl⟩
    exact ⟨n, List.mem_of_find?_eq_some ((h.mem_iff n).1 hn), rfl⟩
  · rintro ⟨n, hn, rfl⟩
    cases hfirst : ms.find? (·.token = n.token) with
    | none =>
      have hnone := List.find?_eq_none.1 hfirst n hn
      simp at hnone
    | some k =>
      have hk : k.token = n.token := by simpa using List.find?_some hfirst
      exact ⟨k, (h.mem_iff k).2 (hk ▸ hfirst), hk⟩

/-- A manifest whose token came before is refused, and the catalog stays as it was. -/
lemma HoldsFirst.add_of_mem (h : HoldsFirst ms c) (hm : ∃ n ∈ ms, n.token = m.token) :
    c.add m = (c, some (.duplicateToken m.token)) := by
  obtain ⟨n, hn, htoken⟩ := h.taken_iff.2 hm
  have htaken : c.manifests.any (·.token = m.token) = true :=
    List.any_eq_true.2 ⟨n, hn, decide_eq_true htoken⟩
  rw [add, insert?, if_pos htaken]

/-- A manifest whose token is new is placed. -/
lemma HoldsFirst.add_of_not_mem (h : HoldsFirst ms c) (hm : ¬∃ n ∈ ms, n.token = m.token) :
    c.add m = (⟨place m c.manifests⟩, none) := by
  have hfree : ¬c.manifests.any (·.token = m.token) = true := by
    intro htaken
    obtain ⟨n, hn, htoken⟩ := List.any_eq_true.1 htaken
    exact hm (h.taken_iff.1 ⟨n, hn, of_decide_eq_true htoken⟩)
  rw [add, insert?, if_neg hfree]

/-- Adding one more manifest keeps the first one of each token. -/
lemma HoldsFirst.add (h : HoldsFirst ms c) (m : Manifest) :
    HoldsFirst (ms ++ [m]) (c.add m).1 := by
  by_cases hm : ∃ n ∈ ms, n.token = m.token
  · rw [h.add_of_mem hm]
    refine ⟨h.ordered, fun k => ?_⟩
    rw [h.mem_iff, List.find?_append]
    cases hk : ms.find? (·.token = k.token) with
    | some n => rfl
    | none =>
      -- The token of the new manifest came before, so it is not the one that is looked for.
      have hne : m.token ≠ k.token := by
        obtain ⟨n, hn, htoken⟩ := hm
        have hnone := List.find?_eq_none.1 hk n hn
        rw [← htoken]
        simpa using hnone
      simp [hne]
  · rw [h.add_of_not_mem hm]
    refine ⟨pairwise_place h.ordered ?_, fun k => ?_⟩
    · intro n hn htoken
      exact hm (h.taken_iff.1 ⟨n, hn, htoken⟩)
    · rw [mem_place, h.mem_iff, List.find?_append]
      by_cases hk : m.token = k.token
      · have hnone : ms.find? (·.token = k.token) = none :=
          List.find?_eq_none.2 fun n hn hn' => hm ⟨n, hn, (of_decide_eq_true hn').trans hk.symm⟩
        rw [hnone]
        simp [hk, eq_comm (a := k)]
      · have hne : k ≠ m := by
          rintro rfl
          exact hk rfl
        simp [hk, hne]

/-- The catalog after one more addition. -/
lemma afterAdding_append_singleton (ms : List Manifest) (m : Manifest) :
    afterAdding (ms ++ [m]) = ((afterAdding ms).add m).1 := by
  rw [afterAdding, List.foldl_append, ← afterAdding, List.foldl_cons, List.foldl_nil]

/-- The first manifest of each token is held after any additions. -/
theorem holdsFirst_afterAdding (ms : List Manifest) : HoldsFirst ms (afterAdding ms) := by
  induction ms using List.reverseRecOn with
  | nil => exact holdsFirst_nil
  | append_singleton ms m ih =>
    rw [afterAdding_append_singleton]
    exact ih.add m

/-- Collecting manifests adds them, and drops the errors. -/
lemma collect_eq_afterAdding (ms : List Manifest) : collect ms = afterAdding ms := by
  have hstep : (fun (c : Catalog) m => (c.insert? m).getD c) = fun c m => (c.add m).1 := by
    funext c m
    rw [Catalog.add]
    cases c.insert? m <;> rfl
  rw [collect, hstep, afterAdding]

end Catalog

end CaskAudit
