import CaskAudit.Batch.Scripted
import CaskAudit.Proofs.Verification.Requests
import Mathlib.Data.List.Perm.Basic
import Mathlib.Logic.Relation

/-!
# Moves of a batch

A batch moves on when a manifest is taken up, when a task is answered what it has asked for, and
when a task has come to its outcome. `Batch.Move` leaves open which of these is next and what the
answer is, so a run of moves is any interleaving of the checks, among any servers and clocks and
with any moment of cancellation; what one check is answered may depend on what the others have
asked.

While something is left to do there is a move (`exists_move`). Since a verification asks for a
bounded number of things, there is a bound on the moves that a batch needs, and every move lowers it
(`LeftWithin.move`), so every run comes to an end (`LeftWithin.acc`). Whatever goes on by moves of
its batch inherits both.
-/

namespace CaskAudit

namespace Batch

/-! ## One move -/

/-- Nothing is left to begin and nothing is under way. -/
def Finished (b : Batch) : Prop := b.pending = [] ∧ b.running = []

/-- One move of a batch with room for a number of tasks. -/
inductive Move (o : FetchOptions) (f : Facts) (limit : Nat) : Batch → Batch → Prop
  /-- A manifest is taken up that cannot be resolved. -/
  | refuse {b : Batch} {before after : List Manifest} {m : Manifest} {e : ResolveError}
      (hpending : b.pending = before ++ m :: after) (hroom : b.running.length < limit)
      (hcask : m.resolve f = .error e) :
      Move o f limit b
        (({ b with pending := before ++ after }.noteChecking m.token).noteFailure m.token e)
  /-- A manifest is taken up and its verification is under way. -/
  | launch {b : Batch} {before after : List Manifest} {m : Manifest} {cask : ResolvedCask}
      (time : Nat) (hpending : b.pending = before ++ m :: after)
      (hroom : b.running.length < limit) (hcask : m.resolve f = .ok cask) :
      Move o f limit b
        (({ b with pending := before ++ after }.noteChecking m.token).suspend cask time
          (verify o cask.appcast))
  /-- A task is answered what it has asked for. -/
  | proceed {b : Batch} {before after : List Task} {t : Task} {rest : Process Outcome} (time : Nat)
      (hrunning : b.running = before ++ t :: after) (hanswer : t.rest.Answered rest) :
      Move o f limit b ({ b with running := before ++ after }.suspend t.cask time rest)
  /-- A task has come to its outcome. -/
  | close {b : Batch} {before after : List Task} {t : Task} {outcome : Outcome}
      (hrunning : b.running = before ++ t :: after) (hrest : t.rest = .done outcome) :
      Move o f limit b ({ b with running := before ++ after }.noteOutcome t.cask outcome)

/-- What is made of one of several comes before what is made of the others, whatever stands on both
sides of them. -/
lemma perm_map_of_split {α β : Type} {l before after : List α} {a : α}
    (h : l = before ++ a :: after) (g : α → β) (left right : List β) :
    (left ++ (l.map g ++ right)).Perm
      (g a :: (left ++ ((before ++ after).map g ++ right))) := by
  have hmap : (l.map g).Perm (g a :: (before ++ after).map g) := by
    rw [h, List.map_append, List.map_cons, List.map_append]
    exact List.perm_middle
  exact ((hmap.append_right right).append_left left).trans List.perm_middle

variable {o : FetchOptions} {f : Facts} {limit n k : Nat} {b b' : Batch}
  {before after : List Task} {t : Task}

/-- While there is something to do, a move can be made. -/
lemma exists_move (hlimit : 0 < limit) (h : ¬b.Finished) : ∃ b', Move o f limit b b' := by
  cases hrunning : b.running with
  | cons t after =>
    have hsplit : b.running = [] ++ t :: after := hrunning
    by_cases hrest : ∀ a, t.rest ≠ .done a
    · obtain ⟨rest, hanswer⟩ := Process.exists_answered hrest
      exact ⟨_, .proceed 0 hsplit hanswer⟩
    · obtain ⟨outcome, houtcome⟩ := not_forall_not.1 hrest
      exact ⟨_, .close hsplit houtcome⟩
  | nil =>
    have hroom : b.running.length < limit := by
      rw [hrunning]
      exact hlimit
    cases hpending : b.pending with
    | nil => exact absurd ⟨hpending, hrunning⟩ h
    | cons m after =>
      have hsplit : b.pending = [] ++ m :: after := hpending
      cases hcask : m.resolve f with
      | error e => exact ⟨_, .refuse hsplit hroom hcask⟩
      | ok cask => exact ⟨_, .launch 0 hsplit hroom hcask⟩

/-! ## The end of a run -/

/-- Running tasks need no more than a number of moves to come to their ends. -/
def TasksWithin : Nat → List Task → Prop
  | _, [] => True
  | n, t :: ts => ∃ k l, t.rest.AsksWithin k ∧ TasksWithin l ts ∧ k + 1 + l ≤ n

/-- The moves of one task are a part of the moves of all of them. -/
lemma tasksWithin_split :
    TasksWithin n (before ++ t :: after) ↔
      ∃ k l, t.rest.AsksWithin k ∧ TasksWithin l (before ++ after) ∧ k + 1 + l ≤ n := by
  induction before generalizing n with
  | nil => exact Iff.rfl
  | cons u before ih =>
    constructor
    · rintro ⟨i, j, hu, hrest, hn⟩
      obtain ⟨k, l, ht, hothers, hj⟩ := ih.1 hrest
      exact ⟨k, i + 1 + l, ht, ⟨i, l, hu, hothers, Nat.le_refl _⟩, by omega⟩
    · rintro ⟨k, l, ht, ⟨i, j, hu, hothers, hl⟩, hn⟩
      exact ⟨i, k + 1 + j, hu, ih.2 ⟨k, j, ht, hothers, Nat.le_refl _⟩, by omega⟩

/-- A batch needs no more than a number of moves to come to its end: for each manifest that has not
been begun those of its verification, the one that takes it up and the last one. -/
def LeftWithin (o : FetchOptions) (n : Nat) (b : Batch) : Prop :=
  ∃ l, TasksWithin l b.running ∧ l + b.pending.length * (2 * o.retry.attempts + 2) ≤ n

/-- Every move leaves fewer of them. -/
lemma LeftWithin.move (h : LeftWithin o n b) (hmove : Move o f limit b b') :
    ∃ k < n, LeftWithin o k b' := by
  obtain ⟨l, htasks, hn⟩ := h
  cases hmove with
  | @refuse before after m e hpending hroom hcask =>
    rw [hpending, List.perm_middle.length_eq, List.length_cons, Nat.succ_mul] at hn
    refine ⟨_, ?_, l, htasks, Nat.le_refl _⟩
    simp only [noteFailure, noteChecking]
    omega
  | @launch before after m cask time hpending hroom hcask =>
    rw [hpending, List.perm_middle.length_eq, List.length_cons, Nat.succ_mul] at hn
    have hnew : TasksWithin (2 * o.retry.attempts + 1 + l)
        (b.running ++ ⟨cask, time, verify o cask.appcast⟩ :: []) := by
      rw [tasksWithin_split, List.append_nil]
      exact ⟨_, l, asksWithin_verify o cask.appcast, htasks, Nat.le_refl _⟩
    refine ⟨_, ?_, _, hnew, Nat.le_refl _⟩
    simp only [suspend, noteChecking]
    omega
  | @proceed before after t rest time hrunning hanswer =>
    rw [hrunning, tasksWithin_split] at htasks
    obtain ⟨i, j, ht, hothers, hl⟩ := htasks
    obtain ⟨i, rfl, hrest⟩ := ht.answered hanswer
    have hnew : TasksWithin (i + 1 + j) ((before ++ after) ++ ⟨t.cask, time, rest⟩ :: []) := by
      rw [tasksWithin_split, List.append_nil]
      exact ⟨i, j, hrest, hothers, Nat.le_refl _⟩
    refine ⟨_, ?_, _, hnew, Nat.le_refl _⟩
    simp only [suspend]
    omega
  | @close before after t outcome hrunning hrest =>
    rw [hrunning, tasksWithin_split] at htasks
    obtain ⟨i, j, -, hothers, hl⟩ := htasks
    refine ⟨_, ?_, j, hothers, Nat.le_refl _⟩
    simp only [noteOutcome]
    omega

/-- A batch of a catalog is given as many steps as it may need. -/
lemma leftWithin_ofCatalog (o : FetchOptions) (c : Catalog) :
    LeftWithin o (enough o c) (ofCatalog c) := by
  refine ⟨0, trivial, ?_⟩
  rw [Nat.zero_add]
  exact Nat.mul_le_mul_left _ (Nat.le_add_right _ 2)

/-- Every run comes to an end. -/
lemma LeftWithin.acc (h : LeftWithin o n b) : Acc (fun b' b => Move o f limit b b') b := by
  induction n using Nat.strongRecOn generalizing b with
  | ind n ih =>
    refine ⟨b, ?_⟩
    intro b' hmove
    obtain ⟨k, hk, hleft⟩ := h.move hmove
    exact ih k hk hleft

/-- Several moves leave fewer of them, too. -/
lemma LeftWithin.moves (h : LeftWithin o n b)
    (hmoves : Relation.TransGen (Move o f limit) b b') : ∃ k < n, LeftWithin o k b' := by
  induction hmoves with
  | single hmove => exact h.move hmove
  | tail _ hmove ih =>
    obtain ⟨k, hk, hleft⟩ := ih
    obtain ⟨l, hl, hleft'⟩ := hleft.move hmove
    exact ⟨l, Nat.lt_trans hl hk, hleft'⟩

end Batch

end CaskAudit
