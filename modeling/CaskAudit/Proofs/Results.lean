import Mathlib.Tactic.Lemma

/-!
# Results

Laws of results that have a value or an error: when they have a value (`bind_eq_ok`,
`map_eq_ok_iff`), what becomes of them when the error is changed (`mapError_bind`) and when it is
not looked at (`toOption_bind`, `toOption_mapM`).
-/

namespace CaskAudit

variable {ε ε' ε'' α β : Type}

/-! ## Values -/

/-- A value goes on. -/
lemma ok_bind (a : α) (f : α → Except ε β) : (Except.ok a : Except ε α).bind f = f a := rfl

/-- A result that goes on gives a value if both parts do. -/
lemma bind_eq_ok {x : Except ε α} {f : α → Except ε β} {b : β} (h : x.bind f = .ok b) :
    ∃ a, x = .ok a ∧ f a = .ok b := by
  cases x with
  | error e => cases h
  | ok a => exact ⟨a, rfl, h⟩

/-- A result that goes on is an error if one of its parts is. -/
lemma bind_eq_error {x : Except ε α} {f : α → Except ε β} {e : ε} (h : x.bind f = .error e) :
    x = .error e ∨ ∃ a, x = .ok a ∧ f a = .error e := by
  cases x with
  | error e' =>
    cases h
    exact .inl rfl
  | ok a => exact .inr ⟨a, rfl, h⟩

/-- A result is mapped to a value exactly if it is mapped from one. -/
lemma map_eq_ok_iff {f : α → β} {x : Except ε α} {b : β} :
    x.map f = .ok b ↔ ∃ a, x = .ok a ∧ f a = b := by
  cases x <;> simp [Except.map]

/-- A result that is refused in one case is given in the other. -/
lemma of_ite_eq_ok {c : Prop} [Decidable c] {e : ε} {x : Except ε α} {a : α}
    (h : (if c then .error e else x) = .ok a) : ¬c ∧ x = .ok a := by
  split at h
  · cases h
  · next hc => exact ⟨hc, h⟩

/-! ## Changed errors -/

/-- The error of a result that goes on may be changed in both parts. -/
lemma mapError_bind (g : ε → ε') (x : Except ε α) (f : α → Except ε β) :
    (x.bind f).mapError g = (x.mapError g).bind fun a => (f a).mapError g := by
  cases x <;> rfl

/-- An error that is changed twice. -/
lemma mapError_mapError (f : ε → ε') (g : ε' → ε'') (x : Except ε α) :
    (x.mapError f).mapError g = x.mapError fun e => g (f e) := by
  cases x <;> rfl

/-! ## Results without errors -/

/-- A result with a value. -/
@[simp] lemma toOption_ok (a : α) : (Except.ok a : Except ε α).toOption = some a := rfl

/-- A result without a value. -/
@[simp] lemma toOption_error (e : ε) : (Except.error e : Except ε α).toOption = none := rfl

/-- A value is that of a result exactly if the result is the value. -/
lemma toOption_eq_some_iff {x : Except ε α} {a : α} : x.toOption = some a ↔ x = .ok a := by
  cases x <;> simp

/-- A result has no value exactly if it is an error. -/
lemma toOption_eq_none_iff {x : Except ε α} : x.toOption = none ↔ ∃ e, x = .error e := by
  cases x <;> simp

/-- A result has a value and then another one. -/
lemma toOption_bind (x : Except ε α) (f : α → Except ε β) :
    (x.bind f).toOption = x.toOption.bind fun a => (f a).toOption := by
  cases x <;> rfl

/-- A result of which the value is changed. -/
lemma toOption_map (f : α → β) (x : Except ε α) : (x.map f).toOption = x.toOption.map f := by
  cases x <;> rfl

/-- A result of which the error is changed. -/
lemma toOption_mapError (f : ε → ε') (x : Except ε α) :
    (x.mapError f).toOption = x.toOption := by
  cases x <;> rfl

/-- Results that are asked for one after the other. -/
lemma toOption_mapM (f : α → Except ε β) (as : List α) :
    (as.mapM f).toOption = as.mapM fun a => (f a).toOption := by
  induction as with
  | nil => rfl
  | cons a as ih =>
    simp only [List.mapM_cons, bind, toOption_bind, ih]
    rfl

end CaskAudit
