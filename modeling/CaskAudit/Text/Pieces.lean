/-!
# Cutting texts

Splitting a text at a character, and finding the first place where one text stands in another.
The lemmas `joinWith_splitOn` and `eq_append_of_breakOn?` say that cutting loses nothing.
-/

namespace CaskAudit.Text

/-- The parts of a text between the occurrences of a character; never empty. -/
def splitOn (d : Char) : List Char → List (List Char)
  | [] => [[]]
  | c :: rest =>
    if c = d then [] :: splitOn d rest
    else match splitOn d rest with
      | [] => [[c]]
      | part :: parts => (c :: part) :: parts

/-- The parts of a text written one after the other with a separator between them. -/
def joinWith (sep : List Char) : List (List Char) → List Char
  | [] => []
  | [part] => part
  | part :: parts => part ++ sep ++ joinWith sep parts

/-- The text before the first occurrence of a character and the text after it. -/
def splitFirst? (d : Char) : List Char → Option (List Char × List Char)
  | [] => none
  | c :: rest =>
    if c = d then some ([], rest)
    else (splitFirst? d rest).map fun (before, after) => (c :: before, after)

/-- What follows a list at the start of another. -/
def dropLeading? {α : Type} [DecidableEq α] : List α → List α → Option (List α)
  | [], s => some s
  | _ :: _, [] => none
  | a :: p, b :: s => if a = b then dropLeading? p s else none

/-- The text before the first occurrence of a pattern and the text after it. -/
def breakOn? (pattern : List Char) : List Char → Option (List Char × List Char)
  | [] => if pattern.isEmpty then some ([], []) else none
  | c :: rest =>
    match dropLeading? pattern (c :: rest) with
    | some after => some ([], after)
    | none => (breakOn? pattern rest).map fun (before, after) => (c :: before, after)

/-- Whether a pattern stands somewhere in a text. -/
def occursIn (pattern s : List Char) : Bool := (breakOn? pattern s).isSome

/-- A text without one leading occurrence of a character. -/
def dropOne (d : Char) : List Char → List Char
  | [] => []
  | c :: rest => if c = d then rest else c :: rest

/-- A text without all leading occurrences of a character. -/
def dropAll (d : Char) (s : List Char) : List Char := s.dropWhile (· = d)

/-- A text has at least one part. -/
theorem splitOn_ne_nil (d : Char) (s : List Char) : splitOn d s ≠ [] := by
  cases s with
  | nil => simp [splitOn]
  | cons c rest =>
    rw [splitOn]
    split
    · simp
    · split <;> simp

/-- A text is split where it holds the character, and on both sides of that place. -/
theorem splitOn_append (d : Char) (s t : List Char) :
    splitOn d (s ++ d :: t) = splitOn d s ++ splitOn d t := by
  induction s with
  | nil => simp [splitOn]
  | cons c rest ih =>
    rw [List.cons_append, splitOn, splitOn, ih]
    split
    · rfl
    · cases hs : splitOn d rest with
      | nil => exact absurd hs (splitOn_ne_nil d rest)
      | cons part parts => rfl

/-- A text without the character is not split. -/
theorem splitOn_of_notMem {d : Char} {s : List Char} (h : d ∉ s) : splitOn d s = [s] := by
  induction s with
  | nil => rfl
  | cons c rest ih =>
    obtain ⟨hc, hrest⟩ : d ≠ c ∧ d ∉ rest := by simpa using h
    rw [splitOn, if_neg (Ne.symm hc), ih hrest]

/-- Joining the parts of a text with the character it was split at gives the text back. -/
theorem joinWith_splitOn (d : Char) (s : List Char) : joinWith [d] (splitOn d s) = s := by
  induction s with
  | nil => rfl
  | cons c rest ih =>
    rw [splitOn]
    cases hs : splitOn d rest with
    | nil => exact absurd hs (splitOn_ne_nil d rest)
    | cons part parts =>
      rw [hs] at ih
      split
      · next h => subst h; simp [joinWith, ih]
      · cases parts with
        | nil => simp [joinWith] at ih ⊢; exact ih
        | cons q qs => simp [joinWith] at ih ⊢; exact ih

/-- Splitting at the first occurrence of a character loses only that occurrence. -/
theorem eq_append_of_splitFirst? {d : Char} {s before after : List Char}
    (h : splitFirst? d s = some (before, after)) : s = before ++ d :: after := by
  induction s generalizing before with
  | nil => simp [splitFirst?] at h
  | cons c rest ih =>
    rw [splitFirst?] at h
    split at h
    · next hc => simp_all
    · cases hr : splitFirst? d rest with
      | none => simp [hr] at h
      | some p =>
        obtain ⟨b, a⟩ := p
        simp only [hr, Option.map_some, Option.some.injEq, Prod.mk.injEq] at h
        obtain ⟨rfl, rfl⟩ := h
        simp [ih hr]

/-- The first occurrence of a character has none before it. -/
theorem notMem_of_splitFirst? {d : Char} {s before after : List Char}
    (h : splitFirst? d s = some (before, after)) : d ∉ before := by
  induction s generalizing before with
  | nil => simp [splitFirst?] at h
  | cons c rest ih =>
    rw [splitFirst?] at h
    split at h
    · obtain ⟨rfl, -⟩ : [] = before ∧ rest = after := by simpa using h
      exact List.not_mem_nil
    · next hc =>
      cases hr : splitFirst? d rest with
      | none => simp [hr] at h
      | some p =>
        obtain ⟨b, a⟩ := p
        obtain ⟨rfl, rfl⟩ : c :: b = before ∧ a = after := by simpa [hr] using h
        simpa using ⟨Ne.symm hc, ih hr⟩

/-- What follows a list at the start of another is what the list must be joined to. -/
theorem dropLeading?_eq_some_iff {α : Type} [DecidableEq α] {p s after : List α} :
    dropLeading? p s = some after ↔ s = p ++ after := by
  induction p generalizing s with
  | nil => simp [dropLeading?]
  | cons a p ih =>
    cases s with
    | nil => simp [dropLeading?]
    | cons b s =>
      rw [dropLeading?, List.cons_append, List.cons.injEq]
      split
      · next hb => simp [ih, hb]
      · next hb => simp [Ne.symm hb]

/-- What follows a leading list is shorter than the whole by the length of that list. -/
theorem length_of_dropLeading? {α : Type} [DecidableEq α] {p s after : List α}
    (h : dropLeading? p s = some after) : s.length = p.length + after.length := by
  rw [dropLeading?_eq_some_iff.1 h, List.length_append]

/-- What lies from a value on has no part in whether a list without that value stands in front. -/
theorem dropLeading?_append {α : Type} [DecidableEq α] {d : α} {p : List α} (hp : d ∉ p)
    (s t : List α) : dropLeading? p (s ++ d :: t) = (dropLeading? p s).map (· ++ d :: t) := by
  induction p generalizing s with
  | nil => rfl
  | cons a p ih =>
    obtain ⟨ha, hp'⟩ : d ≠ a ∧ d ∉ p := by simpa using hp
    cases s with
    | nil => simp [dropLeading?, Ne.symm ha]
    | cons b s =>
      rw [List.cons_append, dropLeading?, dropLeading?]
      split
      · exact ih hp' s
      · rfl

/-- The same holds of a list that has the value only at its start, unless it would stand where the
value does. -/
theorem dropLeading?_append_of_ne_nil {α : Type} [DecidableEq α] {d : α} {p s : List α}
    (hp : d ∉ p.tail) (hs : s ≠ []) (t : List α) :
    dropLeading? p (s ++ d :: t) = (dropLeading? p s).map (· ++ d :: t) := by
  cases p with
  | nil => rfl
  | cons a p =>
    cases s with
    | nil => exact absurd rfl hs
    | cons b s =>
      rw [List.cons_append, dropLeading?, dropLeading?]
      split
      · exact dropLeading?_append hp s t
      · rfl

/-- Cutting at a pattern loses only that occurrence of it. -/
theorem eq_append_of_breakOn? {p s before after : List Char}
    (h : breakOn? p s = some (before, after)) : s = before ++ p ++ after := by
  induction s generalizing before with
  | nil =>
    rw [breakOn?] at h
    split at h <;> simp_all
  | cons c rest ih =>
    rw [breakOn?] at h
    split at h
    · next hp =>
      simp only [Option.some.injEq, Prod.mk.injEq] at h
      obtain ⟨rfl, rfl⟩ := h
      simp [dropLeading?_eq_some_iff.1 hp]
    · cases hr : breakOn? p rest with
      | none => simp [hr] at h
      | some q =>
        obtain ⟨b, a⟩ := q
        simp only [hr, Option.map_some, Option.some.injEq, Prod.mk.injEq] at h
        obtain ⟨rfl, rfl⟩ := h
        simp [ih hr]

/-- What follows a non-empty pattern is shorter than the text that was cut. -/
theorem length_lt_of_breakOn? {p s before after : List Char} (hp : p ≠ [])
    (h : breakOn? p s = some (before, after)) : after.length < s.length := by
  have hs := eq_append_of_breakOn? h
  have := List.length_pos_iff.2 hp
  rw [hs]
  simp only [List.length_append]
  omega

end CaskAudit.Text
