import CaskAudit.Proofs.Version.Numbers

/-!
# Chains of methods

What a chain of methods derives can often be had from a shorter one. The methods that rewrite dots
leave none, so a second of them finds nothing to do, and none of them keeps the method that drops
all separators from what it would do alone. Cutting a text at its first comma or colon keeps its
numeric components, because neither may stand in them (`numericParts_of_beginning`). Chains are
composed by `applyAll_append`, and `chains_reduce` collects the laws.
-/

namespace CaskAudit

open Text

namespace Method

variable {s t : List Char} {m k : Method}

/-- The methods that take numeric components. -/
def numeric : List Method := [major, minor, patch, majorMinor, majorMinorPatch]

/-- The methods that rewrite dots. -/
def dotRewriting : List Method := [noDots, dotsToUnderscores, dotsToHyphens]

/-- The methods that keep the beginning of a text. -/
def beginnings : List Method := [beforeComma, beforeColon]

/-! ## Composition -/

/-- A chain after another is applied to what the other gives. -/
lemma applyAll_append (ms ns : List Method) (s : List Char) :
    applyAll (ms ++ ns) s = (applyAll ms s).bind (applyAll ns) := by
  induction ms generalizing s with
  | nil => rfl
  | cons m ms ih =>
    rw [List.cons_append, applyAll, applyAll, Option.bind_assoc]
    exact congrArg _ (funext ih)

/-- A chain of one method is the method. -/
lemma applyAll_singleton (m : Method) (s : List Char) : applyAll [m] s = m.apply s := by
  rw [applyAll]
  cases m.apply s <;> rfl

/-- A chain after another derives from a version what it derives from the value of the other. -/
lemma derive?_append (v : Version) (ms ns : List Method) :
    v.derive? (ms ++ ns) = (v.derive? ms).bind fun t => Version.derive? ⟨t⟩ ns := by
  rw [Version.derive?, applyAll_append, Version.derive?]
  cases applyAll ms v.raw.toList with
  | none => rfl
  | some t =>
    change (applyAll ns t).map String.ofList = Version.derive? ⟨String.ofList t⟩ ns
    rw [Version.derive?, String.toList_ofList]

/-! ## Dots and other separators -/

/-- A text without dots has the same letters and digits as before. -/
lemma filter_isAlphanumeric_map {d : Char} (hd : isAlphanumeric d = false) (s : List Char) :
    (s.map fun c => if c = '.' then d else c).filter isAlphanumeric = s.filter isAlphanumeric := by
  have hdot : isAlphanumeric '.' = false := by decide +kernel
  induction s with
  | nil => rfl
  | cons c s ih =>
    by_cases hc : c = '.'
    · subst hc
      rw [List.map_cons, if_pos rfl, List.filter_cons_of_neg (by simp [hd]), ih,
        List.filter_cons_of_neg (by simp [hdot])]
    · rw [List.map_cons, if_neg hc, List.filter_cons, List.filter_cons, ih]

/-- Letters and digits are no dots. -/
lemma filter_isAlphanumeric_filter (s : List Char) :
    (s.filter (· ≠ '.')).filter isAlphanumeric = s.filter isAlphanumeric := by
  have hdot : isAlphanumeric '.' = false := by decide +kernel
  rw [List.filter_filter]
  refine List.filter_congr fun c _ => ?_
  by_cases hc : c = '.'
  · rw [hc, hdot]
    rfl
  · simp [hc]

/-- Dropping all separators gives the same after a method that rewrites or drops some of them. -/
lemma applyAll_noSeparator (hm : m ∈ dotRewriting ++ [noSeparator]) (s : List Char) :
    applyAll [m, noSeparator] s = applyAll [noSeparator] s := by
  simp only [dotRewriting, List.cons_append, List.nil_append, List.mem_cons, List.not_mem_nil,
    or_false] at hm
  rcases hm with rfl | rfl | rfl | rfl
  · exact congrArg some (filter_isAlphanumeric_filter s)
  · exact congrArg some (filter_isAlphanumeric_map (by decide +kernel) s)
  · exact congrArg some (filter_isAlphanumeric_map (by decide +kernel) s)
  · exact congrArg some (List.filter_filter.trans (by simp))

/-- A method that rewrites dots leaves none. -/
lemma exists_apply_dotRewriting (hm : m ∈ dotRewriting) (s : List Char) :
    ∃ t, m.apply s = some t ∧ '.' ∉ t := by
  have hmap : ∀ d : Char, d ≠ '.' → '.' ∉ s.map fun c => if c = '.' then d else c := by
    intro d hd hmem
    obtain ⟨c, -, hc⟩ := List.mem_map.1 hmem
    split at hc
    · exact hd hc
    · next hne => exact hne hc
  simp only [dotRewriting, List.mem_cons, List.not_mem_nil, or_false] at hm
  rcases hm with rfl | rfl | rfl
  · exact ⟨_, rfl, by simp⟩
  · exact ⟨_, rfl, hmap '_' (by decide)⟩
  · exact ⟨_, rfl, hmap '-' (by decide)⟩

/-- A method that rewrites dots leaves a text without them as it is. -/
lemma apply_dotRewriting_of_notMem (hm : m ∈ dotRewriting) (ht : '.' ∉ t) :
    m.apply t = some t := by
  have hne : ∀ c ∈ t, c ≠ '.' := fun c hc hdot => ht (hdot ▸ hc)
  have hmap : ∀ d : Char, (t.map fun c => if c = '.' then d else c) = t := by
    intro d
    rw [List.map_congr_left fun c hc => if_neg (hne c hc), List.map_id']
  simp only [dotRewriting, List.mem_cons, List.not_mem_nil, or_false] at hm
  rcases hm with rfl | rfl | rfl
  · exact congrArg some (List.filter_eq_self.2 fun c hc => by simpa using hne c hc)
  · exact congrArg some (hmap '_')
  · exact congrArg some (hmap '-')

/-- A second method that rewrites dots changes nothing. -/
lemma applyAll_dotRewriting (hm : m ∈ dotRewriting) (hk : k ∈ dotRewriting) (s : List Char) :
    applyAll [m, k] s = applyAll [m] s := by
  obtain ⟨t, ht, hdot⟩ := exists_apply_dotRewriting hm s
  rw [applyAll_pair ht, apply_dotRewriting_of_notMem hk hdot, applyAll_singleton, ht]

/-! ## Commas and colons -/

/-- A text is its beginning, the character where it is cut and what follows. -/
lemma beginning_append {d : Char} (h : (splitFirst? d s).map (·.2) = some t) :
    ((splitFirst? d s).map (·.1)).getD s ++ d :: t = s := by
  obtain ⟨⟨before, after⟩, hsplit, rfl⟩ := Option.map_eq_some_iff.1 h
  rw [hsplit]
  exact (eq_append_of_splitFirst? hsplit).symm

/-- Cutting a text at a character that no numeral has keeps its numeric components. -/
lemma numericParts_beginning {d : Char} (hd : isAsciiDigit d = false) (hdot : d ≠ '.')
    (s : List Char) :
    numericParts (((splitFirst? d s).map (·.1)).getD s) = numericParts s := by
  cases hsplit : splitFirst? d s with
  | none => rfl
  | some p =>
    obtain ⟨before, after⟩ := p
    have hbefore := leading_numericParts before
    have hs := hbefore.append_cons hd hdot after
    rw [← eq_append_of_splitFirst? hsplit] at hs
    exact hs.numericParts_eq.symm

/-- The beginning of a text has the numeric components of the text. -/
lemma numericParts_of_beginning (hm : m ∈ beginnings) (s : List Char) :
    ∃ t, m.apply s = some t ∧ numericParts t = numericParts s := by
  simp only [beginnings, List.mem_cons, List.not_mem_nil, or_false] at hm
  rcases hm with rfl | rfl
  · exact ⟨_, rfl, numericParts_beginning (by decide) (by decide) s⟩
  · exact ⟨_, rfl, numericParts_beginning (by decide) (by decide) s⟩

/-- So has what a chain of such cuts leaves. -/
lemma numericParts_of_beginnings {ms : List Method} (hms : ∀ m ∈ ms, m ∈ beginnings)
    (s : List Char) : ∃ t, applyAll ms s = some t ∧ numericParts t = numericParts s := by
  induction ms generalizing s with
  | nil => exact ⟨s, rfl, rfl⟩
  | cons m ms ih =>
    obtain ⟨t, ht, hparts⟩ := numericParts_of_beginning (hms m List.mem_cons_self) s
    obtain ⟨u, hu, hparts'⟩ := ih (fun k hk => hms k (List.mem_cons_of_mem _ hk)) t
    refine ⟨u, ?_, hparts'.trans hparts⟩
    rw [applyAll, ht, Option.bind_some, hu]

/-- A numeric method looks at nothing but the numeric components. -/
lemma apply_numeric_congr (hm : m ∈ numeric) (h : numericParts t = numericParts s) :
    m.apply t = m.apply s := by
  have hfirst : ∀ n, firstParts? n t = firstParts? n s := by
    intro n
    rw [firstParts?, h, firstParts?]
  simp only [numeric, List.mem_cons, List.not_mem_nil, or_false] at hm
  rcases hm with rfl | rfl | rfl | rfl | rfl
  · exact congrArg (·[0]?) h
  · exact congrArg (·[1]?) h
  · exact congrArg (·[2]?) h
  · exact hfirst 2
  · exact hfirst 3

/-- A numeric method gives the same after any cuts at commas and colons. -/
lemma applyAll_beginnings (hm : m ∈ numeric) {ms : List Method}
    (hms : ∀ k ∈ ms, k ∈ beginnings) (s : List Char) :
    applyAll (ms ++ [m]) s = m.apply s := by
  obtain ⟨t, ht, hparts⟩ := numericParts_of_beginnings hms s
  calc applyAll (ms ++ [m]) s
      = applyAll [m] t := by rw [applyAll_append, ht, Option.bind_some]
    _ = m.apply t := applyAll_singleton m t
    _ = m.apply s := apply_numeric_congr hm hparts

/-! ## The laws -/

/-- The laws by which chains of methods are shortened, on every text: dropping the separators
absorbs a method that drops or rewrites some of them, a second method that rewrites dots changes
nothing, and numeric methods do not see cuts at commas and colons. The two parts of such a cut make
up the text, and a chain of two derives from a version what its second part derives from the value
of the first. -/
theorem chains_reduce (s : List Char) :
    (∀ m ∈ [noDots, dotsToUnderscores, dotsToHyphens, noSeparator],
      applyAll [m, noSeparator] s = applyAll [noSeparator] s) ∧
    (∀ m ∈ [noDots, dotsToUnderscores, dotsToHyphens],
      ∀ k ∈ [noDots, dotsToUnderscores, dotsToHyphens], applyAll [m, k] s = applyAll [m] s) ∧
    (∀ m ∈ [major, minor, patch, majorMinor, majorMinorPatch], ∀ ms : List Method,
      (∀ k ∈ ms, k = beforeComma ∨ k = beforeColon) → applyAll (ms ++ [m]) s = applyAll [m] s) ∧
    (∀ after, afterComma.apply s = some after →
      ∃ before, beforeComma.apply s = some before ∧ before ++ ',' :: after = s) ∧
    (∀ after, afterColon.apply s = some after →
      ∃ before, beforeColon.apply s = some before ∧ before ++ ':' :: after = s) ∧
    ∀ ms ns : List Method, applyAll (ms ++ ns) s = (applyAll ms s).bind (applyAll ns) ∧
      ∀ v : Version, v.derive? (ms ++ ns) =
        (v.derive? ms).bind fun value => Version.derive? ⟨value⟩ ns := by
  refine ⟨fun m hm => applyAll_noSeparator hm s, fun m hm k hk => applyAll_dotRewriting hm hk s,
    fun m hm ms hms => ?_, fun after h => ⟨_, rfl, beginning_append h⟩,
    fun after h => ⟨_, rfl, beginning_append h⟩,
    fun ms ns => ⟨applyAll_append ms ns s, fun v => derive?_append v ms ns⟩⟩
  rw [applyAll_singleton]
  refine applyAll_beginnings hm (fun k hk => ?_) s
  simpa [beginnings] using hms k hk

/-- A comma before a colon, and a chain that has no value after two cuts. -/
theorem chains_reduce_compound :
    applyAll [dotsToHyphens, noSeparator] "1.2-b,10:4".toList =
      applyAll [noSeparator] "1.2-b,10:4".toList ∧
    applyAll [noDots, dotsToUnderscores] "1.2-b,10:4".toList =
      some "12-b,10:4".toList ∧
    applyAll [beforeColon, beforeComma, beforeColon, minor] "1.2-b,10:4".toList = some ['2'] ∧
    applyAll [beforeColon, beforeComma, patch] "1.2-b,10:4".toList = none ∧
    "1.2-b".toList ++ ',' :: "10:4".toList = "1.2-b,10:4".toList ∧
    "1.2-b,10".toList ++ ':' :: "4".toList = "1.2-b,10:4".toList := by
  obtain ⟨habsorb, hdots, hcuts, hcomma, hcolon, -⟩ := chains_reduce "1.2-b,10:4".toList
  have hminor := hcuts minor (by decide) [beforeColon, beforeComma, beforeColon] (by decide)
  have hpatch := hcuts patch (by decide) [beforeColon, beforeComma] (by decide)
  obtain ⟨first, hfirst, hjoin⟩ := hcomma "10:4".toList (by decide)
  obtain ⟨second, hsecond, hjoin'⟩ := hcolon "4".toList (by decide)
  obtain rfl : "1.2-b".toList = first := Option.some.inj hfirst
  obtain rfl : "1.2-b,10".toList = second := Option.some.inj hsecond
  exact ⟨habsorb _ (by decide), hdots _ (by decide) _ (by decide), hminor, hpatch, hjoin, hjoin'⟩

end Method

end CaskAudit
