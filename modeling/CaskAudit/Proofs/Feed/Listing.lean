import CaskAudit.Feed.Provider
import Mathlib.Tactic.Common

/-!
# Where releases are listed

A feed of GitHub releases is inspected at another URL than its own. That URL names the owner and the
repository after `repos`, and a URL of this form with the same owner and the same repository after
the host would have to end in a feed's name, which it does not (`listing_ne_url`).
-/

namespace CaskAudit.Provider

open Text

variable {s url owner repository : List Char}

/-- A component of a path stands before a slash and holds none. -/
lemma eq_of_component? {rest : List Char} (h : component? s = some (owner, rest)) :
    s = owner ++ '/' :: rest ∧ '/' ∉ owner := by
  obtain ⟨hsplit, -⟩ := Option.filter_eq_some_iff.1 h
  exact ⟨eq_append_of_splitFirst? hsplit, notMem_of_splitFirst? hsplit⟩

/-- An owner and a repository that are named here are followed by the name of a feed. -/
lemma eq_of_repositoryHere? (h : repositoryHere? s = some (owner, repository)) :
    ∃ rest, s = owner ++ '/' :: (repository ++ '/' :: rest) ∧ '/' ∉ owner ∧ '/' ∉ repository ∧
      '.' ∈ rest := by
  unfold repositoryHere? at h
  split at h
  · cases h
  · next o afterOwner howner =>
    split at h
    · cases h
    · next r rest hrepository =>
      split at h
      · next hfeed =>
        obtain ⟨rfl, rfl⟩ : o = owner ∧ r = repository := by simpa using h
        obtain ⟨rfl, ho⟩ := eq_of_component? howner
        obtain ⟨rfl, hr⟩ := eq_of_component? hrepository
        obtain ⟨⟨before, after⟩, hbreak⟩ := Option.isSome_iff_exists.1 hfeed
        have hline := eq_append_of_breakOn? hbreak
        have hdot : '.' ∈ rest.takeWhile (· ≠ '\n') := by
          rw [hline]
          simp
        exact ⟨rest, rfl, ho, hr, List.takeWhile_subset _ hdot⟩
      · cases h

/-- An owner and a repository that a URL names stand after the host. -/
lemma eq_of_repository? (h : repository? url = some (owner, repository)) :
    ∃ before rest, url = before ++ githubHost ++ (owner ++ '/' :: (repository ++ '/' :: rest)) ∧
      '/' ∉ owner ∧ '/' ∉ repository ∧ '.' ∈ rest := by
  induction url using repository?.induct with
  | case1 url hhost =>
    unfold repository? at h
    split at h
    · cases h
    · next hsome => cases hhost.symm.trans hsome
  | case2 url before after hhost hlt ih =>
    unfold repository? at h
    split at h
    · cases h
    · next before' after' hsome =>
      obtain ⟨rfl, rfl⟩ : before = before' ∧ after = after' := by
        simpa using hhost.symm.trans hsome
      have hurl := eq_append_of_breakOn? hhost
      rcases Option.or_eq_some_iff.1 h with hhere | ⟨-, hlater⟩
      · obtain ⟨rest, rfl, hrest⟩ := eq_of_repositoryHere? hhere
        exact ⟨before, rest, hurl, hrest⟩
      · obtain ⟨skipped, rest, rfl, hrest⟩ := ih hlater
        exact ⟨before ++ githubHost ++ skipped, rest, by simp [hurl], hrest⟩

/-- A URL with two components of its path after a part of it, and a rest after these. -/
def withComponents (lead owner repository rest : List Char) : List Char :=
  lead ++ '/' :: (owner ++ '/' :: (repository ++ '/' :: rest))

/-- Components of a path are parts of a URL. -/
lemma splitOn_withComponents (lead rest : List Char) (howner : '/' ∉ owner)
    (hrepository : '/' ∉ repository) :
    splitOn '/' (withComponents lead owner repository rest) =
      splitOn '/' lead ++ owner :: repository :: splitOn '/' rest := by
  have hrest : splitOn '/' (repository ++ '/' :: rest) = repository :: splitOn '/' rest := by
    rw [splitOn_append, splitOn_of_notMem hrepository, List.singleton_append]
  have hpath : splitOn '/' (owner ++ '/' :: (repository ++ '/' :: rest)) =
      owner :: repository :: splitOn '/' rest := by
    rw [splitOn_append, splitOn_of_notMem howner, List.singleton_append, hrest]
  rw [withComponents, splitOn_append, hpath]

/-- An owner and a repository that a URL names are components of its path after the host. -/
lemma exists_withComponents (h : repository? url = some (owner, repository)) :
    ∃ before host rest, url = withComponents (before ++ host) owner repository rest ∧
      '/' ∉ owner ∧ '/' ∉ repository ∧ '.' ∈ rest ∧ host.length = 10 ∧
      host.getLast? = some 'm' := by
  obtain ⟨before, rest, rfl, howner, hrepository, hdot⟩ := eq_of_repository? h
  have hhost : githubHost = "github.com".toList ++ ['/'] := by decide
  refine ⟨before, "github.com".toList, rest, ?_, howner, hrepository, hdot, by decide, by decide⟩
  rw [hhost, withComponents]
  generalize "github.com".toList = host
  simp

/-- What comes before the owner and the repository of a listing is the scheme, the beginning of the
listing with one part left out, or the whole of it. -/
lemma parts_of_listing {p₁ p₃ p₄ releases : List Char} {parts after : List (List Char)}
    (hparts : parts ≠ []) (hafter : after ≠ [])
    (h : [p₁, [], p₃, p₄, owner, repository, releases] = parts ++ owner :: repository :: after) :
    parts = [p₁] ∨ parts = [p₁, []] ∨
      (parts = [p₁, [], p₃] ∧ p₄ = repository ∧ after = [repository, releases]) ∨
      parts = [p₁, [], p₃, p₄] := by
  rcases parts with _ | ⟨q₁, _ | ⟨q₂, _ | ⟨q₃, _ | ⟨q₄, parts⟩⟩⟩⟩
  · exact absurd rfl hparts
  · obtain ⟨rfl, -⟩ := List.cons.inj h
    exact .inl rfl
  · obtain ⟨rfl, rfl, -⟩ : p₁ = q₁ ∧ [] = q₂ ∧ _ := by simpa using h
    exact .inr (.inl rfl)
  · obtain ⟨rfl, rfl, rfl, hfourth, hsame, hrest⟩ : p₁ = q₁ ∧ [] = q₂ ∧ p₃ = q₃ ∧ p₄ = owner ∧
        owner = repository ∧ [repository, releases] = after := by
      simpa using h
    exact .inr (.inr (.inl ⟨rfl, hfourth.trans hsame, hrest.symm⟩))
  · obtain ⟨rfl, rfl, rfl, rfl, hrest⟩ : p₁ = q₁ ∧ [] = q₂ ∧ p₃ = q₃ ∧ p₄ = q₄ ∧
        [owner, repository, releases] = parts ++ owner :: repository :: after := by
      simpa using h
    have hpos := List.length_pos_iff.2 hafter
    have hcount := congrArg List.length hrest
    simp only [List.length_append, List.length_cons, List.length_nil] at hcount
    obtain rfl : parts = [] := List.eq_nil_of_length_eq_zero (by omega)
    exact .inr (.inr (.inr rfl))

/-- A URL that names a repository by its feed is not the one where its releases are listed. -/
lemma listing_ne (h : repository? url = some (owner, repository)) :
    withComponents "https://api.github.com/repos".toList owner repository "releases".toList ≠
      url := by
  obtain ⟨before, host, rest, rfl, howner, hrepository, hdot, hlength, hlast⟩ :=
    exists_withComponents h
  have hlead : ∃ p₁ p₃ p₄, splitOn '/' "https://api.github.com/repos".toList = [p₁, [], p₃, p₄] ∧
      p₁.length = 6 ∧ '.' ∉ p₄ ∧ p₄.getLast? = some 's' :=
    ⟨"https:".toList, "api.github.com".toList, "repos".toList, by decide, by decide, by decide,
      by decide⟩
  have hreleases : splitOn '/' "releases".toList = ["releases".toList] ∧
      '.' ∉ "releases".toList := by
    decide
  generalize "https://api.github.com/repos".toList = lead at hlead ⊢
  generalize "releases".toList = releases at hreleases ⊢
  obtain ⟨p₁, p₃, p₄, hlead, hscheme, hrepos, hreposLast⟩ := hlead
  intro heq
  have hparts := congrArg (splitOn '/') heq
  rw [splitOn_withComponents _ _ howner hrepository, splitOn_withComponents _ _ howner hrepository,
    hlead, hreleases.1] at hparts
  have hjoin := joinWith_splitOn '/' (before ++ host)
  have hcases := parts_of_listing (splitOn_ne_nil '/' _) (splitOn_ne_nil '/' _) hparts
  -- The host ends one of the first four parts, since two parts and the rest come after it.
  rcases hcases with hbefore | hbefore | ⟨-, rfl, hafter⟩ | hbefore
  · rw [hbefore] at hjoin
    have hshort := congrArg List.length hjoin
    rw [joinWith, List.length_append] at hshort
    omega
  · rw [hbefore] at hjoin
    have hshort := congrArg List.length hjoin
    simp only [joinWith, List.length_append, List.length_singleton, List.length_nil] at hshort
    omega
  · have hwhole : rest = p₄ ++ ['/'] ++ releases := by
      rw [← joinWith_splitOn '/' rest, hafter]
      rfl
    rw [hwhole] at hdot
    simp [hrepos, hreleases.2] at hdot
  · rw [hbefore] at hjoin
    have hwhole : joinWith ['/'] [p₁, [], p₃, p₄] =
        p₁ ++ ['/'] ++ ([] ++ ['/'] ++ (p₃ ++ ['/'] ++ p₄)) := rfl
    have hend := congrArg List.getLast? hjoin
    simp only [hwhole, List.getLast?_append, hlast, hreposLast, Option.some_or, Option.some.injEq]
      at hend
    exact absurd hend (by decide)

/-- The releases of a repository are listed at another URL than that of its feed. -/
lemma listing_ne_url {url listing : String} (h : guessByUrl url = (.github, listing)) :
    listing ≠ url := by
  unfold guessByUrl at h
  split at h
  · next owner repository hrepository =>
    obtain rfl : _ = listing := by simpa using h
    intro heq
    have hlead : "https://api.github.com/repos/".toList =
        "https://api.github.com/repos".toList ++ ['/'] := by decide
    have hslash : "/".toList = ['/'] := by decide
    have hreleases : "/releases".toList = '/' :: "releases".toList := by decide
    refine listing_ne hrepository ?_
    rw [← congrArg String.toList heq]
    simp only [String.toList_append, String.toList_ofList]
    rw [hlead, hslash, hreleases, withComponents]
    generalize "https://api.github.com/repos".toList = lead
    generalize "releases".toList = releases
    simp
  · cases h

end CaskAudit.Provider
