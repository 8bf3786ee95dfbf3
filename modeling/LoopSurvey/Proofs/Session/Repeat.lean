import LoopSurvey.Proofs.Session.Reveal
/-!
# Searching again and again

Searches where no result was active come to a result that the keywords alone decide (`Outline.found`): it is
that of the last keyword, stepped through once for each time the same keyword was searched for right before.
Every further search goes on from there (`Session.results_search_found`).
-/

namespace LoopSurvey

/-- The active result that searches have come to, where there was none before. The keywords are in lower case,
the last one first; a keyword that was the one before, too, is stepped through. -/
def Outline.found (o : Outline) (scope : SearchScope) : List String → Results
  | [] => {}
  | keyword :: earlier =>
    if keyword = "" ∨ o.hits keyword scope = [] then {}
    else {
      keyword
      nodes := o.sortByLine (o.hits keyword scope)
      cursor := (earlier.takeWhile (· = keyword)).length % (o.hits keyword scope).length }

namespace Outline

variable {o : Outline} {scope : SearchScope} {keyword : String} {earlier : List String}

theorem found_of_ne (hk : keyword ≠ "") (hhits : o.hits keyword scope ≠ []) :
    o.found scope (keyword :: earlier) =
      { keyword
        nodes := o.sortByLine (o.hits keyword scope)
        cursor := (earlier.takeWhile (· = keyword)).length % (o.hits keyword scope).length } :=
  if_neg fun h => h.elim hk hhits

/-- A result that has been found is that of the last keyword. -/
theorem keyword_found {searched : List String} (h : (o.found scope searched).nodes ≠ []) :
    ∃ keyword earlier, searched = keyword :: earlier ∧ keyword ≠ "" ∧ o.hits keyword scope ≠ [] ∧
      (o.found scope searched).keyword = keyword := by
  cases searched with
  | nil => exact absurd rfl h
  | cons keyword earlier =>
    by_cases hnone : keyword = "" ∨ o.hits keyword scope = []
    · rw [found, if_pos hnone] at h
      exact absurd rfl h
    · obtain ⟨hk, hhits⟩ := not_or.1 hnone
      rw [found_of_ne hk hhits]
      exact ⟨keyword, earlier, rfl, hk, hhits, rfl⟩

/-- Unless the last keyword is searched for once more, its search starts over. -/
theorem takeWhile_eq_nil_of_found (hk : keyword ≠ "") (hhits : o.hits keyword scope ≠ [])
    (h : ¬((o.found scope earlier).nodes ≠ [] ∧ (o.found scope earlier).keyword = keyword)) :
    earlier.takeWhile (· = keyword) = [] := by
  cases earlier with
  | nil => rfl
  | cons last before =>
    by_cases he : last = keyword
    · subst he
      rw [found_of_ne hk hhits] at h
      exact absurd ⟨sortByLine_ne_nil hhits, rfl⟩ h
    · exact List.takeWhile_cons_of_neg (by simpa using he)

end Outline

namespace Session

variable {s : Session} {o : Outline} {scope : SearchScope} {searched : List String}

/-- One more search. -/
theorem results_search_found (ho : o.Alike s.outline)
    (h : s.results = o.found scope searched ∨ searched = [] ∧ s.results.nodes = []) (keyword : String) :
    (s.search keyword scope).1.results = o.found scope (Text.lower keyword :: searched) := by
  rcases s.search_cases keyword scope with ⟨hk, he⟩ | ⟨hk, hne, hsame, node, he⟩ | ⟨hk, hother, he⟩
  · rw [he, Outline.found, if_pos (Or.inl hk)]
    rfl
  · -- the same keyword was searched for before, and its result is stepped through
    have hfound : s.results = o.found scope searched := h.elim id fun hnil => absurd hnil.2 hne
    rw [he, Results.advance_of_ne_nil hne]
    rw [hfound] at hne hsame ⊢
    obtain ⟨last, before, rfl, -, hhits, hlast⟩ := Outline.keyword_found hne
    obtain rfl : last = Text.lower keyword := hlast.symm.trans hsame
    rw [Outline.found_of_ne hk hhits, Outline.found_of_ne hk hhits]
    simp [Outline.length_sortByLine]
  · rw [he, results_searchAnew, ← ho.hits, ← ho.sortByLine]
    by_cases hhits : o.hits (Text.lower keyword) scope = []
    · rw [if_pos hhits, Outline.found, if_pos (Or.inr hhits)]
    · have hanew : searched.takeWhile (· = Text.lower keyword) = [] := by
        rcases h with hfound | ⟨rfl, -⟩
        · rw [hfound] at hother
          exact Outline.takeWhile_eq_nil_of_found hk hhits hother
        · rfl
      rw [if_neg hhits, Outline.found_of_ne hk hhits, hanew, List.length_nil, Nat.zero_mod]

end Session

end LoopSurvey
