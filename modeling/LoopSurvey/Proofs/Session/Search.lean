import LoopSurvey.Proofs.Outline.LineOrder
import LoopSurvey.Proofs.Outline.Selection
import LoopSurvey.Proofs.Session.Unedited
import LoopSurvey.Sample.Pair
/-!
# What a search finds

A node is a hit of a keyword when the keyword occurs in its code or its comment, all in lower case and as
far as the scope goes (`Node.Hit`). Searching for the keyword of the active result steps through it;
any other search looks through the outline and makes the hits, sorted by line key, the active result,
whatever was active, selected or opened before (`search_outcome`).
-/

namespace LoopSurvey

/-! ## Hits -/

theorem occursIn_iff {needle hay : List Char} : occursIn needle hay = true ↔ needle <:+: hay := by
  induction hay with
  | nil => simp [occursIn]
  | cons c rest ih =>
    rw [occursIn, Bool.or_eq_true, List.isPrefixOf_iff_prefix, ih, List.infix_cons_iff]

theorem matchesText_iff {keyword : String} {text : Option String} :
    matchesText keyword text = true ↔ ∃ t ∈ text, keyword.toList <:+: (Text.lower t).toList := by
  simp only [matchesText, Option.any_eq_true, occursIn_iff, Option.mem_def]

/-- A keyword occurs in the lower-case form of the code or of the comment of a node, each only where the
scope has it looked through. -/
def Node.Hit (keyword : String) (scope : SearchScope) (n : Node) : Prop :=
  (scope ≠ .comment ∧ ∃ code ∈ n.payload.code, keyword.toList <:+: (Text.lower code).toList) ∨
  (scope ≠ .code ∧ ∃ comment ∈ n.label.comment, keyword.toList <:+: (Text.lower comment).toList)

theorem Node.matches_iff {keyword : String} {scope : SearchScope} {n : Node} :
    n.matches keyword scope = true ↔ n.Hit keyword scope := by
  unfold Node.matches Node.Hit
  rw [Bool.or_eq_true, Bool.and_eq_true, Bool.and_eq_true, matchesText_iff, matchesText_iff]
  cases scope <;> simp [SearchScope.hasCode, SearchScope.hasComment]

instance (keyword : String) (scope : SearchScope) : DecidablePred (Node.Hit keyword scope) :=
  fun _ => decidable_of_iff _ Node.matches_iff

/-- The hits of a keyword in pre-order. -/
def Outline.hits (o : Outline) (keyword : String) (scope : SearchScope) : List NodeId :=
  (o.nodes.filter (Node.Hit keyword scope)).map Node.id

theorem Outline.hits_eq (o : Outline) (keyword : String) (scope : SearchScope) :
    (o.nodes.filter (·.matches keyword scope)).map Node.id = o.hits keyword scope := by
  unfold hits
  simp only [← Node.matches_iff, Bool.decide_eq_true]

theorem Outline.hits_subset_ids {o : Outline} {keyword : String} {scope : SearchScope} {id : NodeId}
    (h : id ∈ o.hits keyword scope) : id ∈ o.ids := by
  obtain ⟨n, hn, rfl⟩ := List.mem_map.1 h
  exact mem_ids.2 ⟨n, (List.mem_filter.1 hn).1, rfl⟩

/-- Alike outlines have the same hits. -/
theorem Outline.Alike.hits {o o' : Outline} (h : o.Alike o') (keyword : String)
    (scope : SearchScope) : o.hits keyword scope = o'.hits keyword scope :=
  h.ids_filter fun _ => rfl

/-- The cursor moved in the active result. -/
def SearchOutcome.IsAdvanced (outcome : SearchOutcome) : Prop :=
  ∃ cursor node, outcome = .advanced cursor node

namespace Session

variable (s : Session) (keyword : String) (scope : SearchScope)

/-! ## Looking through the outline -/

/-- The session that the hits are presented in: without results, and with one more scan. -/
def cleared : Session := { s.clearResults.1 with scans := s.scans + 1 }

theorem alike_cleared : s.outline.Alike s.cleared.outline := s.alike_clearResults

/-- Looking through the outline presents its hits, which are all in it. -/
theorem searchAnew_cases :
    (s.outline.hits keyword scope = [] ∧ (s.searchAnew keyword scope).1 = s.cleared) ∨
    (s.outline.hits keyword scope ≠ [] ∧ ∃ opened, (s.searchAnew keyword scope).1 =
      { s.cleared with
        outline := (s.cleared.outline.setOpened opened true).setSelected
          (s.outline.hits keyword scope) true
        results := { keyword, nodes := s.outline.sortByLine (s.outline.hits keyword scope) } }) := by
  have hhits : (s.clearResults.1.outline.nodes.filter (·.matches keyword scope)).map Node.id =
      s.outline.hits keyword scope := by
    rw [Outline.hits_eq]
    exact (s.alike_cleared.hits keyword scope).symm
  have hall : (s.outline.hits keyword scope).filter s.cleared.outline.contains =
      s.outline.hits keyword scope := by
    refine List.filter_eq_self.2 fun id hid => ?_
    rw [Outline.contains_iff, ← s.alike_cleared.ids]
    exact Outline.hits_subset_ids hid
  have hcases := s.cleared.present_cases keyword (s.cleared.ancestorsOf (s.outline.hits keyword scope))
    (s.outline.hits keyword scope)
  rw [hall, ← s.alike_cleared.sortByLine] at hcases
  rw [searchAnew_eq, hhits]
  rcases hcases with ⟨hnil, he⟩ | ⟨hne, he⟩
  · exact Or.inl ⟨hnil, congrArg Prod.fst he⟩
  · exact Or.inr ⟨hne, _, he⟩

theorem scans_searchAnew : (s.searchAnew keyword scope).1.scans = s.scans + 1 := by
  rcases s.searchAnew_cases keyword scope with ⟨-, he⟩ | ⟨-, opened, he⟩ <;> rw [he] <;> rfl

/-- The result depends on the hits alone. -/
theorem results_searchAnew : (s.searchAnew keyword scope).1.results =
    if s.outline.hits keyword scope = [] then {}
    else { keyword, nodes := s.outline.sortByLine (s.outline.hits keyword scope) } := by
  rcases s.searchAnew_cases keyword scope with ⟨hnil, he⟩ | ⟨hne, opened, he⟩
  · rw [he, if_pos hnil]
    rfl
  · rw [he, if_neg hne]

/-- The hits are selected and the nodes of the result before are not, unless they are hits. -/
theorem mem_selected_searchAnew {id : NodeId} :
    id ∈ (s.searchAnew keyword scope).1.outline.selected ↔
      id ∈ s.outline.hits keyword scope ∨ id ∈ s.outline.selected ∧ id ∉ s.results.nodes := by
  have hcleared : id ∈ s.cleared.outline.selected ↔
      id ∈ s.outline.selected ∧ id ∉ s.results.nodes := Outline.mem_selected_deselect
  rcases s.searchAnew_cases keyword scope with ⟨hnil, he⟩ | ⟨-, opened, he⟩
  · rw [he, hcleared, hnil]
    simp
  · rw [he, Outline.mem_selected_select, Outline.selected_setOpened, hcleared, Outline.ids_setOpened,
      ← s.alike_cleared.ids]
    constructor
    · rintro (h | ⟨h, -⟩)
      · exact Or.inr h
      · exact Or.inl h
    · rintro (h | h)
      · exact Or.inr ⟨h, Outline.hits_subset_ids h⟩
      · exact Or.inl h

/-- In alike outlines looking for the same leads to the same result. -/
theorem searchAnew_congr {t : Session} (h : s.outline.Alike t.outline) :
    (s.searchAnew keyword scope).1.results = (t.searchAnew keyword scope).1.results := by
  rw [results_searchAnew, results_searchAnew, h.hits, h.sortByLine]

/-! ## Searching -/

variable {keyword}

/-- A search steps through the active result just if it is the one of its keyword. -/
theorem isAdvanced_search_iff (hk : Text.lower keyword ≠ "") :
    (s.search keyword scope).2.IsAdvanced ↔
      s.results.nodes ≠ [] ∧ s.results.keyword = Text.lower keyword := by
  rcases s.search_cases keyword scope with ⟨he, -⟩ | ⟨-, hn, hr, node, he⟩ | ⟨-, hr, he⟩
  · exact absurd he hk
  · rw [he]
    exact ⟨fun _ => ⟨hn, hr⟩, fun _ => ⟨_, _, rfl⟩⟩
  · rw [he]
    refine ⟨fun ⟨_, _, hadv⟩ => ?_, fun h => absurd h hr⟩
    cases hadv

theorem search_of_isAdvanced (hk : Text.lower keyword ≠ "")
    (h : (s.search keyword scope).2.IsAdvanced) :
    (s.search keyword scope).1 = { s with results := s.results.advance } := by
  have hr := (s.isAdvanced_search_iff scope hk).1 h
  rcases s.search_cases keyword scope with ⟨he, -⟩ | ⟨-, -, -, node, he⟩ | ⟨-, hr', -⟩
  · exact absurd he hk
  · rw [he]
  · exact absurd hr hr'

theorem search_of_not_isAdvanced (hk : Text.lower keyword ≠ "")
    (h : ¬(s.search keyword scope).2.IsAdvanced) :
    s.search keyword scope = s.searchAnew (Text.lower keyword) scope := by
  rw [isAdvanced_search_iff s scope hk] at h
  rcases s.search_cases keyword scope with ⟨he, -⟩ | ⟨-, hn, hr, -⟩ | ⟨-, -, he⟩
  · exact absurd he hk
  · exact absurd ⟨hn, hr⟩ h
  · exact he

theorem nodes_advance (r : Results) : r.advance.nodes = r.nodes := by
  unfold Results.advance
  split <;> rfl

/-- **What a search does.** It steps through the active result just if that is the one of its keyword, and
then changes nothing but the cursor. Otherwise it looks through the outline once: the hits are selected
and nothing of the result before is but for them, and the hits sorted by line key are the active result
with the cursor on the first, or there is none. The hits that are found do not depend on the result
before, nor on what is opened or selected. -/
theorem search_outcome (hk : Text.lower keyword ≠ "") :
    let k := Text.lower keyword
    let hits := s.outline.hits k scope
    let after := (s.search keyword scope).1
    ((s.search keyword scope).2.IsAdvanced ↔ s.results.nodes ≠ [] ∧ s.results.keyword = k) ∧
    ((s.search keyword scope).2.IsAdvanced →
      after.outline = s.outline ∧ after.results.nodes = s.results.nodes ∧ after.scans = s.scans) ∧
    (¬(s.search keyword scope).2.IsAdvanced →
      (∃ presented, (s.search keyword scope).2 = .scanned k scope presented) ∧
      after.scans = s.scans + 1 ∧
      (∀ id, id ∈ after.outline.selected ↔
        id ∈ hits ∨ id ∈ s.outline.selected ∧ id ∉ s.results.nodes) ∧
      (hits = [] → after.results = {}) ∧
      (hits ≠ [] →
        after.results = { keyword := k, nodes := s.outline.sortByLine hits, cursor := 0 } ∧
        s.outline.SortedByLine hits after.results.nodes)) ∧
    (∀ t : Session, s.outline.Alike t.outline → ¬(s.search keyword scope).2.IsAdvanced →
      ¬(t.search keyword scope).2.IsAdvanced →
        after.results.nodes = (t.search keyword scope).1.results.nodes) := by
  intro k hits after
  refine ⟨s.isAdvanced_search_iff scope hk, fun h => ?_, fun h => ?_, fun t ht h h' => ?_⟩
  · have he : after = { s with results := s.results.advance } := s.search_of_isAdvanced scope hk h
    rw [he]
    exact ⟨rfl, nodes_advance s.results, rfl⟩
  · have he : s.search keyword scope = s.searchAnew k scope := s.search_of_not_isAdvanced scope hk h
    have hafter : after = (s.searchAnew k scope).1 := congrArg Prod.fst he
    have hresults := s.results_searchAnew k scope
    rw [he, hafter]
    refine ⟨⟨_, rfl⟩, s.scans_searchAnew k scope, fun id => s.mem_selected_searchAnew k scope,
      fun hnil => ?_, fun hne => ?_⟩
    · rw [hresults, if_pos hnil]
    · rw [hresults, if_neg hne]
      exact ⟨rfl, s.outline.sortedByLine_sortByLine hits⟩
  · have he : after = (s.searchAnew k scope).1 :=
      congrArg Prod.fst (s.search_of_not_isAdvanced scope hk h)
    rw [he, t.search_of_not_isAdvanced scope hk h', s.searchAnew_congr k scope ht]

/-- Where nothing is active, the keyword of both loops leads to both, in the order they have. -/
theorem search_outcome_pair :
    Text.lower "DO" ≠ "" ∧ ¬(Sample.pairSession.search "DO" .all).2.IsAdvanced ∧
    (Sample.pairSession.search "DO" .all).1.results =
      { keyword := "do", nodes := [Sample.firstId, Sample.secondId], cursor := 0 } := by
  have hlower : Text.lower "DO" = "do" := rfl
  have hk : Text.lower "DO" ≠ "" := by
    rw [hlower]
    decide
  have h := Sample.pairSession.search_outcome .all hk
  have hadv : ¬(Sample.pairSession.search "DO" .all).2.IsAdvanced := fun ha => (h.1.1 ha).1 rfl
  have hhits : Sample.pairSession.outline.hits "do" .all = [Sample.firstId, Sample.secondId] := rfl
  have hsort : Sample.pairSession.outline.sortByLine [Sample.firstId, Sample.secondId] =
      [Sample.firstId, Sample.secondId] := Outline.sortByLine_eq_self (by decide)
  have hfound := (h.2.2.1 hadv).2.2.2.2
  rw [hlower, hhits, hsort] at hfound
  exact ⟨hk, hadv, (hfound (List.cons_ne_nil _ _)).1⟩

end Session

end LoopSurvey
