import Mathlib.Data.List.Induction
import LoopSurvey.Proofs.Session.Found
import LoopSurvey.Proofs.Session.Moves
import LoopSurvey.Proofs.Session.Reveal
/-!
# Going round the active result

The active result of a keyword is stepped through forwards and backwards, and forwards as well by searching for the
keyword again (`Session.Stride`). In every session the cursor is on one of the nodes of the result, if it has any
(`Moves.placed`). From there a stride forwards adds one to the cursor and a stride backwards takes one away, modulo the
number of nodes (`Results.cursor_advance`, `Results.cursor_retreat`), and nothing else changes (`Session.stride_eq`).
So of strides in any order it only matters how many there are each way (`Session.walk_circular`).
-/

namespace LoopSurvey

namespace Results

/-- The cursor is on one of the nodes, if there are any. -/
def Placed (r : Results) : Prop := r.nodes ≠ [] → r.cursor < r.nodes.length

variable {r : Results}

section Cursor

variable (hc : r.cursor < r.nodes.length)
include hc

theorem ne_nil_of_cursor_lt : r.nodes ≠ [] := List.ne_nil_of_length_pos (Nat.zero_lt_of_lt hc)

theorem cursor_advance : (r.advance.cursor : Int) = (r.cursor + 1) % r.nodes.length := by
  rw [advance_of_ne_nil (ne_nil_of_cursor_lt hc)]
  push_cast
  rfl

/-- From the first node to the last it is one step back, too. -/
theorem cursor_retreat : (r.retreat.cursor : Int) = (r.cursor - 1) % r.nodes.length := by
  rw [retreat_of_ne_nil (ne_nil_of_cursor_lt hc)]
  dsimp only
  split_ifs with hfirst
  · have hlast : ((r.nodes.length - 1 : Nat) : Int) = r.cursor - 1 + r.nodes.length := by omega
    rw [← Int.add_emod_right, ← hlast, Int.emod_eq_of_lt (by omega) (by omega)]
  · rw [Int.emod_eq_of_lt (by omega) (by omega)]
    omega

/-- Whatever a cursor is counted up or down to, it is on a node. -/
theorem exists_node_of_emod {cursor : Nat} {i : Int} (h : (cursor : Int) = i % r.nodes.length) :
    ∃ node, r.nodes[cursor]? = some node := by
  have hlt : i % r.nodes.length < r.nodes.length := Int.emod_lt_of_pos i (by omega)
  exact ⟨_, List.getElem?_eq_getElem (by omega)⟩

end Cursor

theorem Placed.advance (h : r.Placed) : r.advance.Placed := by
  intro hne
  rw [Session.nodes_advance] at hne
  obtain ⟨node, hnode⟩ := exists_node_of_emod (h hne) (cursor_advance (h hne))
  rw [Session.nodes_advance]
  exact (List.getElem?_eq_some_iff.1 hnode).1

theorem Placed.retreat (h : r.Placed) : r.retreat.Placed := by
  intro hne
  rw [Session.nodes_retreat] at hne
  obtain ⟨node, hnode⟩ := exists_node_of_emod (h hne) (cursor_retreat (h hne))
  rw [Session.nodes_retreat]
  exact (List.getElem?_eq_some_iff.1 hnode).1

end Results

/-- The cursor and the node that a search has stepped to. -/
def SearchOutcome.stepped? : SearchOutcome → Option (Nat × NodeId)
  | .advanced cursor node => some (cursor, node)
  | _ => none

namespace Session

variable {s s' : Session}

theorem Move.placed (h : Move s s') (hs : s.results.Placed) : s'.results.Placed := by
  cases h with
  | clear => exact fun hne => absurd rfl hne
  | advance => exact hs.advance
  | retreat => exact hs.retreat
  | present keyword hits =>
    rcases s.present_cases keyword (s.ancestorsOf hits) hits with ⟨-, he⟩ | ⟨-, he⟩ <;> rw [presentAll, he]
    · exact hs
    · exact fun hne => List.length_pos_iff.2 hne
  | visit id =>
    obtain ⟨history, he⟩ := s.visit_eq id
    rw [he]
    exact hs
  | _ => exact hs

/-- Whatever is done with a session, its cursor is on a node of the result, if it has any. -/
theorem Moves.placed (h : Moves s s') (hs : s.results.Placed) : s'.results.Placed := h.keeps Move.placed hs

/-! ## Strides -/

/-- A stride through the active result of a keyword. -/
inductive Stride (keyword : String)
  | next
  | previous
  /-- Searching for the keyword again, in whatever case it is written and in whatever scope. -/
  | search (written : String) (scope : SearchScope) (lower_eq : Text.lower written = keyword)

variable {keyword : String}

/-- Whether a stride goes forwards. -/
def Stride.isForward : Stride keyword → Bool
  | .previous => false
  | _ => true

/-- How far a stride goes. -/
def Stride.length (stride : Stride keyword) : Int := if stride.isForward then 1 else -1

/-- The session after a stride, and the cursor and the node that the stride comes back with. -/
def stride (s : Session) : Stride keyword → Session × Option (Nat × NodeId)
  | .next => (s.next.1, s.next.2.map (s.next.1.results.cursor, ·))
  | .previous => (s.previous.1, s.previous.2.map (s.previous.1.results.cursor, ·))
  | .search written scope _ => ((s.search written scope).1, (s.search written scope).2.stepped?)

/-- The session after strides, first one first. -/
def walk (s : Session) (strides : List (Stride keyword)) : Session :=
  strides.foldl (fun s stride => (s.stride stride).1) s

/-- The session with the cursor somewhere else. -/
def withCursor (s : Session) (cursor : Nat) : Session := { s with results := { s.results with cursor } }

theorem search_of_keyword {written : String} {scope : SearchScope} (hk : s.results.keyword ≠ "")
    (hne : s.results.nodes ≠ []) (h : Text.lower written = s.results.keyword) {node : NodeId}
    (hnode : s.results.advance.current? = some node) :
    s.search written scope =
      ({ s with results := s.results.advance }, .advanced s.results.advance.cursor node) := by
  rcases s.search_cases written scope with ⟨he, -⟩ | ⟨-, -, -, node', he⟩ | ⟨-, hnot, -⟩
  · exact absurd (h.symm.trans he) hk
  · have hnode' := current?_of_advanced (congrArg Prod.snd he)
    rw [hnode] at hnode'
    rw [he, ← Option.some.inj hnode']
  · exact absurd ⟨hne, h.symm⟩ hnot

/-- A stride moves the cursor as far as it goes, and comes back with the cursor and the node under it. -/
theorem stride_eq (hk : keyword ≠ "") (hs : s.results.keyword = keyword)
    (hc : s.results.cursor < s.results.nodes.length) (stride : Stride keyword) :
    ∃ cursor node, s.stride stride = (s.withCursor cursor, some (cursor, node)) ∧
      s.results.nodes[cursor]? = some node ∧
      (cursor : Int) = (s.results.cursor + stride.length) % s.results.nodes.length := by
  have hne : s.results.nodes ≠ [] := Results.ne_nil_of_cursor_lt hc
  obtain ⟨ahead, hahead⟩ := Results.exists_advance_eq s.results
  have hforward : (ahead : Int) = (s.results.cursor + 1) % s.results.nodes.length := by
    rw [← Results.cursor_advance hc, hahead]
  obtain ⟨node, hthere⟩ := Results.exists_node_of_emod hc hforward
  have hcurrent : s.results.advance.current? = some node := by
    rw [hahead]
    exact hthere
  cases stride with
  | next =>
    refine ⟨ahead, node, ?_, hthere, hforward⟩
    rw [Session.stride, next_eq, hcurrent, hahead]
    rfl
  | search written scope h =>
    subst hs
    refine ⟨ahead, node, ?_, hthere, hforward⟩
    rw [Session.stride, search_of_keyword hk hne h hcurrent, hahead]
    rfl
  | previous =>
    obtain ⟨back, hback⟩ := Results.exists_retreat_eq s.results
    have hbackward : (back : Int) = (s.results.cursor - 1) % s.results.nodes.length := by
      rw [← Results.cursor_retreat hc, hback]
    obtain ⟨node, hthere⟩ := Results.exists_node_of_emod hc hbackward
    have hcurrent : s.results.retreat.current? = some node := by
      rw [hback]
      exact hthere
    refine ⟨back, node, ?_, hthere, hbackward⟩
    rw [Session.stride, previous_eq, hcurrent, hback]
    rfl

/-! ## Any number of strides -/

/-- How far strides go together: as far as there are more of them forwards than backwards. -/
def distance (strides : List (Stride keyword)) : Int :=
  strides.countP Stride.isForward - strides.countP fun stride => !stride.isForward

theorem distance_concat (strides : List (Stride keyword)) (stride : Stride keyword) :
    distance (strides ++ [stride]) = distance strides + stride.length := by
  unfold distance Stride.length
  cases h : stride.isForward <;> simp [List.countP_append, h] <;> omega

/-- Strides move the cursor as far as they go together. -/
theorem walk_eq (hk : keyword ≠ "") (hs : s.results.keyword = keyword)
    (hc : s.results.cursor < s.results.nodes.length) (strides : List (Stride keyword)) :
    ∃ cursor < s.results.nodes.length, s.walk strides = s.withCursor cursor ∧
      (cursor : Int) = (s.results.cursor + distance strides) % s.results.nodes.length := by
  induction strides using List.reverseRecOn with
  | nil =>
    refine ⟨s.results.cursor, hc, rfl, ?_⟩
    have hnone : distance ([] : List (Stride keyword)) = 0 := rfl
    rw [hnone, Int.add_zero, Int.emod_eq_of_lt (by omega) (by omega)]
  | append_singleton strides stride ih =>
    obtain ⟨before, hbefore, hwalk, hbetween⟩ := ih
    obtain ⟨cursor, node, hstride, hnode, hcursor⟩ := stride_eq (s := s.withCursor before) hk hs hbefore stride
    refine ⟨cursor, (List.getElem?_eq_some_iff.1 hnode).1, ?_, ?_⟩
    · unfold walk at hwalk ⊢
      rw [List.foldl_append, hwalk, List.foldl_cons, List.foldl_nil, hstride]
      rfl
    · calc
        (cursor : Int) = (before + stride.length) % s.results.nodes.length := hcursor
        _ = (s.results.cursor + distance strides + stride.length) % s.results.nodes.length := by
          rw [hbetween, Int.emod_add_emod]
        _ = (s.results.cursor + distance (strides ++ [stride])) % s.results.nodes.length := by
          rw [distance_concat, Int.add_assoc]

/-- **Strides go round.** In any session with an active result of a keyword, any strides through it, in whatever order,
lead to the cursor that lies as many nodes ahead as there are strides forwards, less those backwards, going round from
the last node to the first. Nothing but the cursor changes. Whatever stride comes next, it comes back with the cursor
that it leads to and the node there. -/
theorem walk_circular (s : Session) (hplaced : s.results.Placed) (hne : s.results.nodes ≠ [])
    (hs : s.results.keyword = keyword) (hk : keyword ≠ "") (strides : List (Stride keyword)) :
    let t := s.walk strides
    (t.results.cursor : Int) = (s.results.cursor + strides.countP Stride.isForward -
      strides.countP fun stride => !stride.isForward) % s.results.nodes.length ∧
    t = s.withCursor t.results.cursor ∧
    ∀ stride : Stride keyword, ∃ node,
      (t.stride stride).2 = some ((t.stride stride).1.results.cursor, node) ∧
      s.results.nodes[(t.stride stride).1.results.cursor]? = some node := by
  intro t
  obtain ⟨cursor, hlt, hwalk, hcursor⟩ := walk_eq hk hs (hplaced hne) strides
  have ht : t = s.withCursor cursor := hwalk
  rw [ht]
  refine ⟨?_, rfl, fun stride => ?_⟩
  · rw [Int.add_sub_assoc]
    exact hcursor
  · obtain ⟨next, node, hstride, hnode, -⟩ := stride_eq (s := s.withCursor cursor) hk hs hlt stride
    rw [hstride]
    exact ⟨node, rfl, hnode⟩

/-- The two loops are found, and two strides back and one forwards, in another case and scope, lead from the first of
them to the second. -/
theorem walk_circular_pair :
    let s := (Sample.pairSession.search "do" .code).1
    let strides : List (Stride "do") := [.previous, .search "DO" .comment rfl, .previous]
    let t := s.walk strides
    s.results.Placed ∧ s.results = { keyword := "do", nodes := [Sample.firstId, Sample.secondId] } ∧
      t.results.cursor = 1 ∧ t = s.withCursor 1 := by
  intro s strides t
  have hplaced : s.results.Placed :=
    (Sample.pairSession.moves_search "do" .code).placed fun hne => absurd rfl hne
  have hhits : Sample.pairSession.outline.hits "do" .code = [Sample.firstId, Sample.secondId] := rfl
  have hsort : Sample.pairSession.outline.sortByLine [Sample.firstId, Sample.secondId] =
      [Sample.firstId, Sample.secondId] := Outline.sortByLine_eq_self (by decide)
  have hresults : s.results = { keyword := "do", nodes := [Sample.firstId, Sample.secondId] } := by
    have hanew : s.results = _ := Sample.pairSession.results_searchAnew "do" .code
    rw [hanew, hhits, hsort]
    rfl
  have hne : s.results.nodes ≠ [] := by
    rw [hresults]
    exact List.cons_ne_nil _ _
  obtain ⟨hcursor, ht, -⟩ := s.walk_circular hplaced hne (congrArg Results.keyword hresults) (by decide) strides
  rw [hresults] at hcursor
  have hone : t.results.cursor = 1 := Int.ofNat.inj hcursor
  exact ⟨hplaced, hresults, hone, hone ▸ ht⟩

end Session

end LoopSurvey
