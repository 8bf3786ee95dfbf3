import LoopSurvey.Proofs.Session.Search
import LoopSurvey.Proofs.Text.LowerCase
/-!
# Finding what is written

A keyword is looked for in lower case, in the lower-case forms of the texts of the nodes. A text in which the keyword is
written as it stands is found where each capital sigma of the keyword has the form there that it has in the keyword
(`mem_scan_of_written`). The keywords of which no occurrence is ever missed are those of which all capital sigmas are
settled, be there any or none (`written_found_iff`).
-/

namespace LoopSurvey

/-- A text of a node that is looked through in a scope. -/
def Node.Holds (n : Node) (scope : SearchScope) (text : String) : Prop :=
  scope ≠ .comment ∧ n.payload.code = some text ∨ scope ≠ .code ∧ n.label.comment = some text

variable {n : Node} {scope : SearchScope} {keyword text : String} {id : NodeId}

theorem Node.hit_iff_holds :
    n.Hit keyword scope ↔ ∃ text, n.Holds scope text ∧ keyword.toList <:+: (Text.lower text).toList := by
  unfold Hit Holds
  constructor
  · rintro (⟨hscope, text, htext, hinfix⟩ | ⟨hscope, text, htext, hinfix⟩)
    · exact ⟨text, Or.inl ⟨hscope, htext⟩, hinfix⟩
    · exact ⟨text, Or.inr ⟨hscope, htext⟩, hinfix⟩
  · rintro ⟨text, ⟨hscope, htext⟩ | ⟨hscope, htext⟩, hinfix⟩
    · exact Or.inl ⟨hscope, text, htext, hinfix⟩
    · exact Or.inr ⟨hscope, text, htext, hinfix⟩

theorem Text.toList_lower (s : String) : (Text.lower s).toList = Text.lowerAfter [] s.toList := by
  rw [Text.lower, String.toList_ofList]

/-- A node with one text, as its code and as its comment. -/
def Sample.textNode (text : String) : Node where
  id := Sample.firstId
  payload := { code := some text }
  label := { comment := some text }

/-- The session of that node. -/
def Sample.textSession (text : String) : Session where
  outline := { forest := .cons (Sample.textNode text) .nil .nil, nodup := List.nodup_singleton _ }

namespace Session

theorem mem_scan_iff (s : Session) :
    id ∈ (s.scan keyword scope).2 ↔ ∃ n ∈ s.outline.nodes, n.Hit keyword scope ∧ n.id = id := by
  simp [scan, Node.matches_iff, and_assoc]

/-- An occurrence of a keyword in a text that is looked through is found where its capital sigmas keep their forms. -/
theorem mem_scan_of_written {s : Session} (hn : n ∈ s.outline.nodes) (htext : n.Holds scope text)
    {before after : List Char} (hwritten : text.toList = before ++ keyword.toList ++ after)
    (hforms : ∀ ys zs, keyword.toList = ys ++ 'Σ' :: zs →
      Text.sigmaForm (ys.reverse ++ before.reverse) (zs ++ after) = Text.sigmaForm ys.reverse zs) :
    n.id ∈ (s.scan (Text.lower keyword) scope).2 := by
  refine s.mem_scan_iff.2 ⟨n, hn, Node.hit_iff_holds.2 ⟨text, htext, ?_⟩, rfl⟩
  rw [Text.toList_lower, Text.toList_lower, hwritten]
  exact Text.lowerAfter_infix hforms

theorem holds_textNode (text : String) (scope : SearchScope) : (Sample.textNode text).Holds scope text := by
  cases scope with
  | comment => exact Or.inr ⟨nofun, rfl⟩
  | all => exact Or.inl ⟨nofun, rfl⟩
  | code => exact Or.inl ⟨nofun, rfl⟩

/-- In a session with one text, the keyword is found in that or not at all. -/
theorem infix_of_mem_scan (h : Sample.firstId ∈ ((Sample.textSession text).scan keyword scope).2) :
    keyword.toList <:+: (Text.lower text).toList := by
  obtain ⟨n, hn, hhit, -⟩ := (mem_scan_iff _).1 h
  obtain rfl : n = Sample.textNode text := List.mem_singleton.1 hn
  obtain ⟨other, ⟨-, hcode⟩ | ⟨-, hcomment⟩, hinfix⟩ := Node.hit_iff_holds.1 hhit
  · exact Option.some.inj hcode ▸ hinfix
  · exact Option.some.inj hcomment ▸ hinfix

/-- **What is written is found.** Wherever a keyword is written as it stands in a text that is looked through, its node
is found by the lower-case form of the keyword, if each capital sigma of the keyword has the same form in the lower case
of the text as in that of the keyword. In every scope this goes for all occurrences in all texts of all sessions just if
the capital sigmas of the keyword are settled. -/
theorem written_found_iff (keyword : String) (scope : SearchScope) :
    (∀ (s : Session) (n : Node) (text : String) (before after : List Char), n ∈ s.outline.nodes → n.Holds scope text →
      text.toList = before ++ keyword.toList ++ after →
      (∀ ys zs, keyword.toList = ys ++ 'Σ' :: zs →
        Text.sigmaForm (ys.reverse ++ before.reverse) (zs ++ after) = Text.sigmaForm ys.reverse zs) →
      n.id ∈ (s.scan (Text.lower keyword) scope).2) ∧
    ((∀ (s : Session) (n : Node) (text : String), n ∈ s.outline.nodes → n.Holds scope text →
      keyword.toList <:+: text.toList → n.id ∈ (s.scan (Text.lower keyword) scope).2) ↔
        Text.Settled keyword.toList) := by
  refine ⟨fun s n text before after hn htext hwritten => mem_scan_of_written hn htext hwritten, fun hfound => ?_, ?_⟩
  · refine Text.lowerAfter_infix_iff.1 fun before after => ?_
    have hinfix : keyword.toList <:+: (String.ofList (before ++ keyword.toList ++ after)).toList := by
      rw [String.toList_ofList]
      exact ⟨before, after, rfl⟩
    have hscan := hfound (Sample.textSession _) _ _ List.mem_cons_self (holds_textNode _ scope) hinfix
    have hlower := infix_of_mem_scan hscan
    rwa [Text.toList_lower, Text.toList_lower, String.toList_ofList] at hlower
  · rintro hsettled s n text hn htext ⟨before, after, hwritten⟩
    exact mem_scan_of_written hn htext hwritten.symm fun ys zs hkeyword =>
      Text.sigmaForm_of_isSettledAt (hsettled ys zs hkeyword) before.reverse after

/-- A capital sigma in front of a letter is settled, and found inside a word. -/
theorem written_found_inside :
    Text.Settled "ΣΑ".toList ∧ "ΣΑ".toList <:+: "ΑΣΑ".toList ∧
      Sample.firstId ∈ ((Sample.textSession "ΑΣΑ").scan (Text.lower "ΣΑ") .comment).2 := by
  have hsettled : Text.Settled "ΣΑ".toList := by
    intro ys zs h
    have hlist : ['Σ', 'Α'] = ys ++ 'Σ' :: zs := h
    cases ys with
    | nil =>
      obtain rfl : ['Α'] = zs := (List.cons.inj hlist).2
      decide +kernel
    | cons y ys => simp [List.singleton_eq_append_iff] at hlist
  have hwritten : "ΣΑ".toList <:+: "ΑΣΑ".toList := ⟨['Α'], [], rfl⟩
  exact ⟨hsettled, hwritten, (written_found_iff "ΣΑ" .comment).2.2 hsettled (Sample.textSession "ΑΣΑ")
    (Sample.textNode "ΑΣΑ") "ΑΣΑ" List.mem_cons_self (holds_textNode _ .comment) hwritten⟩

/-- A capital sigma at the end of a keyword has its final form, and is not found inside a word. -/
theorem written_not_found_inside :
    "ΑΣ".toList <:+: "ΑΣΑ".toList ∧ Sample.textNode "ΑΣΑ" ∈ (Sample.textSession "ΑΣΑ").outline.nodes ∧
      (Sample.textNode "ΑΣΑ").Holds .all "ΑΣΑ" ∧ ((Sample.textSession "ΑΣΑ").scan (Text.lower "ΑΣ") .all).2 = [] :=
  ⟨⟨[], ['Α'], rfl⟩, List.mem_cons_self, holds_textNode _ .all, by decide +kernel⟩

end Session

end LoopSurvey
