import LoopSurvey.Proofs.Outline.Selectors
import Mathlib.Data.List.Infix
/-!
# Escaped texts

What an escaped text stands for is found by replacing its entities from left to right (`Markup.StandsFor`), which is
what `Markup.unescape` computes (`Markup.standsFor_iff`). The escaped texts are those without structural characters in
which each ampersand begins an entity (`Markup.escape_unescape_iff`). So escaping is reversible, and the entries of a
selector are read with the values that they were written for (`Markup.escape_reversible`).
-/

namespace LoopSurvey.Markup

/-- The entities, each with the character that it stands for. -/
def entities : List (String × Char) := [("&amp;", '&'), ("&lt;", '<'), ("&gt;", '>'), ("&quot;", '"')]

/-- What a text stands for: from left to right, an entity stands for its character, and a character at which no entity
begins stands for itself. -/
inductive StandsFor : List Char → List Char → Prop
  | nil : StandsFor [] []
  | entity {e : String × Char} {cs ds : List Char} :
      e ∈ entities → StandsFor cs ds → StandsFor (e.1.toList ++ cs) (e.2 :: ds)
  | other {c : Char} {cs ds : List Char} :
      (∀ e ∈ entities, ¬e.1.toList <+: c :: cs) → StandsFor cs ds → StandsFor (c :: cs) (c :: ds)

/-- A text that may be the escaped form of some text. -/
structure Escaped (cs : List Char) : Prop where
  unmarked : ∀ c ∈ structural, c ∉ cs
  entity : ∀ rest, '&' :: rest <:+ cs → ∃ e ∈ entities, e.1.toList <+: '&' :: rest

variable {c : Char} {cs ds : List Char} {e : String × Char} {ps : List Piece}

/-! ## Single characters -/

theorem escapeChar_entity : ∀ e ∈ entities, escapeChar e.2 = e.1.toList := by decide

/-- The ampersand of an entity is its first character and no other. -/
theorem toList_entity : ∀ e ∈ entities, ∃ tail, e.1.toList = '&' :: tail ∧ '&' ∉ tail := by
  intro e he
  have hall : ∀ e ∈ entities, e.1.toList = '&' :: e.1.toList.tail ∧ '&' ∉ e.1.toList.tail := by decide
  exact ⟨_, hall e he⟩

theorem escapeChar_of_not_structural (hc : c ∉ structural) (hand : c ≠ '&') : escapeChar c = [c] := by
  unfold escapeChar
  split
  · exact absurd rfl hand
  · exact absurd (by decide) hc
  · exact absurd (by decide) hc
  · exact absurd (by decide) hc
  · rfl

/-- A character is escaped as an entity, or it is no ampersand and stands as it is. -/
theorem escapeChar_eq_entity_or_self (c : Char) :
    (∃ e ∈ entities, escapeChar c = e.1.toList) ∨ c ≠ '&' ∧ escapeChar c = [c] := by
  by_cases h : ∃ e ∈ entities, e.2 = c
  · obtain ⟨e, he, rfl⟩ := h
    exact Or.inl ⟨e, he, escapeChar_entity e he⟩
  · have hand : c ≠ '&' := fun hc => h ⟨("&amp;", '&'), by decide, hc.symm⟩
    have hc : c ∉ structural := fun hc => h <| by
      rcases structural_cases hc with rfl | rfl | rfl <;> decide
    exact Or.inr ⟨hand, escapeChar_of_not_structural hc hand⟩

/-! ## Reading from left to right -/

theorem unescapeChars_entity (he : e ∈ entities) (cs : List Char) :
    unescapeChars (e.1.toList ++ cs) = e.2 :: unescapeChars cs := by
  rw [← escapeChar_entity e he, unescapeChars_escapeChar]

theorem unescapeChars_other (h : ∀ e ∈ entities, ¬e.1.toList <+: c :: cs) :
    unescapeChars (c :: cs) = c :: unescapeChars cs := by
  rw [unescapeChars]
  · rintro rest rfl rfl
    exact h ("&amp;", '&') (by decide) ⟨rest, rfl⟩
  · rintro rest rfl rfl
    exact h ("&lt;", '<') (by decide) ⟨rest, rfl⟩
  · rintro rest rfl rfl
    exact h ("&gt;", '>') (by decide) ⟨rest, rfl⟩
  · rintro rest rfl rfl
    exact h ("&quot;", '"') (by decide) ⟨rest, rfl⟩

theorem standsFor_unescapeChars (cs : List Char) : StandsFor cs (unescapeChars cs) := by
  by_cases h : ∃ e ∈ entities, e.1.toList <+: cs
  · obtain ⟨e, he, rest, hcs⟩ := h
    rw [← hcs, unescapeChars_entity he]
    exact .entity he (standsFor_unescapeChars rest)
  · cases cs with
    | nil => exact .nil
    | cons c cs =>
      have hother : ∀ e ∈ entities, ¬e.1.toList <+: c :: cs := fun e he hprefix => h ⟨e, he, hprefix⟩
      rw [unescapeChars_other hother]
      exact .other hother (standsFor_unescapeChars cs)
termination_by cs.length
decreasing_by
  · -- an entity is not empty
    obtain ⟨tail, htail, -⟩ := toList_entity e he
    rw [← hcs, htail, List.cons_append, List.length_cons, List.length_append]
    omega
  · exact Nat.lt_succ_self _

theorem StandsFor.eq (h : StandsFor cs ds) : unescapeChars cs = ds := by
  induction h with
  | nil => rfl
  | entity he _ ih => rw [unescapeChars_entity he, ih]
  | other hother _ ih => rw [unescapeChars_other hother, ih]

/-- The replacement from left to right has one result, which is computed. -/
theorem standsFor_iff : StandsFor cs ds ↔ ds = unescapeChars cs := by
  constructor
  · exact fun h => h.eq.symm
  · rintro rfl
    exact standsFor_unescapeChars cs

/-- What is put back is not read again. -/
example : unescape "&amp;lt;" = "&lt;" := by decide

/-! ## Which texts are escaped -/

theorem Escaped.of_suffix (h : Escaped cs) (hds : ds <:+ cs) : Escaped ds where
  unmarked c hc hmem := h.unmarked c hc (hds.subset hmem)
  entity rest hrest := h.entity rest (hrest.trans hds)

/-- A tail that begins with a character does not begin within a piece that is free of it. -/
theorem suffix_of_suffix_append {α : Type} {a : α} {l r t : List α} (hl : a ∉ l) (h : a :: t <:+ l ++ r) :
    a :: t <:+ r := by
  induction l with
  | nil => exact h
  | cons b l ih =>
    rw [List.mem_cons, not_or] at hl
    rcases List.suffix_cons_iff.1 h with heq | htail
    · exact absurd (List.cons.inj heq).1 hl.1
    · exact ih hl.2 htail

theorem entity_of_suffix_escape (cs : List Char) {rest : List Char} (h : '&' :: rest <:+ cs.flatMap escapeChar) :
    ∃ e ∈ entities, e.1.toList <+: '&' :: rest := by
  induction cs with
  | nil => exact absurd (List.suffix_nil.1 h) (List.cons_ne_nil _ _)
  | cons c cs ih =>
    rw [List.flatMap_cons] at h
    rcases escapeChar_eq_entity_or_self c with ⟨e, he, hc⟩ | ⟨hand, hc⟩
    · obtain ⟨tail, htail, hfree⟩ := toList_entity e he
      rw [hc, htail, List.cons_append] at h
      rcases List.suffix_cons_iff.1 h with heq | hlater
      · rw [heq, ← List.cons_append, ← htail]
        exact ⟨e, he, List.prefix_append _ _⟩
      · exact ih (suffix_of_suffix_append hfree hlater)
    · rw [hc] at h
      exact ih (suffix_of_suffix_append (fun hmem => hand (List.mem_singleton.1 hmem).symm) h)

theorem escaped_escape (s : String) : Escaped (escape s).toList where
  unmarked _ hc := not_mem_escape hc s
  entity _ h := by
    rw [escape, String.toList_ofList] at h
    exact entity_of_suffix_escape s.toList h

/-- An escaped text is the escaped form of what it stands for. -/
theorem StandsFor.escape (h : StandsFor cs ds) (hcs : Escaped cs) : ds.flatMap escapeChar = cs := by
  induction h with
  | nil => rfl
  | entity he _ ih =>
    rw [List.flatMap_cons, escapeChar_entity _ he, ih (hcs.of_suffix (List.suffix_append _ _))]
  | @other c cs ds hother _ ih =>
    have hstructural : c ∉ structural := fun hc => hcs.unmarked c hc List.mem_cons_self
    have hand : c ≠ '&' := by
      rintro rfl
      obtain ⟨e, he, hprefix⟩ := hcs.entity cs List.suffix_rfl
      exact hother e he hprefix
    rw [List.flatMap_cons, escapeChar_of_not_structural hstructural hand,
      ih (hcs.of_suffix (List.suffix_cons c cs)), List.singleton_append]

theorem escape_unescape_iff (t : String) : escape (unescape t) = t ↔ Escaped t.toList := by
  constructor
  · intro h
    rw [← h]
    exact escaped_escape _
  · intro h
    rw [escape, unescape, String.toList_ofList, (standsFor_unescapeChars t.toList).escape h, String.ofList_toList]

/-! ## Texts and entries are got back -/

/-- The entries of a selector are read, wherever the text before them can end. -/
theorem read?_append_options {before : String} (h : read? before = some ps) (entries : List (String × Bool)) :
    read? (before ++ String.join (entries.map fun e => option e.1 e.2)) =
      some (ps ++ entries.flatMap entryPieces) := by
  have hwrite : write (entries.flatMap entryPieces) = String.join (entries.map fun e => option e.1 e.2) := by
    simp only [write_flatMap, write_entryPieces]
  rw [← hwrite]
  exact read?_append_write h (List.forall_mem_flatMap.2 fun e _ => plain_entryPieces e)

/-- **Escaping is reversible.** An escaped text has no structural characters and each ampersand in it begins an entity;
with the entities replaced from left to right it is the text again, and nothing else. Such texts, and no others, are
got back when they are unescaped and escaped. So no two texts are escaped alike, and the entries of a selector are read
with the values that they were written for, wherever a reader comes to them. -/
theorem escape_reversible :
    (∀ s : String, Escaped (escape s).toList ∧ ∀ cs, StandsFor (escape s).toList cs ↔ cs = s.toList) ∧
      (∀ t : String, escape (unescape t) = t ↔ Escaped t.toList) ∧
      Function.Injective escape ∧
      ∀ entries : List (String × Bool), ∃ qs : List Piece,
        (entriesOf qs).map Tag.entryValue? = entries.map (fun e => some e.1) ∧
        ∀ before ps, read? before = some ps →
          read? (before ++ String.join (entries.map fun e => option e.1 e.2)) = some (ps ++ qs) := by
  refine ⟨fun s => ⟨escaped_escape s, fun cs => ?reading⟩, escape_unescape_iff,
    Function.LeftInverse.injective unescape_escape, fun entries => ?values⟩
  case reading =>
    rw [standsFor_iff, escape, String.toList_ofList, unescapeChars_flatMap_escapeChar]
  case values =>
    exact ⟨entries.flatMap entryPieces, entryValue?_entryPieces entries,
      fun _ _ hbefore => read?_append_options hbefore entries⟩

/-- Values with entities and tags in them, as entries of a selector whose identifier brings a tag. -/
theorem escape_reversible_entries :
    let before := "<select class=\"judgment\" id=\"j_\"><b>\">"
    let entries := [("&lt;", false), ("\"><b>&", true)]
    let ps : List Piece := [⟨selectorTag "judgment" "j_", ""⟩, ⟨⟨"b", []⟩, "\">"⟩]
    read? before = some ps ∧ ∃ qs, (entriesOf qs).map Tag.entryValue? = [some "&lt;", some "\"><b>&"] ∧
      read? (before ++ String.join (entries.map fun e => option e.1 e.2)) = some (ps ++ qs) := by
  intro before entries ps
  have hbefore : read? before = some ps := by decide +kernel
  obtain ⟨qs, hvalues, hread⟩ := escape_reversible.2.2.2 entries
  exact ⟨hbefore, qs, hvalues, hread before ps hbefore⟩

end LoopSurvey.Markup
