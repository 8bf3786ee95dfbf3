import Mathlib.Data.List.Basic
import LoopSurvey.Text.Case
/-!
# Lower case in context

All characters but the capital sigma have one lower-case form wherever they stand. That of a capital sigma hangs on the
nearest characters before and after it that count for case (`sigmaForm`, `leading?`). So a part of a text has the
lower-case form that it has elsewhere just if each of its capital sigmas has (`lowerBetween_eq_iff`). A sigma of the
part is settled where the characters that decide its form stand in the part itself (`isSettledAt`,
`sigmaForm_of_isSettledAt`). Lower case keeps the occurrences of a text in all others just if all its sigmas are settled
(`lowerAfter_infix_iff`).
-/

namespace LoopSurvey.Text

variable {before before' after after' xs ys zs : List Char}

/-! ## The form of a capital sigma -/

/-- Whether a character is passed over where it is looked for cased ones. -/
def isIgnorable (c : Char) : Bool := inRanges caseIgnorableRanges c.toNat

/-- Whether a character is in upper case, lower case or title case. -/
def isCased (c : Char) : Bool := inRanges casedRanges c.toNat

/-- The first character that counts for case. -/
def leading? (cs : List Char) : Option Char := (cs.dropWhile isIgnorable).head?

/-- The lower-case form of a capital sigma behind `before`, last character first, and in front of `after`. -/
def sigmaForm (before after : List Char) : Char :=
  if startsCased before && !startsCased after then 'ς' else 'σ'

theorem startsCased_eq (cs : List Char) : startsCased cs = (leading? cs).any isCased := by
  unfold startsCased leading? isIgnorable
  split
  · next h => rw [h]; rfl
  · next h => rw [h]; rfl

theorem leading?_append (xs ys : List Char) : leading? (xs ++ ys) = (leading? xs).or (leading? ys) := by
  induction xs with
  | nil => rfl
  | cons x xs ih =>
    unfold leading? at ih ⊢
    cases h : isIgnorable x <;> simp [h, ih]

/-- What is further away than the first character that counts for case does not matter. -/
theorem startsCased_append {c : Char} (h : leading? xs = some c) (ys : List Char) :
    startsCased (xs ++ ys) = isCased c := by
  rw [startsCased_eq, leading?_append, h]
  rfl

theorem startsCased_of_leading? {c : Char} (h : leading? xs = some c) : startsCased xs = isCased c := by
  rw [startsCased_eq, h, Option.any_some]

theorem startsCased_append_of_none (h : leading? xs = none) (ys : List Char) :
    startsCased (xs ++ ys) = startsCased ys := by
  rw [startsCased_eq, leading?_append, h, Option.none_or, startsCased_eq]

theorem startsCased_of_none (h : leading? xs = none) : startsCased xs = false := by
  rw [startsCased_eq, h, Option.any_none]

/-- Whether the form of a capital sigma between two parts of a text is the same in every text that has them: both sides
tell, or one side alone tells that the sigma does not end a word. -/
def isSettledAt (before after : List Char) : Bool :=
  match leading? before, leading? after with
  | some _, some _ => true
  | some b, none => !isCased b
  | none, some a => isCased a
  | none, none => false

theorem sigmaForm_of_isSettledAt (h : isSettledAt xs ys = true) (before after : List Char) :
    sigmaForm (xs ++ before) (ys ++ after) = sigmaForm xs ys := by
  unfold isSettledAt at h
  unfold sigmaForm
  split at h
  · next b a hb ha =>
    rw [startsCased_append hb, startsCased_append ha, startsCased_of_leading? hb, startsCased_of_leading? ha]
  · next b hb ha =>
    rw [Bool.not_eq_true'] at h
    rw [startsCased_append hb, startsCased_of_leading? hb, h, Bool.false_and, Bool.false_and]
  · next a hb ha =>
    rw [startsCased_append ha, startsCased_of_leading? ha, h, Bool.not_true, Bool.and_false, Bool.and_false]
  · cases h

/-- Where its form is not settled, a cased character on one of the two sides changes it. -/
theorem sigmaForm_of_not_isSettledAt (h : isSettledAt xs ys = false) :
    (∀ c, isCased c = true → isIgnorable c = false → sigmaForm xs (ys ++ [c]) ≠ sigmaForm xs ys) ∨
    (∀ c, isCased c = true → isIgnorable c = false → sigmaForm (xs ++ [c]) ys ≠ sigmaForm xs ys) := by
  have hcased : ∀ c, isCased c = true → isIgnorable c = false → startsCased [c] = true := by
    intro c hc hi
    have hlead : leading? [c] = some c := by simp [leading?, hi]
    rw [startsCased_of_leading? hlead, hc]
  unfold isSettledAt at h
  unfold sigmaForm
  split at h
  · cases h
  · next b hb ha =>
    rw [Bool.not_eq_false'] at h
    refine Or.inl fun c hc hi => ?_
    rw [startsCased_append_of_none ha, startsCased_of_none ha, hcased c hc hi, startsCased_of_leading? hb, h]
    decide
  · next a hb ha =>
    refine Or.inr fun c hc hi => ?_
    rw [startsCased_append_of_none hb, startsCased_of_none hb, hcased c hc hi, startsCased_of_leading? ha, h]
    decide
  · next hb ha =>
    refine Or.inr fun c hc hi => ?_
    rw [startsCased_append_of_none hb, startsCased_of_none hb, hcased c hc hi, startsCased_of_none ha]
    decide

/-! ## The lower-case form of a part -/

/-- The lower-case form of a part of a text behind `before`, last character first, and in front of `after`. -/
def lowerBetween (before : List Char) : List Char → List Char → List Char
  | [], _ => []
  | c :: rest, after =>
    (if c = 'Σ' then [sigmaForm before (rest ++ after)] else lowerChar c) ++ lowerBetween (c :: before) rest after

theorem lowerAfter_append (before xs after : List Char) :
    lowerAfter before (xs ++ after) = lowerBetween before xs after ++ lowerAfter (xs.reverse ++ before) after := by
  induction xs generalizing before with
  | nil => rfl
  | cons c rest ih =>
    rw [List.cons_append, lowerAfter, lowerBetween, ih, List.reverse_cons, List.append_assoc, List.append_assoc]
    rfl

theorem lowerAfter_eq (before xs : List Char) : lowerAfter before xs = lowerBetween before xs [] := by
  have h := lowerAfter_append before xs []
  rwa [List.append_nil, lowerAfter, List.append_nil] at h

theorem lowerBetween_append (before xs ys after : List Char) :
    lowerBetween before (xs ++ ys) after =
      lowerBetween before xs (ys ++ after) ++ lowerBetween (xs.reverse ++ before) ys after := by
  induction xs generalizing before with
  | nil => rfl
  | cons c rest ih =>
    rw [List.cons_append, lowerBetween, lowerBetween, ih, List.reverse_cons, List.append_assoc, List.append_assoc,
      List.append_assoc]
    rfl

/-- The number of characters does not hang on what stands around. -/
theorem length_lowerBetween (before after before' after' xs : List Char) :
    (lowerBetween before xs after).length = (lowerBetween before' xs after').length := by
  induction xs generalizing before before' with
  | nil => rfl
  | cons c rest ih =>
    rw [lowerBetween, lowerBetween, List.length_append, List.length_append, ih (c :: before) (c :: before')]
    split <;> rfl

/-- **A part has one lower-case form in two places** just if each of its capital sigmas has. -/
theorem lowerBetween_eq_iff : lowerBetween before xs after = lowerBetween before' xs after' ↔
    ∀ ys zs, xs = ys ++ 'Σ' :: zs →
      sigmaForm (ys.reverse ++ before) (zs ++ after) = sigmaForm (ys.reverse ++ before') (zs ++ after') := by
  constructor
  · rintro h ys zs rfl
    rw [lowerBetween_append, lowerBetween_append] at h
    have hrest := (List.append_inj h (length_lowerBetween ..)).2
    exact (List.cons.inj hrest).1
  · intro h
    induction xs generalizing before before' with
    | nil => rfl
    | cons c rest ih =>
      have hrest : lowerBetween (c :: before) rest after = lowerBetween (c :: before') rest after' := by
        apply ih
        rintro ys zs rfl
        simpa using h (c :: ys) zs rfl
      rw [lowerBetween, lowerBetween, hrest]
      by_cases hc : c = 'Σ'
      · rw [if_pos hc, if_pos hc]
        have hform := h [] rest (by rw [hc]; rfl)
        rw [List.reverse_nil, List.nil_append, List.nil_append] at hform
        rw [hform]
      · rw [if_neg hc, if_neg hc]

/-! ## Occurrences -/

/-- Each capital sigma of a text has its form from the text alone. -/
def Settled (xs : List Char) : Prop := ∀ ys zs, xs = ys ++ 'Σ' :: zs → isSettledAt ys.reverse zs = true

/-- An occurrence is kept where each of its capital sigmas has the form that it has in the text that occurs. -/
theorem lowerAfter_infix (h : ∀ ys zs, xs = ys ++ 'Σ' :: zs →
      sigmaForm (ys.reverse ++ before.reverse) (zs ++ after) = sigmaForm ys.reverse zs) :
    lowerAfter [] xs <:+: lowerAfter [] (before ++ xs ++ after) := by
  have hpart : lowerBetween before.reverse xs after = lowerAfter [] xs := by
    rw [lowerAfter_eq, lowerBetween_eq_iff]
    intro ys zs hxs
    rw [List.append_nil, List.append_nil]
    exact h ys zs hxs
  rw [List.append_assoc, lowerAfter_append, lowerAfter_append, List.append_nil, hpart, ← List.append_assoc]
  exact ⟨_, _, rfl⟩

theorem Settled.lowerAfter_infix (h : Settled xs) (before after : List Char) :
    lowerAfter [] xs <:+: lowerAfter [] (before ++ xs ++ after) :=
  Text.lowerAfter_infix fun ys zs hxs => sigmaForm_of_isSettledAt (h ys zs hxs) before.reverse after

/-- A list as long as another one occurs behind one more element just if it is equal or begins with the element. -/
theorem eq_of_infix_cons {c : Char} (h : xs <:+: c :: ys) (hlength : xs.length = ys.length) (hc : xs.head? ≠ some c)
    (hne : xs ≠ []) : xs = ys := by
  rcases List.infix_cons_iff.1 h with hfirst | hinner
  · obtain ⟨x, rest, rfl⟩ := List.exists_cons_of_ne_nil hne
    obtain ⟨rfl, -⟩ := List.cons_prefix_cons.1 hfirst
    exact absurd rfl hc
  · exact hinner.eq_of_length hlength

theorem eq_of_infix_concat {c : Char} (h : xs <:+: ys ++ [c]) (hlength : xs.length = ys.length)
    (hc : xs.getLast? ≠ some c) (hne : xs ≠ []) : xs = ys := by
  have hreverse : xs.reverse = ys.reverse := by
    apply eq_of_infix_cons (c := c)
    · simpa using List.reverse_infix.2 h
    · simpa using hlength
    · simpa using hc
    · simpa using hne
  exact List.reverse_inj.1 hreverse

/-- There is a cased letter besides any other character. -/
theorem exists_cased_ne (o : Option Char) :
    ∃ c, o ≠ some c ∧ isCased c = true ∧ isIgnorable c = false ∧ c ≠ 'Σ' ∧ lowerChar c = [c] := by
  by_cases h : o = some 'a'
  · exact ⟨'b', by rw [h]; decide, rfl, by decide +kernel, by decide, rfl⟩
  · exact ⟨'a', h, rfl, by decide +kernel, by decide, rfl⟩

/-- A capital sigma that is not settled loses an occurrence: one more letter is enough. -/
theorem exists_not_infix (h : ¬Settled xs) :
    ∃ before after, ¬lowerAfter [] xs <:+: lowerAfter [] (before ++ xs ++ after) := by
  obtain ⟨ys, zs, hxs, hsettled⟩ : ∃ ys zs, xs = ys ++ 'Σ' :: zs ∧ isSettledAt ys.reverse zs = false := by
    simpa [Settled] using h
  have hne : lowerAfter [] xs ≠ [] := by
    rw [hxs, lowerAfter_append, lowerAfter]
    simp
  have hlength : ∀ before after, (lowerAfter [] xs).length = (lowerBetween before xs after).length := by
    intro before after
    rw [lowerAfter_eq]
    exact length_lowerBetween ..
  have hform : ∀ before after, lowerAfter [] xs = lowerBetween before xs after →
      sigmaForm (ys.reverse ++ before) (zs ++ after) = sigmaForm ys.reverse zs := by
    intro before after he
    rw [lowerAfter_eq, lowerBetween_eq_iff] at he
    simpa using (he ys zs hxs).symm
  rcases sigmaForm_of_not_isSettledAt hsettled with hafter | hbefore
  · obtain ⟨c, hc, hcased, hignorable, hsigma, hlower⟩ := exists_cased_ne (lowerAfter [] xs).getLast?
    refine ⟨[], [c], fun hinfix => hafter c hcased hignorable ?_⟩
    have hlast : lowerAfter (xs.reverse ++ []) [c] = [c] := by
      rw [lowerAfter, if_neg hsigma, hlower]
      rfl
    rw [List.nil_append, lowerAfter_append [] xs, hlast] at hinfix
    simpa using hform [] [c] (eq_of_infix_concat hinfix (hlength [] [c]) hc hne)
  · obtain ⟨c, hc, hcased, hignorable, hsigma, hlower⟩ := exists_cased_ne (lowerAfter [] xs).head?
    refine ⟨[c], [], fun hinfix => hbefore c hcased hignorable ?_⟩
    have hfirst : lowerAfter [] (c :: xs) = c :: lowerBetween [c] xs [] := by
      rw [lowerAfter, if_neg hsigma, hlower, lowerAfter_eq]
      rfl
    rw [List.append_nil, List.singleton_append, hfirst] at hinfix
    simpa using hform [c] [] (eq_of_infix_cons hinfix (hlength [c] []) hc hne)

/-- **Lower case keeps the occurrences of a text** in every other one just if all its capital sigmas are settled. -/
theorem lowerAfter_infix_iff :
    (∀ before after, lowerAfter [] xs <:+: lowerAfter [] (before ++ xs ++ after)) ↔ Settled xs := by
  refine ⟨fun h => ?_, fun h => h.lowerAfter_infix⟩
  by_contra hsettled
  obtain ⟨before, after, hnot⟩ := exists_not_infix hsettled
  exact hnot (h before after)

end LoopSurvey.Text
