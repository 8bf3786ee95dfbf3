import LoopSurvey.Decimal.Shortest
/-!
# The characters of decimals

Whole numbers are written with digits only (`isDigit_of_mem_repr`), measures with digits, a sign and a point, or as
the names of what is no number (`mem_plain`).
-/

namespace LoopSurvey.Decimal

theorem isDigit_of_mem_repr {n : Nat} {c : Char} (h : c ∈ (Nat.repr n).toList) : c.isDigit = true := by
  rw [Nat.repr_eq_ofList_toDigits, String.toList_ofList] at h
  exact Nat.isDigit_of_mem_toDigits (by omega) (by omega) h

theorem not_mem_repr {c : Char} (h : c.isDigit = false) (n : Nat) : c ∉ (Nat.repr n).toList := by
  intro hmem
  exact Bool.false_ne_true (h.symm.trans (isDigit_of_mem_repr hmem))

/-- A whole number is the value of its digits. -/
theorem ofDigitChars_repr (n : Nat) : Nat.ofDigitChars 10 (Nat.repr n).toList 0 = n := by
  rw [Nat.repr_eq_ofList_toDigits, String.toList_ofList, Nat.ofDigitChars_ten_toDigits]

theorem mem_positional {s : Scientific} {c : Char} (h : c ∈ s.positional) : c.isDigit = true ∨ c = '.' := by
  have hdigits : ∀ d ∈ digitsOf s.digits, d.isDigit = true := fun d hd => isDigit_of_mem_repr hd
  have hzeros : ∀ n, ∀ d ∈ List.replicate n '0', d.isDigit = true := by
    intro n d hd
    rw [(List.mem_replicate.1 hd).2]
    rfl
  unfold Scientific.positional at h
  split at h
  · rcases List.mem_append.1 h with h | h
    · exact Or.inl (hdigits c h)
    · exact Or.inl (hzeros _ c h)
  · dsimp only at h
    split at h
    · simp only [List.cons_append, List.mem_cons, List.mem_append] at h
      rcases h with rfl | rfl | h | h
      · exact Or.inl rfl
      · exact Or.inr rfl
      · exact Or.inl (hzeros _ c h)
      · exact Or.inl (hdigits c h)
    · rw [List.mem_append, List.mem_cons] at h
      rcases h with h | h | h
      · exact Or.inl (hdigits c (List.mem_of_mem_take h))
      · exact Or.inr h
      · exact Or.inl (hdigits c (List.mem_of_mem_drop h))

/-- The characters of measures that are no digits. -/
def otherChars : List Char := "-.infNaN".toList

theorem mem_plain {x : Float} {c : Char} (h : c ∈ (plain x).toList) : c.isDigit = true ∨ c ∈ otherChars := by
  have hmagnitude : ∀ (biased fraction : Nat), c ∈ (if biased = 2047 then
      (if fraction = 0 then "inf".toList else "NaN".toList)
      else if biased = 0 ∧ fraction = 0 then "0".toList
      else ((Binary.ofFields biased fraction).shortest .up).positional) →
      c.isDigit = true ∨ c ∈ otherChars := by
    intro biased fraction hc
    split at hc
    · split at hc
      · exact Or.inr ((by decide : "inf".toList ⊆ otherChars) hc)
      · exact Or.inr ((by decide : "NaN".toList ⊆ otherChars) hc)
    · split at hc
      · rw [List.mem_singleton.1 hc]
        exact Or.inl rfl
      · rcases mem_positional hc with hdigit | rfl
        · exact Or.inl hdigit
        · exact Or.inr (by decide)
  unfold plain write at h
  dsimp only at h
  rw [String.toList_ofList] at h
  split at h
  · rcases List.mem_cons.1 h with rfl | h
    · exact Or.inr (by decide)
    · exact hmagnitude _ _ h
  · exact hmagnitude _ _ h

end LoopSurvey.Decimal
