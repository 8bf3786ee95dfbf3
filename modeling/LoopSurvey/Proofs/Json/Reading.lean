import LoopSurvey.Json.Reader
import LoopSurvey.Proofs.Decimal.Digits
import Mathlib.Data.List.Forall2
/-!
# Written JSON is read back

A text is written for a value (`Reader.Written`) if the reader takes that value from it whatever may follow a value
inside an array or an object: a comma, a closing bracket, or nothing. Quoted strings (`Reader.written_quote`), whole
numbers of 64 bits (`Reader.written_repr`) and set flags are written for theirs. An array and an object are written
from the texts of their parts one level deeper (`Reader.written_array`, `Reader.written_object`), by one lemma on
items between brackets (`Reader.foldItems_intercalate`).
-/

namespace LoopSurvey.Json

/-! ## Digits -/

theorem le_ofDigitChars (ds : List Char) (n : Nat) : n ≤ Nat.ofDigitChars 10 ds n := by
  induction ds generalizing n with
  | nil => exact Nat.le_refl n
  | cons c ds ih =>
    have hstep : 10 * n + (c.toNat - '0'.toNat) ≤ Nat.ofDigitChars 10 (c :: ds) n := ih _
    omega

/-- Digits are taken one after the other as long as their number fits. -/
theorem absorb_eq {ds : List Char} {n : Nat} (h : Nat.ofDigitChars 10 ds n ≤ maxUnsigned) :
    absorb n ds = (Nat.ofDigitChars 10 ds n, []) := by
  induction ds generalizing n with
  | nil => rfl
  | cons c ds ih =>
    have hvalue : n * 10 + digitValue c = 10 * n + (c.toNat - '0'.toNat) := by
      rw [Nat.mul_comm]
      rfl
    have hcons : Nat.ofDigitChars 10 (c :: ds) n = Nat.ofDigitChars 10 ds (10 * n + (c.toNat - '0'.toNat)) := rfl
    have hnext : 10 * n + (c.toNat - '0'.toNat) ≤ maxUnsigned := Nat.le_trans (le_ofDigitChars ds _) (hcons ▸ h)
    rw [absorb]
    simp only [hvalue]
    rw [if_pos hnext, ih (hcons ▸ h), hcons]

theorem absorb_repr {n : Nat} (h : n ≤ maxUnsigned) : absorb 0 (Nat.repr n).toList = (n, []) := by
  have hdigits := Decimal.ofDigitChars_repr n
  rw [absorb_eq (by rw [hdigits]; exact h), hdigits]

/-- Only zero begins with a zero. -/
theorem head?_toDigits_ne {n : Nat} (h : 0 < n) : (Nat.toDigits 10 n).head? ≠ some '0' := by
  induction n using Nat.strongRecOn with
  | ind n ih =>
    by_cases hn : n < 10
    · rw [Nat.toDigits_of_lt_base hn, List.head?_cons]
      intro hzero
      have := Nat.digitChar_eq_zero.1 (Option.some.inj hzero)
      omega
    · rw [Nat.toDigits_of_base_le (by omega) (by omega), List.head?_append_of_ne_nil _ Nat.toDigits_ne_nil]
      exact ih (n / 10) (by omega) (by omega)

theorem no_leading_zero (n : Nat) :
    ¬((Nat.repr n).toList.head? = some '0' ∧ 1 < (Nat.repr n).toList.length) := by
  rw [Nat.repr_eq_ofList_toDigits, String.toList_ofList]
  rintro ⟨hhead, hlength⟩
  rcases Nat.eq_zero_or_pos n with rfl | hpos
  · rw [Nat.toDigits_zero] at hlength
    exact absurd hlength (by decide)
  · exact head?_toDigits_ne hpos hhead

namespace Reader

variable {rest : List Char}

/-! ## Steps of readers -/

theorem bind_of_ok {r : Reader α} {f : α → Reader β} {cs : List Char} {x : α} (h : r cs = .ok (x, rest)) :
    (r >>= f) cs = f x rest := by
  change (r cs >>= fun p => f p.1 p.2) = f x rest
  rw [h]
  rfl

theorem accept_self (c : Char) : accept c (c :: rest) = .ok (true, rest) := if_pos rfl

theorem accept_of_ne {c : Char} {cs : List Char} (h : cs.head? ≠ some c) : accept c cs = .ok (false, cs) := by
  cases cs with
  | nil => rfl
  | cons d cs => exact if_neg fun he => h (congrArg some he)

theorem expect_self (c : Char) : expect c (c :: rest) = .ok ((), rest) := by
  rw [expect, bind_of_ok (accept_self c)]
  rfl

theorem word_append (w : List Char) : word w (w ++ rest) = .ok ((), rest) := by
  induction w with
  | nil => rfl
  | cons c w ih => rw [word, List.cons_append, bind_of_ok (expect_self c), ih]

theorem blanks_of_not_space {c : Char} (h : isSpace c = false) : blanks (c :: rest) = .ok ((), c :: rest) := by
  rw [blanks, List.dropWhile_cons_of_neg (by simp [h])]

/-! ## Numbers -/

/-- What may follow a value: nothing, a comma or a closing bracket. -/
def Stops (cs : List Char) : Prop := ∀ c, cs.head? = some c → c = ',' ∨ c = ']' ∨ c = '\x7d'

theorem Stops.head?_ne (h : Stops rest) {c : Char} (hc : c ≠ ',' ∧ c ≠ ']' ∧ c ≠ '\x7d') : rest.head? ≠ some c := by
  intro he
  rcases h c he with hd | hd | hd
  · exact hc.1 hd
  · exact hc.2.1 hd
  · exact hc.2.2 hd

theorem digits_append {ds : List Char} (hds : ∀ c ∈ ds, c.isDigit = true) (h : Stops rest) :
    digits (ds ++ rest) = .ok (ds, rest) := by
  have hhead : ∀ c, rest.head? = some c → c.isDigit = false := by
    intro c hc
    rcases h c hc with rfl | rfl | rfl <;> rfl
  have htake : rest.takeWhile Char.isDigit = [] ∧ rest.dropWhile Char.isDigit = rest := by
    cases rest with
    | nil => exact ⟨rfl, rfl⟩
    | cons c rest => simp [hhead c rfl]
  rw [digits, List.takeWhile_append_of_pos hds, List.dropWhile_append_of_pos hds, htake.1, htake.2,
    List.append_nil]

theorem exponent_of_stops (h : Stops rest) : exponent rest = .ok (none, rest) := by
  have hsmall : accept 'e' rest = .ok (false, rest) := accept_of_ne (h.head?_ne (by decide))
  have hlarge : accept 'E' rest = .ok (false, rest) := accept_of_ne (h.head?_ne (by decide))
  have hmark : exponentMark rest = .ok (false, rest) := by
    rw [exponentMark, bind_of_ok hsmall]
    exact hlarge
  rw [exponent, bind_of_ok hmark]
  rfl

theorem numeral_repr (n : Nat) (h : Stops rest) :
    numeral ((Nat.repr n).toList ++ rest) = .ok (⟨false, (Nat.repr n).toList, [], none⟩, rest) := by
  have hne : (Nat.repr n).toList ≠ [] := by simp
  have hminus : accept '-' ((Nat.repr n).toList ++ rest) = .ok (false, (Nat.repr n).toList ++ rest) := by
    apply accept_of_ne
    rw [List.head?_append_of_ne_nil _ hne]
    intro hhead
    exact Decimal.not_mem_repr (by decide) n (List.mem_of_mem_head? hhead)
  have hdigits : someDigits ((Nat.repr n).toList ++ rest) = .ok ((Nat.repr n).toList, rest) := by
    rw [someDigits, bind_of_ok (digits_append (fun c => Decimal.isDigit_of_mem_repr) h), if_neg (by simp)]
    rfl
  have hpoint : accept '.' rest = .ok (false, rest) := accept_of_ne (h.head?_ne (by decide))
  rw [numeral, bind_of_ok hminus, bind_of_ok hdigits, if_neg (no_leading_zero n)]
  dsimp only
  rw [bind_of_ok hpoint, if_neg Bool.false_ne_true, pure_bind, bind_of_ok (exponent_of_stops h)]
  rfl

/-- A whole number of 64 bits is read as it was written. -/
theorem number_repr {n : Nat} (hn : n ≤ maxUnsigned) (h : Stops rest) :
    number ((Nat.repr n).toList ++ rest) = .ok (.int n, rest) := by
  have hvalue : (Numeral.mk false (Nat.repr n).toList [] none).value? = some (.int n) := by
    rw [Numeral.value?, if_pos ⟨rfl, rfl⟩, Numeral.ofWhole?, absorb_repr hn]
    rfl
  rw [number, bind_of_ok (numeral_repr n h), hvalue]
  rfl

/-! ## Strings -/

theorem hexDigit?_hexDigit {n : Nat} (h : n < 16) : hexDigit? (hexDigit n) = some n := by
  have hall : ∀ m : Fin 16, hexDigit? (hexDigit m) = some m.val := by decide
  exact hall ⟨n, h⟩

/-- A control character is read from its four digits. -/
theorem character?_control {c : Char} (h : c.toNat < 32) (cs : List Char) :
    character? true ('\\' :: 'u' :: '0' :: '0' :: hexDigit (c.toNat / 16) :: hexDigit (c.toNat % 16) :: cs) =
      some (c, cs) := by
  have hhigh : hexDigit? (hexDigit (c.toNat / 16)) = some (c.toNat / 16) := hexDigit?_hexDigit (by omega)
  have hlow : hexDigit? (hexDigit (c.toNat % 16)) = some (c.toNat % 16) := hexDigit?_hexDigit (by omega)
  have hzero : hexDigit? '0' = some 0 := by decide
  have hunit : ((0 * 16 + 0) * 16 + c.toNat / 16) * 16 + c.toNat % 16 = c.toNat := by omega
  have hfour : fourHex? ('0' :: '0' :: hexDigit (c.toNat / 16) :: hexDigit (c.toNat % 16) :: cs) =
      some (c.toNat, cs) := by
    simp only [fourHex?, hzero, hhigh, hlow, Option.bind_eq_bind, Option.bind_some, hunit]
    rfl
  have hunits : ofUnits? c.toNat cs = some (c, cs) := by
    unfold ofUnits?
    rw [if_neg (by omega), if_neg (by omega), Char.ofNat_toNat]
  rw [character?, hfour]
  exact hunits

/-- A character is written as a letter after a backslash that stands for it, by its four digits, or as itself. -/
theorem escapeChar_cases (c : Char) :
    (∃ d, escapeChar c = ['\\', d] ∧ shortEscape? d = some c) ∨
    (escapeChar c = ['\\', 'u', '0', '0', hexDigit (c.toNat / 16), hexDigit (c.toNat % 16)] ∧ c.toNat < 32) ∨
    (escapeChar c = [c] ∧ c ≠ '"' ∧ c ≠ '\\' ∧ ¬c.toNat < 32) := by
  unfold escapeChar
  split
  · next h => exact Or.inl ⟨_, rfl, by rw [h]; rfl⟩
  split
  · next h => exact Or.inl ⟨_, rfl, by rw [h]; rfl⟩
  split
  · next h => exact Or.inl ⟨_, rfl, by rw [h]; rfl⟩
  split
  · next h => exact Or.inl ⟨_, rfl, by rw [h]; rfl⟩
  split
  · next h => exact Or.inl ⟨_, rfl, by rw [h]; rfl⟩
  split
  · next h => exact Or.inl ⟨_, rfl, by rw [← Char.ofNat_toNat c, h]; rfl⟩
  split
  · next h => exact Or.inl ⟨_, rfl, by rw [← Char.ofNat_toNat c, h]; rfl⟩
  split
  · next h => exact Or.inr (Or.inl ⟨rfl, h⟩)
  · next hquote hback _ _ _ _ _ hcontrol => exact Or.inr (Or.inr ⟨rfl, hquote, hback, hcontrol⟩)

/-- Each character is read from its written form. -/
theorem character?_escapeChar (c : Char) (cs : List Char) :
    character? true (escapeChar c ++ cs) = some (c, cs) := by
  rcases escapeChar_cases c with ⟨d, he, hshort⟩ | ⟨he, hcontrol⟩ | ⟨he, -, hback, hcontrol⟩
  · rw [he, List.cons_append, List.singleton_append, character?, hshort]
    · rfl
    · -- four digits would follow a u, which is no letter of the short forms
      rintro rfl
      cases hshort
  · rw [he]
    exact character?_control hcontrol cs
  · rw [he, List.singleton_append, character?, if_neg (not_or.2 ⟨hback, hcontrol⟩)]
    · intro _ hslash
      exact absurd hslash hback
    · intro _ _ hslash
      exact absurd hslash hback

/-- No written form of a character begins with a quote. -/
theorem escapeChar_eq_cons (c : Char) : ∃ d tail, escapeChar c = d :: tail ∧ d ≠ '"' := by
  rcases escapeChar_cases c with ⟨d, he, -⟩ | ⟨he, -⟩ | ⟨he, hquote, -, -⟩
  · exact ⟨'\\', [d], he, by decide⟩
  · exact ⟨'\\', _, he, by decide⟩
  · exact ⟨c, [], he, hquote⟩

theorem length_le_escaped (cs : List Char) : cs.length ≤ (cs.flatMap escapeChar).length := by
  induction cs with
  | nil => exact Nat.le_refl 0
  | cons c cs ih =>
    obtain ⟨d, tail, he, -⟩ := escapeChar_eq_cons c
    rw [List.flatMap_cons, List.length_append, he, List.length_cons, List.length_cons]
    omega

theorem stringBody_escape {cs : List Char} {fuel : Nat} (h : cs.length < fuel) :
    stringBody true fuel (cs.flatMap escapeChar ++ '"' :: rest) = .ok (cs, rest) := by
  induction cs generalizing fuel with
  | nil =>
    obtain ⟨fuel, rfl⟩ := Nat.exists_eq_add_of_lt h
    rfl
  | cons c cs ih =>
    obtain ⟨fuel, rfl⟩ : ∃ m, fuel = m + 1 := ⟨fuel - 1, by omega⟩
    obtain ⟨d, tail, he, hd⟩ := escapeChar_eq_cons c
    have hread := character?_escapeChar c (cs.flatMap escapeChar ++ '"' :: rest)
    rw [List.flatMap_cons, List.append_assoc]
    rw [he, List.cons_append] at hread ⊢
    rw [stringBody, hread]
    · dsimp only
      rw [ih (by rw [List.length_cons] at h; omega)]
      rfl
    · intro _ hquote
      exact hd (List.cons.inj hquote).1

/-- A string is read as it was written. -/
theorem afterQuote_quote (s : String) :
    afterQuote true (s.toList.flatMap escapeChar ++ '"' :: rest) = .ok (s, rest) := by
  have hfuel : s.toList.length < (s.toList.flatMap escapeChar ++ '"' :: rest).length + 1 := by
    have := length_le_escaped s.toList
    rw [List.length_append]
    omega
  rw [afterQuote, stringBody_escape hfuel]
  change Except.ok (String.ofList s.toList, rest) = _
  rw [String.ofList_toList]

theorem toList_quote (s : String) : (quote s).toList = '"' :: (s.toList.flatMap escapeChar ++ ['"']) := by
  rw [quote, String.toList_ofList]
  rfl

theorem toList_quote_append (s : String) :
    (quote s).toList ++ rest = '"' :: (s.toList.flatMap escapeChar ++ '"' :: rest) := by
  rw [toList_quote, List.cons_append, List.append_assoc]
  rfl

/-! ## Values -/

variable {depth : Nat}

theorem value_quote (cs : List Char) :
    value depth ('"' :: cs) = (do expect '"'; pure (.str (← afterQuote true)) : Reader Json) ('"' :: cs) := by
  rw [value, valueWith.eq_def, bind_of_ok (blanks_of_not_space rfl),
    bind_of_ok (show peek _ = .ok (some '"', _) from rfl)]
  rfl

theorem value_true (cs : List Char) :
    value depth ('t' :: cs) = (do word "true".toList; pure (.bool true) : Reader Json) ('t' :: cs) := by
  rw [value, valueWith.eq_def, bind_of_ok (blanks_of_not_space rfl),
    bind_of_ok (show peek _ = .ok (some 't', _) from rfl)]
  rfl

theorem value_bracket (cs : List Char) :
    value (depth + 1) ('[' :: cs) =
      (do expect '['; pure (.arr (← items (value depth))) : Reader Json) ('[' :: cs) := by
  rw [value, valueWith.eq_def, bind_of_ok (blanks_of_not_space rfl),
    bind_of_ok (show peek _ = .ok (some '[', _) from rfl)]
  rfl

/-- A member of an object, put before those read so far. -/
def member (value : Reader Json) (read : List (String × Json)) : Reader (List (String × Json)) := do
  blanks
  expect '"'
  let name ← afterQuote true
  colon
  pure ((name, ← value) :: read)

theorem value_brace (cs : List Char) :
    value (depth + 1) ('\x7b' :: cs) = (do
      expect '\x7b'
      pure (.obj (← foldItems '\x7d' (member (value depth)) []).reverse) : Reader Json) ('\x7b' :: cs) := by
  rw [value, valueWith.eq_def, bind_of_ok (blanks_of_not_space rfl),
    bind_of_ok (show peek _ = .ok (some '\x7b', _) from rfl)]
  rfl

theorem digit_cases {c : Char} (h : c.isDigit = true) : c ∈ ['0', '1', '2', '3', '4', '5', '6', '7', '8', '9'] := by
  have hbounds : 48 ≤ c.toNat ∧ c.toNat ≤ 57 := by
    simp only [Char.isDigit, ge_iff_le, Bool.and_eq_true, decide_eq_true_eq] at h
    exact h
  have hall : ∀ n : Fin 58, 48 ≤ n.val → Char.ofNat n ∈ ['0', '1', '2', '3', '4', '5', '6', '7', '8', '9'] := by
    decide
  rw [← Char.ofNat_toNat c]
  exact hall ⟨c.toNat, by omega⟩ hbounds.1

theorem value_digit {c : Char} (h : c.isDigit = true) (cs : List Char) :
    value depth (c :: cs) = number (c :: cs) := by
  have hc := digit_cases h
  simp only [List.mem_cons, List.not_mem_nil, or_false] at hc
  rcases hc with rfl | rfl | rfl | rfl | rfl | rfl | rfl | rfl | rfl | rfl <;>
  · rw [value, valueWith.eq_def, bind_of_ok (blanks_of_not_space rfl),
      bind_of_ok (show peek _ = .ok (some _, _) from rfl)]
    rfl

/-- A text that begins neither with a space nor with a closing bracket. -/
def Begins (close : Char) (text : String) : Prop :=
  ∃ c tail, text.toList = c :: tail ∧ isSpace c = false ∧ c ≠ close

/-- A text that is read as a value, whatever may follow a value. -/
structure Written (depth : Nat) (text : String) (j : Json) : Prop where
  begins : Begins ']' text
  reads : ∀ rest, Stops rest → value depth (text.toList ++ rest) = .ok (j, rest)

theorem written_quote (s : String) : Written depth (quote s) (.str s) where
  begins := ⟨'"', _, toList_quote s, rfl, by decide⟩
  reads rest _ := by
    rw [toList_quote_append, value_quote, bind_of_ok (expect_self '"'), bind_of_ok (afterQuote_quote s)]
    rfl

theorem written_true : Written depth "true" (.bool true) where
  begins := ⟨'t', _, rfl, rfl, by decide⟩
  reads rest _ := by
    have htext : "true".toList ++ rest = 't' :: ("rue".toList ++ rest) := rfl
    rw [htext, value_true, ← htext, bind_of_ok (word_append "true".toList)]
    rfl

theorem written_repr {n : Nat} (hn : n ≤ maxUnsigned) : Written depth (Nat.repr n) (.int n) := by
  obtain ⟨c, tail, he⟩ := List.exists_cons_of_ne_nil (show (Nat.repr n).toList ≠ [] by simp)
  have hdigit : c.isDigit = true := Decimal.isDigit_of_mem_repr (he ▸ List.mem_cons_self)
  have hne : ∀ d : Char, d.isDigit = false → c ≠ d := by
    rintro d hd rfl
    exact Bool.false_ne_true (hd.symm.trans hdigit)
  have hspace : isSpace c = false := by
    simp [isSpace, hne ' ' rfl, hne '\n' rfl, hne '\t' rfl, hne '\r' rfl]
  refine ⟨⟨c, tail, he, hspace, hne ']' rfl⟩, fun rest hrest => ?_⟩
  have hread := number_repr hn hrest
  rw [he, List.cons_append] at hread ⊢
  rw [value_digit hdigit, hread]

/-! ## Items between brackets -/

/-- A text that is read as an item, whatever may follow it; the item changes the result in some way. -/
structure WrittenItem (close : Char) (item : σ → Reader σ) (text : String) (change : σ → σ) : Prop where
  begins : Begins close text
  reads : ∀ result rest, Stops rest → item result (text.toList ++ rest) = .ok (change result, rest)

theorem stops_cons {c : Char} (h : c = ',' ∨ c = ']' ∨ c = '\x7d') (cs : List Char) : Stops (c :: cs) := by
  intro d hd
  rw [← Option.some.inj hd]
  exact h

theorem toList_intercalate_cons (t u : String) (ts : List String) :
    (String.intercalate "," (t :: u :: ts)).toList =
      t.toList ++ ',' :: (String.intercalate "," (u :: ts)).toList := by
  rw [String.toList_intercalate, String.toList_intercalate, List.map_cons, List.map_cons,
    List.intercalate_cons_cons, List.append_assoc]
  rfl

theorem toList_intercalate_singleton (t : String) : (String.intercalate "," [t]).toList = t.toList := by
  simp

variable {close : Char} {item : σ → Reader σ}

theorem isSpace_closing (h : close = ']' ∨ close = '\x7d') : isSpace close = false := by
  rcases h with rfl | rfl <;> rfl

/-- Items are read one after the other up to the closing bracket, and each changes the result of those before. -/
theorem foldSome_intercalate (hclose : close = ']' ∨ close = '\x7d') {t : String} {ts : List String} {change : σ → σ}
    {changes : List (σ → σ)} (h : List.Forall₂ (WrittenItem close item) (t :: ts) (change :: changes)) {fuel : Nat}
    (hfuel : ts.length < fuel) (result : σ) :
    foldSome close item fuel result ((String.intercalate "," (t :: ts)).toList ++ close :: rest) =
      .ok (changes.foldl (fun r f => f r) (change result), rest) := by
  obtain ⟨fuel, rfl⟩ : ∃ m, fuel = m + 1 := ⟨fuel - 1, by omega⟩
  obtain ⟨hitem, hrest⟩ := List.forall₂_cons.1 h
  induction ts generalizing t change changes fuel result with
  | nil =>
    obtain rfl : changes = [] := List.forall₂_nil_left_iff.1 hrest
    have hcomma : accept ',' (close :: rest) = .ok (false, close :: rest) := by
      rcases hclose with rfl | rfl <;> rfl
    rw [toList_intercalate_singleton, foldSome, bind_of_ok (hitem.reads result _ (stops_cons (Or.inr hclose) rest)),
      bind_of_ok (blanks_of_not_space (isSpace_closing hclose)), bind_of_ok hcomma, if_neg Bool.false_ne_true,
      bind_of_ok (expect_self close)]
    rfl
  | cons u ts ih =>
    obtain ⟨next, later, hnext, hlater, rfl⟩ := List.forall₂_cons_left_iff.1 hrest
    obtain ⟨fuel, rfl⟩ : ∃ m, fuel = m + 1 := ⟨fuel - 1, by rw [List.length_cons] at hfuel; omega⟩
    have hshort : ts.length < fuel + 1 := by
      rw [List.length_cons] at hfuel
      omega
    rw [toList_intercalate_cons, List.append_assoc, List.cons_append, foldSome,
      bind_of_ok (hitem.reads result _ (stops_cons (Or.inl rfl) _)), bind_of_ok (blanks_of_not_space rfl),
      bind_of_ok (accept_self ','), if_pos rfl]
    exact ih hrest (change result) fuel hshort hnext hlater

/-- Joined texts are long enough for each item to have its turn. -/
theorem length_lt_intercalate (t : String) (ts : List String) (cs : List Char) :
    ts.length < ((String.intercalate "," (t :: ts)).toList ++ close :: cs).length := by
  induction ts generalizing t with
  | nil =>
    rw [List.length_append, List.length_cons, List.length_nil]
    omega
  | cons u ts ih =>
    have hlater := ih u
    rw [toList_intercalate_cons, List.append_assoc, List.cons_append, List.length_append, List.length_cons,
      List.length_cons]
    omega

/-- Items between brackets are read one after the other, also if there are none. -/
theorem foldItems_intercalate (hclose : close = ']' ∨ close = '\x7d') {ts : List String} {changes : List (σ → σ)}
    (h : List.Forall₂ (WrittenItem close item) ts changes) (start : σ) :
    foldItems close item start ((String.intercalate "," ts).toList ++ close :: rest) =
      .ok (changes.foldl (fun r f => f r) start, rest) := by
  cases ts with
  | nil =>
    obtain rfl : changes = [] := List.forall₂_nil_left_iff.1 h
    have htext : (String.intercalate "," []).toList ++ close :: rest = close :: rest := by simp
    rw [htext, foldItems, bind_of_ok (blanks_of_not_space (isSpace_closing hclose)),
      bind_of_ok (accept_self close), if_pos rfl]
    rfl
  | cons t ts =>
    obtain ⟨change, later, hchange, hlater, rfl⟩ := List.forall₂_cons_left_iff.1 h
    obtain ⟨c, tail, he, hspace, hne⟩ := hchange.begins
    obtain ⟨cs, hcs⟩ : ∃ cs, (String.intercalate "," (t :: ts)).toList ++ close :: rest = c :: cs := by
      cases ts with
      | nil => exact ⟨_, by rw [toList_intercalate_singleton, he, List.cons_append]⟩
      | cons u ts => exact ⟨_, by rw [toList_intercalate_cons, he, List.cons_append, List.cons_append]⟩
    have hclosing : (c :: cs).head? ≠ some close := fun hhead => hne (Option.some.inj hhead)
    rw [hcs, foldItems, bind_of_ok (blanks_of_not_space hspace), bind_of_ok (accept_of_ne hclosing),
      if_neg Bool.false_ne_true, ← hcs]
    exact foldSome_intercalate hclose h (length_lt_intercalate t ts rest) start

/-! ## Arrays and objects -/

theorem foldl_map_cons (xs start : List α) :
    (xs.map List.cons).foldl (fun r f => f r) start = xs.reverse ++ start := by
  rw [List.foldl_map]
  exact List.foldl_flip_cons_eq_append'

theorem items_intercalate {ts : List String} {js : List Json} (h : List.Forall₂ (Written depth) ts js) :
    items (value depth) ((String.intercalate "," ts).toList ++ ']' :: rest) = .ok (js, rest) := by
  have hitems : List.Forall₂ (WrittenItem ']' fun xs => do pure ((← value depth) :: xs)) ts (js.map List.cons) := by
    rw [List.forall₂_map_right_iff]
    refine h.imp fun t j hw => ⟨hw.begins, fun result rest hrest => ?_⟩
    rw [bind_of_ok (hw.reads rest hrest)]
    rfl
  rw [items, bind_of_ok (foldItems_intercalate (Or.inl rfl) hitems []), foldl_map_cons, List.append_nil]
  change Except.ok (js.reverse.reverse, rest) = _
  rw [List.reverse_reverse]

/-- An array is read from the texts of its items. -/
theorem written_array {ts : List String} {js : List Json} (h : List.Forall₂ (Written depth) ts js) :
    Written (depth + 1) (arrayText ts) (.arr js) where
  begins := ⟨'[', _, by rw [arrayText, String.toList_append, String.toList_append]; rfl, rfl, by decide⟩
  reads rest _ := by
    have htext : (arrayText ts).toList ++ rest = '[' :: ((String.intercalate "," ts).toList ++ ']' :: rest) := by
      simp [arrayText]
    rw [htext, value_bracket, bind_of_ok (expect_self '['), bind_of_ok (items_intercalate h)]
    rfl

/-- A member is read from its key and the text of its value. -/
theorem writtenItem_member {name text : String} {j : Json} (h : Written depth text j) :
    WrittenItem '\x7d' (member (value depth)) (quote name ++ ":" ++ text) (List.cons (name, j)) where
  begins := ⟨'"', _, by rw [String.toList_append, String.toList_append, toList_quote]; rfl, rfl, by decide⟩
  reads result rest hrest := by
    have htext : (quote name ++ ":" ++ text).toList ++ rest =
        '"' :: (name.toList.flatMap escapeChar ++ '"' :: ':' :: (text.toList ++ rest)) := by
      simp [toList_quote]
    have hcolon : colon (':' :: (text.toList ++ rest)) = .ok ((), text.toList ++ rest) := by
      rw [colon, bind_of_ok (blanks_of_not_space rfl), expect_self]
    rw [htext, member, bind_of_ok (blanks_of_not_space rfl), bind_of_ok (expect_self '"'),
      bind_of_ok (afterQuote_quote name), bind_of_ok hcolon, bind_of_ok (h.reads rest hrest)]
    rfl

/-- The text of a value under a key, for a member. -/
def WrittenMember (depth : Nat) (text : String × String) (m : String × Json) : Prop :=
  text.1 = m.1 ∧ Written depth text.2 m.2

/-- An object is read from its keys and the texts of their values. -/
theorem written_object {texts : List (String × String)} {ms : List (String × Json)}
    (h : List.Forall₂ (WrittenMember depth) texts ms) : Written (depth + 1) (objectText texts) (.obj ms) where
  begins := ⟨'\x7b', _, by rw [objectText, String.toList_append, String.toList_append]; rfl, rfl, by decide⟩
  reads rest _ := by
    have hitems : List.Forall₂ (WrittenItem '\x7d' (member (value depth)))
        (texts.map fun m => quote m.1 ++ ":" ++ m.2) (ms.map List.cons) := by
      rw [List.forall₂_map_left_iff, List.forall₂_map_right_iff]
      refine h.imp fun text m hm => ?_
      obtain ⟨name, text⟩ := text
      obtain ⟨_, j⟩ := m
      obtain ⟨rfl, hw⟩ := hm
      exact writtenItem_member hw
    have htext : (objectText texts).toList ++ rest = '\x7b' ::
        ((String.intercalate "," (texts.map fun m => quote m.1 ++ ":" ++ m.2)).toList ++ '\x7d' :: rest) := by
      simp [objectText]
    rw [htext, value_brace, bind_of_ok (expect_self '\x7b'),
      bind_of_ok (foldItems_intercalate (Or.inr rfl) hitems []), foldl_map_cons, List.append_nil]
    change Except.ok (Json.obj ms.reverse.reverse, rest) = _
    rw [List.reverse_reverse]

/-- A written value is what the whole text is read as. -/
theorem run_of_written {text : String} {j : Json} (h : Written depth text j) : run (value depth) text = .ok j := by
  have hread := h.reads [] (by simp [Stops])
  rw [List.append_nil] at hread
  change (do let p ← (value depth >>= fun x => finish >>= fun _ => pure x) text.toList; pure p.1) = _
  rw [bind_of_ok hread]
  rfl

end Reader
end LoopSurvey.Json
