import LoopSurvey.Proofs.Json.Reading
/-!
# Readers of a shape against the reader of values

A reader finds `x` for a value `j` (`Reader.Finds`) if it takes `x` from every text from which the reader of values
takes `j`, and leaves the same rest. Whole numbers, texts, nulls, lists and objects are found from their parts
(`Reader.finds_unsigned`, `Reader.finds_string`, `Reader.finds_optional_some`, `Reader.finds_list`,
`Reader.finds_complete`), whatever blanks, escapes and nesting the text has. An object is found member by member in
any order: the result of the members read so far is told from their keys alone (`Reader.seen`, `Reader.finds_field`).
-/

namespace LoopSurvey.Json.Reader

variable {rest : List Char} {depth : Nat}

/-! ## Steps taken apart -/

theorem exists_of_bind {r : Reader α} {f : α → Reader β} {cs : List Char} {y : β}
    (h : (r >>= f) cs = .ok (y, rest)) :
    ∃ x between, r cs = .ok (x, between) ∧ f x between = .ok (y, rest) := by
  change (r cs >>= fun p => f p.1 p.2) = .ok (y, rest) at h
  cases hr : r cs with
  | error e =>
    rw [hr] at h
    cases h
  | ok p =>
    rw [hr] at h
    exact ⟨p.1, p.2, rfl, h⟩

theorem eq_of_pure {x y : α} {cs : List Char} (h : (pure x : Reader α) cs = .ok (y, rest)) : x = y ∧ cs = rest := by
  cases h
  exact ⟨rfl, rfl⟩

theorem eq_of_accept {c : Char} {cs : List Char} (h : accept c cs = .ok (true, rest)) : cs = c :: rest := by
  cases cs with
  | nil => cases h
  | cons d cs =>
    rw [accept] at h
    split at h
    · next hd =>
      cases h
      rw [hd]
    · cases h

theorem eq_of_expect {c : Char} {cs : List Char} {u : Unit} (h : expect c cs = .ok (u, rest)) : cs = c :: rest := by
  obtain ⟨found, between, haccept, hfound⟩ := exists_of_bind h
  cases found with
  | true =>
    obtain ⟨-, rfl⟩ := eq_of_pure hfound
    exact eq_of_accept haccept
  | false => cases hfound

theorem bind_blanks (f : Unit → Reader α) (cs : List Char) : (blanks >>= f) cs = f () (cs.dropWhile isSpace) :=
  bind_of_ok rfl

theorem bind_peek (f : Option Char → Reader α) (cs : List Char) : (peek >>= f) cs = f cs.head? cs :=
  bind_of_ok rfl

/-! ## Where a value begins -/

/-- A value that is a number. -/
def IsNumber (j : Json) : Prop := (∃ n, j = .int n) ∨ ∃ x, j = .float x

theorem isNumber_of_map {x : Option Float} {f : Float → Float} {j : Json}
    (h : (x.map fun x => Json.float (f x)) = some j) : IsNumber j := by
  obtain ⟨y, -, hy⟩ := Option.map_eq_some_iff.1 h
  exact Or.inr ⟨_, hy.symm⟩

theorem isNumber_of_ofWhole? {negative : Bool} {whole : List Char} {j : Json}
    (h : Numeral.ofWhole? negative whole = some j) : IsNumber j := by
  unfold Numeral.ofWhole? at h
  split at h
  · split at h
    · exact Or.inl ⟨_, (Option.some.inj h).symm⟩
    split at h
    · exact Or.inl ⟨_, (Option.some.inj h).symm⟩
    · exact Or.inr ⟨_, (Option.some.inj h).symm⟩
  · exact isNumber_of_map h

theorem isNumber_of_number {cs : List Char} {j : Json} (h : number cs = .ok (j, rest)) : IsNumber j := by
  obtain ⟨t, between, -, hvalue⟩ := exists_of_bind h
  cases hj : t.value? with
  | none =>
    rw [hj] at hvalue
    cases hvalue
  | some j' =>
    rw [hj] at hvalue
    obtain ⟨rfl, -⟩ := eq_of_pure hvalue
    unfold Numeral.value? at hj
    split at hj
    · exact isNumber_of_ofWhole? hj
    · exact isNumber_of_map hj

/-- How a value stands before the rest of a text that begins with no blank. -/
inductive Stands (rest : List Char) : Nat → List Char → Json → Prop
  | null {depth cs} : cs.head? = some 'n' → word "null".toList cs = .ok ((), rest) → Stands rest depth cs .null
  | bool {depth cs b} : cs.head? ≠ some 'n' → Stands rest depth cs (.bool b)
  | int {depth c tail n} : (c = '-' ∨ c.isDigit) → number (c :: tail) = .ok (.int n, rest) →
      Stands rest depth (c :: tail) (.int n)
  | float {depth c tail x} : (c = '-' ∨ c.isDigit) → number (c :: tail) = .ok (.float x, rest) →
      Stands rest depth (c :: tail) (.float x)
  | str {depth tail s} : afterQuote true tail = .ok (s, rest) → Stands rest depth ('"' :: tail) (.str s)
  | arr {depth tail js} : items (value depth) tail = .ok (js, rest) → Stands rest (depth + 1) ('[' :: tail) (.arr js)
  | obj {depth tail reversed} : foldItems '\x7d' (member (value depth)) [] tail = .ok (reversed, rest) →
      Stands rest (depth + 1) ('\x7b' :: tail) (.obj reversed.reverse)

theorem exists_reader {r : Reader α} {cs : List Char} {y : Except Fault (α × List Char)} (h : r cs = y) :
    ∃ reader, r = reader ∧ reader cs = y :=
  ⟨r, rfl, h⟩

theorem stands_of_value {cs : List Char} {j : Json} (h : value depth cs = .ok (j, rest)) :
    Stands rest depth (cs.dropWhile isSpace) j := by
  rw [value, valueWith.eq_def, bind_blanks, bind_peek] at h
  generalize cs.dropWhile isSpace = cs at h ⊢
  -- the cases are those of the reader, which stands applied to the text
  obtain ⟨reader, hreader, h⟩ := exists_reader h
  split at hreader <;> subst hreader
  · next hc =>
    obtain ⟨_, between, hword, hj⟩ := exists_of_bind h
    obtain ⟨rfl, rfl⟩ := eq_of_pure hj
    exact .null hc hword
  · next hc =>
    obtain ⟨_, between, -, hj⟩ := exists_of_bind h
    obtain ⟨rfl, rfl⟩ := eq_of_pure hj
    exact .bool (by rw [hc]; decide)
  · next hc =>
    obtain ⟨_, between, -, hj⟩ := exists_of_bind h
    obtain ⟨rfl, rfl⟩ := eq_of_pure hj
    exact .bool (by rw [hc]; decide)
  · obtain ⟨_, tail, hexpect, hs⟩ := exists_of_bind h
    obtain ⟨s, between, hread, hj⟩ := exists_of_bind hs
    obtain ⟨rfl, rfl⟩ := eq_of_pure hj
    rw [eq_of_expect hexpect]
    exact .str hread
  · cases depth with
    | zero => cases h
    | succ depth =>
      obtain ⟨_, tail, hexpect, hs⟩ := exists_of_bind h
      obtain ⟨js, between, hread, hj⟩ := exists_of_bind hs
      obtain ⟨rfl, rfl⟩ := eq_of_pure hj
      rw [eq_of_expect hexpect]
      exact .arr hread
  · cases depth with
    | zero => cases h
    | succ depth =>
      obtain ⟨_, tail, hexpect, hs⟩ := exists_of_bind h
      obtain ⟨reversed, between, hread, hj⟩ := exists_of_bind hs
      obtain ⟨rfl, rfl⟩ := eq_of_pure hj
      rw [eq_of_expect hexpect]
      exact .obj hread
  · next c _ _ _ _ _ _ hc =>
    split at h
    · next hdigit =>
      obtain ⟨tail, rfl⟩ := List.head?_eq_some_iff.1 hc
      rcases isNumber_of_number h with ⟨n, rfl⟩ | ⟨x, rfl⟩
      · exact .int hdigit h
      · exact .float hdigit h
    · cases h
  · cases h

/-! ## Readers that find what was read -/

/-- From every text from which the value `j` is taken, a reader takes `x`. -/
def Finds (reader : Reader α) (j : Json) (x : α) : Prop :=
  ∀ depth cs rest, value depth cs = .ok (j, rest) → reader cs = .ok (x, rest)

variable {reader : Reader α} {j : Json} {x : α}

theorem dropWhile_blanks (cs : List Char) : (cs.dropWhile isSpace).dropWhile isSpace = cs.dropWhile isSpace := by
  cases h : cs.dropWhile isSpace with
  | nil => rfl
  | cons c tail =>
    have hc : isSpace c = false := by
      simpa [h] using List.head?_dropWhile_not isSpace cs
    rw [List.dropWhile_cons_of_neg (by simp [hc])]

/-- Blanks in front of a value do not matter. -/
theorem value_dropWhile (cs : List Char) : value depth (cs.dropWhile isSpace) = value depth cs := by
  rw [value, valueWith.eq_def, bind_blanks, bind_blanks, dropWhile_blanks]

theorem finds_unsigned {n max : Nat} (h : n ≤ max) : Finds (unsigned max) (.int n) n := by
  intro depth cs rest hread
  have hstands := stands_of_value hread
  rw [unsigned, bind_blanks, bind_peek]
  generalize cs.dropWhile isSpace = cs at hstands ⊢
  cases hstands with
  | int hc hnumber =>
    dsimp only [List.head?_cons]
    rw [if_pos hc, bind_of_ok hnumber]
    dsimp only
    rw [if_pos ⟨Int.natCast_nonneg n, Int.ofNat_le.2 h⟩]
    rfl

theorem finds_string (s : String) : Finds string (.str s) s := by
  intro depth cs rest hread
  have hstands := stands_of_value hread
  rw [string, bind_blanks]
  generalize cs.dropWhile isSpace = cs at hstands ⊢
  cases hstands with
  | str hafter => rw [bind_of_ok (accept_self '"'), if_pos rfl, hafter]

theorem finds_optional_none (reader : Reader α) : Finds (optional reader) .null none := by
  intro depth cs rest hread
  have hstands := stands_of_value hread
  rw [optional, bind_blanks, bind_peek]
  generalize cs.dropWhile isSpace = cs at hstands ⊢
  cases hstands with
  | null hc hword =>
    rw [if_pos hc, bind_of_ok hword]
    rfl

/-- Only null begins with its first letter. -/
theorem head?_ne_of_value {cs : List Char} (h : value depth cs = .ok (j, rest)) (hj : j ≠ .null) :
    (cs.dropWhile isSpace).head? ≠ some 'n' := by
  have hstands := stands_of_value h
  generalize cs.dropWhile isSpace = cs at hstands ⊢
  cases hstands with
  | null => exact absurd rfl hj
  | bool hc => exact hc
  | int hc _ | float hc _ =>
    intro he
    rw [Option.some.inj he] at hc
    exact absurd hc (by decide)
  | str | arr | obj => simp

theorem finds_optional_some (h : Finds reader j x) (hj : j ≠ .null) : Finds (optional reader) j (some x) := by
  intro depth cs rest hread
  have hfound : reader (cs.dropWhile isSpace) = .ok (x, rest) :=
    h depth _ rest (by rw [value_dropWhile, hread])
  rw [optional, bind_blanks, bind_peek, if_neg (head?_ne_of_value hread hj), map_eq_pure_bind, bind_of_ok hfound]
  rfl

/-! ## Items one after the other -/

section Items

variable {τ β : Type} {element : Reader β} {item : τ → Reader τ} {close : Char}

/-- Wherever the element `y` is taken, an item is taken that changes the result from `t` to `t'`. -/
def Takes (element : Reader β) (item : τ → Reader τ) (y : β) (t t' : τ) : Prop :=
  ∀ cs rest, element cs = .ok (y, rest) → item t cs = .ok (t', rest)

/-- Elements whose items change the result from `t` to `t'`, one after the other. -/
inductive TakesAll (element : Reader β) (item : τ → Reader τ) : List β → τ → τ → Prop
  | nil {t} : TakesAll element item [] t t
  | cons {y ys t t' t''} : Takes element item y t t' → TakesAll element item ys t' t'' →
      TakesAll element item (y :: ys) t t''

/-- An element put before those taken so far. -/
def collect (element : Reader β) (taken : List β) : Reader (List β) := do pure ((← element) :: taken)

theorem exists_of_collect {taken taken' : List β} {cs : List Char}
    (h : collect element taken cs = .ok (taken', rest)) :
    ∃ y, element cs = .ok (y, rest) ∧ taken' = y :: taken := by
  obtain ⟨y, between, hy, htaken⟩ := exists_of_bind h
  obtain ⟨rfl, rfl⟩ := eq_of_pure htaken
  exact ⟨y, hy, rfl⟩

/-- Collected elements are put before those there were. -/
theorem exists_of_foldSome {fuel : Nat} {taken taken' : List β} {cs : List Char}
    (h : foldSome close (collect element) fuel taken cs = .ok (taken', rest)) :
    ∃ ys, taken' = ys.reverse ++ taken ∧
      ∀ {item : τ → Reader τ} {t t' : τ}, TakesAll element item ys t t' →
        foldSome close item fuel t cs = .ok (t', rest) := by
  -- both readers use up the fuel alike, one turn for each comma
  induction fuel generalizing taken cs with
  | zero => cases h
  | succ fuel ih =>
    obtain ⟨between, afterItem, hitem, hmore⟩ := exists_of_bind h
    obtain ⟨y, hy, rfl⟩ := exists_of_collect hitem
    rw [bind_blanks] at hmore
    obtain ⟨comma, afterComma, hcomma, hrest⟩ := exists_of_bind hmore
    cases comma with
    | true =>
      obtain ⟨ys, rfl, hys⟩ := ih hrest
      refine ⟨y :: ys, by simp, fun hall => ?_⟩
      cases hall with
      | cons htake hall =>
        rw [foldSome, bind_of_ok (htake _ _ hy), bind_blanks, bind_of_ok hcomma, if_pos rfl]
        exact hys hall
    | false =>
      obtain ⟨_, _, hclose, hpure⟩ := exists_of_bind hrest
      obtain ⟨rfl, rfl⟩ := eq_of_pure hpure
      refine ⟨[y], rfl, fun hall => ?_⟩
      cases hall with
      | cons htake hall =>
        cases hall
        rw [foldSome, bind_of_ok (htake _ _ hy), bind_blanks, bind_of_ok hcomma, if_neg Bool.false_ne_true,
          bind_of_ok hclose]
        rfl

/-- Where elements are collected between brackets, their items are taken one after the other. -/
theorem foldItems_of_collect {ys : List β} {t t' : τ} {cs : List Char}
    (h : foldItems close (collect element) [] cs = .ok (ys.reverse, rest)) (hall : TakesAll element item ys t t') :
    foldItems close item t cs = .ok (t', rest) := by
  rw [foldItems, bind_blanks] at h ⊢
  obtain ⟨closed, between, hclose, hmore⟩ := exists_of_bind h
  rw [bind_of_ok hclose]
  cases closed with
  | true =>
    obtain ⟨hnil, rfl⟩ := eq_of_pure hmore
    obtain rfl : ys = [] := by simpa using hnil.symm
    cases hall
    rfl
  | false =>
    obtain ⟨ys', hys, hfold⟩ := exists_of_foldSome (τ := τ) hmore
    rw [List.append_nil, List.reverse_inj] at hys
    exact hfold (hys ▸ hall)

end Items

/-! ## Arrays and objects -/

theorem takesAll_list {item : Reader α} {js : List Json} {xs : List α} (h : List.Forall₂ (Finds item) js xs)
    (taken : List α) : TakesAll (value depth) (collect item) js taken (xs.reverse ++ taken) := by
  induction h generalizing taken with
  | nil => exact .nil
  | @cons j x js xs hfinds _ ih =>
    have htake : Takes (value depth) (collect item) j taken (x :: taken) := by
      intro cs rest hread
      rw [collect, bind_of_ok (hfinds _ _ _ hread)]
      rfl
    rw [List.reverse_cons, List.append_assoc]
    exact .cons htake (ih (x :: taken))

theorem finds_list {item : Reader α} {js : List Json} {xs : List α} (h : List.Forall₂ (Finds item) js xs) :
    Finds (list item) (.arr js) xs := by
  intro depth cs rest hread
  have hstands := stands_of_value hread
  rw [list, bind_blanks]
  generalize cs.dropWhile isSpace = cs at hstands ⊢
  cases hstands with
  | arr hitems =>
    obtain ⟨reversed, _, hfold, hpure⟩ := exists_of_bind hitems
    obtain ⟨rfl, rfl⟩ := eq_of_pure hpure
    have hfound := foldItems_of_collect (by rw [List.reverse_reverse]; exact hfold) (takesAll_list h [])
    rw [bind_of_ok (accept_self '['), if_pos rfl]
    change (foldItems ']' (collect item) [] >>= fun reversed => pure reversed.reverse) _ = _
    rw [bind_of_ok hfound, List.append_nil]
    change Except.ok (xs.reverse.reverse, _) = _
    rw [List.reverse_reverse]

/-- A key with its value. -/
def entry (depth : Nat) : Reader (String × Json) := do
  let name ← key
  colon
  pure (name, ← value depth)

theorem member_eq_collect : member (value depth) = collect (entry depth) := by
  funext taken
  simp only [member, collect, entry, key, bind_assoc, pure_bind]

section Objects

variable {σ : Type} {known : String → σ → Except Fault (Reader σ)} {ms : List (String × Json)}

/-- The item of a record, for the members it knows. -/
def recordItem (known : String → σ → Except Fault (Reader σ)) (result : σ) : Reader σ := do
  match known (← key) result with
  | .error f => refuse f
  | .ok reader => colon; reader

theorem takes_entry {name : String} {t t' : σ} {reader : Reader σ} (hknown : known name t = .ok reader)
    (hfinds : Finds reader j t') : Takes (entry depth) (recordItem known) (name, j) t t' := by
  intro cs rest hread
  obtain ⟨found, afterKey, hkey, hmore⟩ := exists_of_bind hread
  obtain ⟨_, afterColon, hcolon, hmore⟩ := exists_of_bind hmore
  obtain ⟨value, afterValue, hvalue, hpure⟩ := exists_of_bind hmore
  obtain ⟨hpair, rfl⟩ := eq_of_pure hpure
  cases hpair
  rw [recordItem, bind_of_ok hkey, hknown]
  dsimp only
  rw [bind_of_ok hcolon]
  exact hfinds _ _ _ hvalue

/-- Members with keys of their own are taken one after the other, if the result can be told from the keys taken so
far and each member adds its own. -/
theorem takesAll_members {state : List String → σ}
    (hstep : ∀ keys, ∀ m ∈ ms, m.1 ∉ keys → ∃ reader, known m.1 (state keys) = .ok reader ∧
      Finds reader m.2 (state (m.1 :: keys)))
    {keys : List String} (hnodup : (ms.map Prod.fst).Nodup) (hfresh : ∀ m ∈ ms, m.1 ∉ keys) :
    TakesAll (entry depth) (recordItem known) ms (state keys) (state ((ms.map Prod.fst).reverse ++ keys)) := by
  induction ms generalizing keys with
  | nil => exact .nil
  | cons m ms ih =>
    obtain ⟨reader, hknown, hfinds⟩ := hstep keys m List.mem_cons_self (hfresh m List.mem_cons_self)
    rw [List.map_cons, List.nodup_cons] at hnodup
    rw [List.map_cons, List.reverse_cons, List.append_assoc]
    refine .cons (takes_entry hknown hfinds) (ih (fun keys m' hm' => hstep keys m' (List.mem_cons_of_mem _ hm'))
      hnodup.2 fun m' hm' => ?_)
    rw [List.mem_cons, not_or]
    refine ⟨fun he => hnodup.1 (he ▸ List.mem_map_of_mem hm'), hfresh m' (List.mem_cons_of_mem _ hm')⟩

/-- An object is found if the members are taken one after the other and leave a finished result. -/
theorem finds_complete {names : List String} (state : List String → σ) {finished : σ → Option α}
    (hstep : ∀ keys, ∀ m ∈ ms, m.1 ∉ keys → ∃ reader, known m.1 (state keys) = .ok reader ∧
      Finds reader m.2 (state (m.1 :: keys)))
    (hnodup : (ms.map Prod.fst).Nodup) (hfinished : finished (state (ms.map Prod.fst).reverse) = some x) :
    Finds (complete names known (state []) finished) (.obj ms) x := by
  intro depth cs rest hread
  have hstands := stands_of_value hread
  have hfields : fields names known (state []) cs = .ok (state (ms.map Prod.fst).reverse, rest) := by
    rw [fields, bind_blanks]
    generalize cs.dropWhile isSpace = cs at hstands ⊢
    cases hstands with
    | @obj depth tail reversed hfold =>
      rw [member_eq_collect] at hfold
      have hall : TakesAll (entry depth) (recordItem known) reversed.reverse (state [])
          (state ((reversed.reverse.map Prod.fst).reverse ++ [])) :=
        takesAll_members hstep hnodup fun _ _ => List.not_mem_nil
      rw [List.append_nil] at hall
      -- it is no array, and so a record
      have hbracket : accept '[' ('\x7b' :: tail) = .ok (false, '\x7b' :: tail) := accept_of_ne (by simp)
      rw [bind_of_ok hbracket, if_neg Bool.false_ne_true, record, bind_blanks,
        List.dropWhile_cons_of_neg (by decide), bind_of_ok (accept_self '\x7b'), if_pos rfl]
      exact foldItems_of_collect (by rw [List.reverse_reverse]; exact hfold) hall
  rw [complete, bind_of_ok hfields, hfinished]
  rfl

end Objects

section Fields

variable {keys : List String} {key : String}

/-- What is known of a field once its key is among those read. -/
def seen (keys : List String) (key : String) (x : α) : Option α := if key ∈ keys then some x else none

theorem seen_of_mem (h : key ∈ keys) : seen keys key x = some x := if_pos h

theorem seen_of_not_mem (h : key ∉ keys) : seen keys key x = none := if_neg h

theorem seen_cons_self : seen (key :: keys) key x = some x := seen_of_mem List.mem_cons_self

theorem seen_cons_of_ne {other : String} (h : key ≠ other) : seen (other :: keys) key x = seen keys key x := by
  simp only [seen, List.mem_cons, h, false_or]

/-- A field that may be left out is known if it is read or there is nothing to know. -/
theorem getD_seen {x : Option α} (h : ∀ y, x = some y → key ∈ keys) : (seen keys key x).getD none = x := by
  by_cases hkey : key ∈ keys
  · rw [seen_of_mem hkey, Option.getD_some]
  · rw [seen_of_not_mem hkey, Option.getD_none]
    cases x with
    | none => rfl
    | some y => exact absurd (h y rfl) hkey

/-- A field that is not yet known is taken. -/
theorem finds_field {σ : Type} (hfresh : key ∉ keys) (h : Finds reader j x) (set : α → σ) :
    ∃ r, once (seen keys key x) reader set = .ok r ∧ Finds r j (set x) := by
  refine ⟨set <$> reader, by rw [seen_of_not_mem hfresh]; rfl, fun depth cs rest hread => ?_⟩
  rw [map_eq_pure_bind, bind_of_ok (h depth cs rest hread)]
  rfl

end Fields

/-! ## Whole texts -/

/-- A whole text is read if nothing is left to be read after what was taken. -/
theorem run_eq_ok_iff {text : String} :
    run reader text = .ok x ↔ ∃ rest, reader text.toList = .ok (x, rest) ∧ ∃ done, finish rest = .ok done := by
  have hrun : run reader text =
      ((reader >>= fun x => finish >>= fun _ => pure x) text.toList >>= fun p => pure p.1) := rfl
  rw [hrun]
  constructor
  · intro h
    cases hread : (reader >>= fun x => finish >>= fun _ => pure x) text.toList with
    | error e =>
      rw [hread] at h
      cases h
    | ok p =>
      rw [hread] at h
      obtain ⟨y, rest, hreader, hfinish⟩ := exists_of_bind hread
      obtain ⟨u, done, hdone, hpure⟩ := exists_of_bind hfinish
      have hy : y = x := (eq_of_pure hpure).1.trans (Except.ok.inj h)
      exact ⟨rest, hy ▸ hreader, _, hdone⟩
  · rintro ⟨rest, hreader, ⟨u, done⟩, hdone⟩
    rw [bind_of_ok hreader, bind_of_ok hdone]
    rfl

/-- Where a value is read from a whole text, a reader that finds it reads the whole text, too. -/
theorem run_of_finds (h : Finds reader j x) {text : String} (htext : run (value depth) text = .ok j) :
    run reader text = .ok x := by
  obtain ⟨rest, hread, hdone⟩ := run_eq_ok_iff.1 htext
  exact run_eq_ok_iff.2 ⟨rest, h depth _ _ hread, hdone⟩

end LoopSurvey.Json.Reader
