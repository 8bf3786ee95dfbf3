import LoopSurvey.Proofs.Record.Loading
/-!
# Nodes registered for a line

The tables of a record list identifiers under keys, and several keys may begin with the number of one line. Of these
the last one counts (`Record.sameLine_of_tables`), so which identifiers are found for the line depends on the order in
which the keys come. All of them are found in every order just if all keys of the line list the same ones
(`Record.sameLine_lossless_iff`).
-/

namespace LoopSurvey

/-! ## Tables by key -/

section Tables

variable {κ : Type} [DecidableEq κ] {α β γ : Type} {ε : Type}

/-- Of the members with one key the last one is found. -/
theorem lookup_lastOfEach (l : List (κ × α)) (k : κ) :
    (Json.lastOfEach l).lookup k = (l.filter (·.1 = k)).getLast?.map Prod.snd := by
  induction l with
  | nil => rfl
  | cons m l ih =>
    obtain ⟨key, value⟩ := m
    rw [Json.lastOfEach]
    by_cases hk : key = k
    · subst hk
      have hfilter : ((key, value) :: l).filter (·.1 = key) = (key, value) :: l.filter (·.1 = key) :=
        List.filter_cons_of_pos (decide_eq_true rfl)
      rw [hfilter]
      by_cases hlater : l.any (·.1 = key) = true
      · obtain ⟨m', hm', hkey⟩ := List.any_eq_true.1 hlater
        have hne : l.filter (·.1 = key) ≠ [] := List.ne_nil_of_mem (List.mem_filter.2 ⟨hm', hkey⟩)
        rw [if_pos hlater, ih, List.getLast?_cons_of_ne_nil hne]
      · have hnil : l.filter (·.1 = key) = [] := List.filter_eq_nil_iff.2 fun m' hm' hkey =>
          hlater (List.any_eq_true.2 ⟨m', hm', hkey⟩)
        rw [if_neg hlater, hnil, List.lookup_cons_self]
        rfl
    · have hbeq : (k == key) = false := beq_eq_false_iff_ne.2 (Ne.symm hk)
      rw [List.filter_cons_of_neg (by simpa using hk), ← ih]
      split
      · rfl
      · rw [List.lookup_cons, hbeq]

/-- The steps of a list, each seen from its result and from what it started with. -/
theorem map_of_mapM {f : α → Except ε β} {g : β → γ} {g' : α → γ} (h : ∀ a b, f a = .ok b → g b = g' a) {l : List α}
    {bs : List β} (hl : l.mapM f = .ok bs) : bs.map g = l.map g' := by
  induction l generalizing bs with
  | nil =>
    cases hl
    rfl
  | cons a l ih =>
    rw [List.mapM_cons] at hl
    obtain ⟨b, hb, hrest⟩ := bind_eq_ok.1 hl
    obtain ⟨bs', hbs', hcons⟩ := bind_eq_ok.1 hrest
    obtain rfl := pure_eq_ok.1 hcons
    rw [List.map_cons, List.map_cons, h a b hb, ih hbs']

/-- What is found in a table that was made step by step is made from what was found before. -/
theorem lookup_of_mapM {f : α → Except ε β} {l : List (κ × α)} {l' : List (κ × β)}
    (h : (l.mapM fun e => do pure (e.1, ← f e.2)) = .ok l') (k : κ) :
    (l'.lookup k).map Except.ok = (l.lookup k).map f := by
  induction l generalizing l' with
  | nil =>
    cases h
    rfl
  | cons e l ih =>
    obtain ⟨key, a⟩ := e
    rw [List.mapM_cons] at h
    obtain ⟨e', he, hrest⟩ := bind_eq_ok.1 h
    obtain ⟨rest', hrest', hcons⟩ := bind_eq_ok.1 hrest
    obtain ⟨b, hb, hpair⟩ := bind_eq_ok.1 he
    obtain rfl := pure_eq_ok.1 hcons
    obtain rfl := pure_eq_ok.1 hpair
    rw [List.lookup_cons, List.lookup_cons]
    cases k == key with
    | true => exact congrArg some hb.symm
    | false => exact ih hrest'

end Tables

theorem map_text_of_mapM_toId {ids : List Scalar} {known : List NodeId} (h : ids.mapM Scalar.toId = .ok known) :
    known.map NodeId.text = ids.map Scalar.toText :=
  map_of_mapM (fun _ _ => Scalar.toId_eq_ok_iff.1) h

namespace Record

variable {r r' first : Record} {t t' : Tables} {entries : List (String × List Scalar)}
  {table : List (Nat × List NodeId)} {path : String} {n : Nat}

/-! ## What is found for a line -/

/-- The identifiers listed under each key that begins with a number, in the order of the keys. -/
def listedFor (entries : List (String × List Scalar)) (n : Nat) : List (List String) :=
  (entries.filter fun e => leadingNumber? e.1 = some n).map fun e => e.2.map Scalar.toText

/-- The identifiers that a record registers for a line of a file, key by key. -/
def registered (r : Record) (path : String) (n : Nat) : List (List String) :=
  listedFor ((r.lines.lookup path).getD []) n

/-- The keys of a line are those that are numbered so. -/
theorem map_filter_numbered (entries : List (String × List Scalar)) (n : Nat) :
    ((entries.filterMap fun e => (leadingNumber? e.1).map (·, e.2)).filter (·.1 = n)).map
      (fun e => e.2.map Scalar.toText) = listedFor entries n := by
  rw [listedFor, List.filter_filterMap, List.map_filterMap,
    ← List.filterMap_eq_map (f := fun e : String × List Scalar => e.2.map Scalar.toText), List.filterMap_filter]
  refine List.filterMap_congr fun e _ => ?_
  cases leadingNumber? e.1 with
  | none => rfl
  | some k => by_cases hk : k = n <;> simp [hk]

/-- For a line, what the last of its keys lists is found. -/
theorem lookup_lineEntries (h : lineEntries entries = .ok table) (n : Nat) :
    (table.lookup n).map (·.map NodeId.text) = (listedFor entries n).getLast? := by
  unfold lineEntries at h
  obtain ⟨known, hknown, htable⟩ := bind_eq_ok.1 h
  obtain rfl := pure_eq_ok.1 htable
  have htexts : known.map (fun e => (e.1, e.2.map NodeId.text)) =
      (entries.filterMap fun e => (leadingNumber? e.1).map (·, e.2)).map
        fun e => (e.1, e.2.map Scalar.toText) := by
    refine map_of_mapM (fun a b hb => ?_) hknown
    obtain ⟨ids, hids, hb'⟩ := bind_eq_ok.1 hb
    obtain rfl := pure_eq_ok.1 hb'
    rw [map_text_of_mapM_toId hids]
  have hfiltered : (known.filter (·.1 = n)).map (fun e => e.2.map NodeId.text) = listedFor entries n := by
    have hsame := congrArg (fun l => (l.filter (·.1 = n)).map Prod.snd) htexts
    simp only [List.filter_map, List.map_map] at hsame
    exact hsame.trans (map_filter_numbered entries n)
  rw [lookup_lastOfEach, Option.map_map, ← hfiltered, List.getLast?_map]
  rfl

theorem lines_of_tables (h : r.tables = .ok t) :
    (r.lines.mapM fun e => do pure (e.1, ← lineEntries e.2)) = .ok t.lines := by
  obtain ⟨lines, hlines, hrest⟩ := bind_eq_ok.1 h
  obtain ⟨callees, -, hrest⟩ := bind_eq_ok.1 hrest
  obtain ⟨targets, -, hrest⟩ := bind_eq_ok.1 hrest
  obtain ⟨lastViewed, -, hrest⟩ := bind_eq_ok.1 hrest
  obtain rfl := pure_eq_ok.1 hrest
  exact hlines

/-- For a line of a file, what the last of its keys lists is found, and nothing if there is no such key. -/
theorem sameLine_of_tables (h : r.tables = .ok t) (path : String) (n : Nat) :
    (t.sameLine path n).map NodeId.text = ((r.registered path n).getLast?).getD [] := by
  have hlookup := lookup_of_mapM (lines_of_tables h) path
  unfold Tables.sameLine registered
  cases hentries : r.lines.lookup path with
  | none =>
    rw [hentries] at hlookup
    rw [Option.map_eq_none_iff.1 hlookup]
    rfl
  | some entries =>
    rw [hentries, Option.map_some] at hlookup
    obtain ⟨table, htable, hok⟩ := Option.map_eq_some_iff.1 hlookup
    rw [htable, Option.bind_some, Option.getD_some, ← lookup_lineEntries hok.symm]
    cases table.lookup n <;> rfl

/-! ## Other orders of the keys -/

/-- Two tables of one file, with the keys in some order each. -/
def SameFile (file file' : String × List (String × List Scalar)) : Prop := file.1 = file'.1 ∧ file.2.Perm file'.2

/-- The same record, with the keys of the lines of each file in some order. -/
def Reordered (r r' : Record) : Prop := ∃ lines, r' = { r with lines } ∧ List.Forall₂ SameFile r.lines lines

theorem forall_mem_of_forall₂ {R : α → β → Prop} {P : α → Prop} {Q : β → Prop} {l : List α} {l' : List β}
    (h : List.Forall₂ R l l') (hR : ∀ a b, R a b → P a → Q b) (hl : ∀ a ∈ l, P a) : ∀ b ∈ l', Q b := by
  induction h with
  | nil => exact nofun
  | cons hab _ ih =>
    rw [List.forall_mem_cons] at hl ⊢
    exact ⟨hR _ _ hab hl.1, ih hl.2⟩

/-- In any order of its keys, the tables of a record can be taken if they can in one. -/
theorem Reordered.listsIds (h : r.Reordered r') (hr : r.ListsIds) : r'.ListsIds := by
  obtain ⟨lines, rfl, hlines⟩ := h
  refine ⟨forall_mem_of_forall₂ hlines (fun file file' hfile hids e he => ?_) hr.lines, hr.callees, hr.targets,
    hr.lastViewed⟩
  exact hids e (hfile.2.mem_iff.2 he)

theorem perm_lookup {files files' : List (String × List (String × List Scalar))} (h : List.Forall₂ SameFile files files')
    (path : String) : ((files.lookup path).getD []).Perm ((files'.lookup path).getD []) := by
  induction h with
  | nil => exact List.Perm.refl _
  | @cons file file' _ _ hfile _ ih =>
    obtain ⟨name, entries⟩ := file
    obtain ⟨name', entries'⟩ := file'
    obtain ⟨rfl, hperm⟩ := hfile
    rw [List.lookup_cons, List.lookup_cons]
    cases path == name with
    | true => exact hperm
    | false => exact ih

/-- The order of the keys does not matter to what is registered, but for the order of that. -/
theorem Reordered.registered_perm (h : r.Reordered r') (path : String) (n : Nat) :
    (r.registered path n).Perm (r'.registered path n) := by
  obtain ⟨lines, rfl, hlines⟩ := h
  exact ((perm_lookup hlines path).filter _).map _

/-- The keys of a file may come in any order. -/
theorem exists_reordered {entries' : List (String × List Scalar)} (h : r.lines.lookup path = some entries)
    (hperm : entries.Perm entries') : ∃ r', r.Reordered r' ∧ r'.lines.lookup path = some entries' := by
  suffices hlines : ∀ files : List (String × List (String × List Scalar)), files.lookup path = some entries →
      ∃ lines, List.Forall₂ SameFile files lines ∧ lines.lookup path = some entries' by
    obtain ⟨lines, hall, hlookup⟩ := hlines r.lines h
    exact ⟨{ r with lines }, ⟨lines, rfl, hall⟩, hlookup⟩
  intro files hfiles
  induction files with
  | nil => cases hfiles
  | cons file files ih =>
    obtain ⟨name, keys⟩ := file
    rw [List.lookup_cons] at hfiles
    cases hname : path == name with
    | true =>
      rw [hname] at hfiles
      cases hfiles
      exact ⟨(name, entries') :: files, .cons ⟨rfl, hperm⟩ (List.forall₂_same.2 fun _ _ => ⟨rfl, .refl _⟩),
        by rw [List.lookup_cons, hname]⟩
    | false =>
      rw [hname] at hfiles
      obtain ⟨lines, hall, hlookup⟩ := ih hfiles
      exact ⟨(name, keys) :: lines, .cons ⟨rfl, .refl _⟩ hall, by rw [List.lookup_cons, hname, hlookup]⟩

/-- Whichever of the keys of a line it is, it comes last in some order. -/
theorem exists_reordered_last {ids : List String} (h : ids ∈ r.registered path n) :
    ∃ r', r.Reordered r' ∧ (r'.registered path n).getLast? = some ids := by
  unfold registered at h
  cases hentries : r.lines.lookup path with
  | none =>
    rw [hentries] at h
    cases h
  | some entries =>
    rw [hentries, Option.getD_some] at h
    obtain ⟨e, he, rfl⟩ := List.mem_map.1 h
    obtain ⟨hmem, hkey⟩ := List.mem_filter.1 he
    obtain ⟨before, after, rfl⟩ := List.append_of_mem hmem
    have hperm : (before ++ e :: after).Perm (before ++ after ++ [e]) :=
      List.perm_middle.trans (List.perm_append_singleton _ _).symm
    obtain ⟨r', hr', hlookup⟩ := exists_reordered hentries hperm
    refine ⟨r', hr', ?_⟩
    have hlast : [e].filter (fun e => leadingNumber? e.1 = some n) = [e] := List.filter_cons_of_pos hkey
    rw [registered, hlookup, Option.getD_some, listedFor, List.filter_append, hlast, List.map_append,
      List.map_singleton, List.getLast?_concat]

theorem Reordered.load {below rest : Forest Record} {o : Outline} (h : first.Reordered r')
    (hload : load (.cons first below rest) = .ok (o, t)) : ∃ t', Record.load (.cons r' below rest) = .ok (o, t') := by
  obtain ⟨htables, houtline⟩ := load_eq_ok_iff.1 hload
  obtain ⟨t', ht'⟩ := tables_succeeds_iff.2 (h.listsIds (tables_succeeds_iff.1 ⟨t, htables⟩))
  refine ⟨t', load_eq_ok_iff.2 ⟨ht', ?_⟩⟩
  obtain ⟨lines, rfl, -⟩ := h
  rw [← houtline]
  exact outline_congr rfl

/-- **When no registration is lost.** For a line of a file, the identifiers are found that the last of its keys lists,
and none of those that only the other keys list. In whatever order the keys come, the document loads; and all that is
registered for the line is found in each order just if all of its keys list the same identifiers. -/
theorem sameLine_lossless_iff {below rest : Forest Record} {o : Outline}
    (h : load (.cons first below rest) = .ok (o, t)) (path : String) (n : Nat) :
    (t.sameLine path n).map NodeId.text = ((first.registered path n).getLast?).getD [] ∧
    (∀ first', first.Reordered first' → ∃ t', load (.cons first' below rest) = .ok (o, t')) ∧
    ((∀ first' t', first.Reordered first' → load (.cons first' below rest) = .ok (o, t') →
        ∀ ids ∈ first.registered path n, ids ⊆ (t'.sameLine path n).map NodeId.text) ↔
      ∀ ids ∈ first.registered path n, ∀ ids' ∈ first.registered path n, ids ⊆ ids') := by
  have hfound : ∀ {first' t'}, load (.cons first' below rest) = .ok (o, t') →
      (t'.sameLine path n).map NodeId.text = ((first'.registered path n).getLast?).getD [] := fun hload =>
    sameLine_of_tables (load_eq_ok_iff.1 hload).1 path n
  refine ⟨hfound h, fun first' h' => h'.load h, fun hall ids hids ids' hids' => ?_,
    fun hsame first' t' h' hload ids hids => ?_⟩
  · obtain ⟨first', h', hlast⟩ := exists_reordered_last hids'
    obtain ⟨t', hload⟩ := h'.load h
    have hsub := hall first' t' h' hload ids hids
    rwa [hfound hload, hlast] at hsub
  · have hperm := h'.registered_perm path n
    have hne : first'.registered path n ≠ [] := List.ne_nil_of_mem (hperm.mem_iff.1 hids)
    rw [hfound hload, List.getLast?_eq_some_getLast hne]
    exact hsame ids hids _ (hperm.mem_iff.2 (List.getLast_mem hne))

/-- A record with one file, in which two keys begin with one number and list the same node. -/
theorem sameLine_lossless_iff_spaced :
    let first : Record := { id := .text "a", lines := [("f", [("10", [.text "a"]), (" 10", [.text "a"])])] }
    ∃ o t, load (.cons first .nil .nil) = .ok (o, t) ∧ (t.sameLine "f" 10).map NodeId.text = ["a"] ∧
      ∀ first' t', first.Reordered first' → load (.cons first' .nil .nil) = .ok (o, t') →
        "a" ∈ (t'.sameLine "f" 10).map NodeId.text := by
  intro first
  have hload : ∃ l, load (.cons first .nil .nil) = .ok l := ⟨_, rfl⟩
  obtain ⟨⟨o, t⟩, ho⟩ := hload
  have hregistered : first.registered "f" 10 = [["a"], ["a"]] := by decide
  obtain ⟨hlast, -, hlossless⟩ := sameLine_lossless_iff ho "f" 10
  rw [hregistered] at hlast hlossless
  refine ⟨o, t, ho, hlast, fun first' t' h' hload' => ?_⟩
  exact hlossless.2 (by decide) first' t' h' hload' ["a"] (by decide) (by decide)

/-- Two keys begin with one number and list a node each. Whichever comes first, its node is not found. -/
theorem sameLine_lost_spaced :
    let listing (lines : List (String × List Scalar)) : Forest Record :=
      .cons { id := .text "a", lines := [("f", lines)] } .nil .nil
    ∃ o t t', load (listing [("10", [.text "b"]), (" 10", [.text "c"])]) = .ok (o, t) ∧
      load (listing [(" 10", [.text "c"]), ("10", [.text "b"])]) = .ok (o, t') ∧
      leadingNumber? "10" = some 10 ∧ leadingNumber? " 10" = some 10 ∧
      (t.sameLine "f" 10).map NodeId.text = ["c"] ∧ (t'.sameLine "f" 10).map NodeId.text = ["b"] :=
  ⟨_, _, _, rfl, rfl, by decide, by decide, rfl, rfl⟩

end Record

end LoopSurvey
