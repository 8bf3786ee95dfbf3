import Mathlib.Data.List.Nodup
import LoopSurvey.Proofs.Record.SameLine
import LoopSurvey.Proofs.Record.Spelling
/-!
# Orders in which keys are met

The tables of a document are hashed, and their keys are met in an order that nobody chooses. Ranks stand for all such
orders: every order of the keys of a record's tables is that of some ranks (`Record.exists_inOrder`). Whether records
load, and to which outline, does not depend on it (`Record.exists_load_inOrder`), and neither do the targets, the node
viewed last, and any error but that of an identifier listed under a key (`Record.exists_load_inOrder_eq_error`). Numbers
may be spelled out before or after the keys are put in order (`Record.inOrder_spellOut`).
-/

namespace LoopSurvey.Record

variable {order : KeyOrder} {table : KeyTable} {r : Record} {α β : Type}

/-! ## One table -/

theorem arrange_perm (order : KeyOrder) (table : KeyTable) (entries : List (String × α)) :
    (order.arrange table entries).Perm entries :=
  List.mergeSort_perm _ _

/-- The order depends on the keys alone. -/
theorem arrange_mapTable (order : KeyOrder) (table : KeyTable) (f : α → β) (entries : List (String × α)) :
    order.arrange table (mapTable f entries) = mapTable f (order.arrange table entries) := by
  unfold KeyOrder.arrange mapTable
  symm
  apply List.map_mergeSort
  exact fun _ _ _ _ => rfl

/-- Entries with distinct keys come in any order in which the ranks of their keys rise. -/
theorem arrange_eq {entries entries' : List (String × α)} (hperm : entries'.Perm entries)
    (hnodup : (entries.map Prod.fst).Nodup) (hrank : ∀ k, order.rank table k = (entries'.map Prod.fst).idxOf k) :
    order.arrange table entries = entries' := by
  have hnodup' : (entries'.map Prod.fst).Nodup := (hperm.map Prod.fst).nodup_iff.2 hnodup
  have hsorted : (order.arrange table entries).Pairwise fun e e' =>
      decide (order.rank table e.1 ≤ order.rank table e'.1) = true :=
    List.pairwise_mergeSort (fun _ _ _ h h' => by simpa using Nat.le_trans (by simpa using h) (by simpa using h'))
      (fun _ _ => by simpa using Nat.le_total ..) _
  have hsorted' : entries'.Pairwise fun e e' => decide (order.rank table e.1 ≤ order.rank table e'.1) = true := by
    refine List.pairwise_iff_getElem.2 fun i j hi hj hij => decide_eq_true ?_
    have hidx : ∀ k (hk : k < entries'.length), order.rank table entries'[k].1 = k := by
      intro k hk
      have hkey := hnodup'.idxOf_getElem k (by simpa using hk)
      rwa [List.getElem_map, ← hrank] at hkey
    rw [hidx i hi, hidx j hj]
    exact hij.le
  refine List.Perm.eq_of_pairwise (fun e e' he he' hle hge => ?_) hsorted hsorted'
    ((arrange_perm order table entries).trans hperm.symm)
  have hmem : e ∈ entries' := hperm.mem_iff.2 ((arrange_perm order table entries).mem_iff.1 he)
  have hkeys : e.1 = e'.1 := by
    have hranks := Nat.le_antisymm (of_decide_eq_true hle) (of_decide_eq_true hge)
    rw [hrank, hrank] at hranks
    exact (List.idxOf_inj (List.mem_map_of_mem hmem)).1 hranks
  exact List.inj_on_of_nodup_map hnodup' hmem he' hkeys

/-- With distinct keys, the entry of a key is found. -/
theorem lookup_of_mem {l : List (String × α)} {e : String × α} (hnodup : (l.map Prod.fst).Nodup) (he : e ∈ l) :
    l.lookup e.1 = some e.2 := by
  obtain ⟨before, after, rfl⟩ := List.append_of_mem he
  refine List.lookup_eq_some_iff.2 ⟨before, after, rfl, fun other hother => bne_iff_ne.2 fun hkey => ?_⟩
  rw [List.map_append, List.map_cons] at hnodup
  exact (List.nodup_append.1 hnodup).2.2 _ (List.mem_map_of_mem hother) _ List.mem_cons_self hkey.symm

theorem lookup_eq_some_iff_mem {l : List (String × α)} (hnodup : (l.map Prod.fst).Nodup) {k : String} {a : α} :
    l.lookup k = some a ↔ (k, a) ∈ l := by
  refine ⟨fun h => ?_, fun h => lookup_of_mem hnodup h⟩
  obtain ⟨before, after, rfl, -⟩ := List.lookup_eq_some_iff.1 h
  exact List.mem_append_right _ List.mem_cons_self

/-- With distinct keys, the same is found in any order. -/
theorem lookup_arrange {entries : List (String × α)} (hnodup : (entries.map Prod.fst).Nodup) (k : String) :
    (order.arrange table entries).lookup k = entries.lookup k := by
  have hperm := arrange_perm order table entries
  refine Option.ext fun a => ?_
  rw [lookup_eq_some_iff_mem hnodup, lookup_eq_some_iff_mem ((hperm.map Prod.fst).nodup_iff.2 hnodup), hperm.mem_iff]

/-- What is found in a table whose values were changed, each as its key asks for. -/
theorem lookup_map_snd (f : String → α → β) (l : List (String × α)) (k : String) :
    (l.map fun e => (e.1, f e.1 e.2)).lookup k = (l.lookup k).map (f k) := by
  induction l with
  | nil => rfl
  | cons e l ih =>
    obtain ⟨key, a⟩ := e
    rw [List.map_cons, List.lookup_cons, List.lookup_cons, ih]
    by_cases h : k = key
    · subst h
      simp
    · rw [beq_eq_false_iff_ne.2 h]

/-- The last of several that are all the same is the last in any order. -/
theorem getLast?_of_perm {l l' : List α} (h : l'.Perm l) (hsame : ∀ a ∈ l, ∀ b ∈ l, a = b) :
    l'.getLast? = l.getLast? := by
  cases hl : l.getLast? with
  | none => rw [List.getLast?_eq_none_iff.1 hl] at h; rw [h.eq_nil]; rfl
  | some a =>
    have hne : l' ≠ [] := by
      rintro rfl
      rw [h.symm.eq_nil] at hl
      cases hl
    rw [List.getLast?_eq_some_getLast hne,
      hsame _ (h.mem_iff.1 (List.getLast_mem hne)) a (List.mem_of_getLast? hl)]

/-! ## The tables of a record -/

/-- No table of the record has a key twice. -/
structure DistinctKeys (r : Record) : Prop where
  files : (r.lines.map Prod.fst).Nodup
  lines : ∀ file ∈ r.lines, (file.2.map Prod.fst).Nodup
  callees : (r.callees.map Prod.fst).Nodup

/-- The ranks by which keys come in the order in which they stand in some tables. -/
def orderOf (lines : List (String × List (String × List Scalar))) (callees : List (String × List Scalar)) :
    KeyOrder where
  rank table key :=
    match table with
    | .files => (lines.map Prod.fst).idxOf key
    | .lines path => (((lines.lookup path).getD []).map Prod.fst).idxOf key
    | .callees => (callees.map Prod.fst).idxOf key

theorem map_fst_of_sameFile {files lines : List (String × List (String × List Scalar))}
    (h : List.Forall₂ SameFile files lines) : files.map Prod.fst = lines.map Prod.fst := by
  induction h with
  | nil => rfl
  | cons hfile _ ih => rw [List.map_cons, List.map_cons, hfile.1, ih]

theorem map_eq_of_forall₂ {R : α → β → Prop} {f : α → β} {l : List α} {l' : List β} (h : List.Forall₂ R l l')
    (hf : ∀ a ∈ l, ∀ b ∈ l', R a b → f a = b) : l.map f = l' := by
  induction h with
  | nil => rfl
  | @cons a b l l' hab _ ih =>
    rw [List.map_cons, hf a List.mem_cons_self b List.mem_cons_self hab,
      ih fun a ha b hb => hf a (List.mem_cons_of_mem _ ha) b (List.mem_cons_of_mem _ hb)]

/-- **Ranks give every order.** Whatever the order of the files, of the lines of each, and of the callees: there are
ranks by which the keys of the record are met in it. -/
theorem exists_inOrder {files lines : List (String × List (String × List Scalar))}
    {callees : List (String × List Scalar)} (hdistinct : r.DistinctKeys) (hfiles : files.Perm r.lines)
    (hlines : List.Forall₂ SameFile files lines) (hcallees : callees.Perm r.callees) : ∃ order, r.inOrder order = { r with lines, callees } := by
  have hnames := map_fst_of_sameFile hlines
  have hnodup : (lines.map Prod.fst).Nodup := hnames ▸ (hfiles.map Prod.fst).nodup_iff.2 hdistinct.files
  refine ⟨orderOf lines callees, ?_⟩
  have hcome : (orderOf lines callees).arrange .files r.lines = files :=
    arrange_eq hfiles hdistinct.files fun key => by rw [hnames]; rfl
  have hinner : (files.map fun file => (file.1, (orderOf lines callees).arrange (.lines file.1) file.2)) = lines := by
    refine map_eq_of_forall₂ hlines ?_
    rintro ⟨path, entries⟩ hfile ⟨path', entries'⟩ hfile' ⟨rfl : path = path', hperm⟩
    have hlookup := lookup_of_mem hnodup hfile'
    rw [arrange_eq hperm.symm (hdistinct.lines _ (hfiles.mem_iff.1 hfile)) fun key => ?_]
    change (((lines.lookup path).getD []).map Prod.fst).idxOf key = _
    rw [hlookup, Option.getD_some]
  rw [inOrder, hcome, hinner, arrange_eq hcallees hdistinct.callees fun key => rfl]

/-- The orders of the lines of each file are among those in which the keys may be met. -/
theorem Reordered.exists_inOrder {r' : Record} (hdistinct : r.DistinctKeys) (h : r.Reordered r') :
    ∃ order, r.inOrder order = r' := by
  obtain ⟨lines, rfl, hlines⟩ := h
  exact Record.exists_inOrder hdistinct (.refl _) hlines (.refl _)

/-! ## Tables taken in order -/

/-- Numbers may be spelled out before or after the keys are put in order. -/
theorem inOrder_spellOut (order : KeyOrder) (r : Record) :
    r.spellOut.inOrder order = (r.inOrder order).spellOut := by
  have hlines : (mapTable (mapTable spellOutAll) (order.arrange .files r.lines)).map
        (fun file => (file.1, order.arrange (.lines file.1) file.2)) =
      mapTable (mapTable spellOutAll)
        ((order.arrange .files r.lines).map fun file => (file.1, order.arrange (.lines file.1) file.2)) := by
    rw [mapTable, mapTable, List.map_map, List.map_map]
    exact List.map_congr_left fun file _ => by
      rw [Function.comp, Function.comp, arrange_mapTable]
  rw [inOrder, inOrder, spellOut, spellOut, arrange_mapTable, arrange_mapTable, hlines]

theorem map_inOrder_spellOut (order : KeyOrder) (records : Forest Record) :
    (records.map spellOut).map (inOrder order) = (records.map (inOrder order)).map spellOut := by
  rw [Forest.map_map, Forest.map_map]
  exact Forest.map_congr fun r _ => r.inOrder_spellOut order

/-- The scalars that a record lists under the keys of its tables. What is listed for a line does not matter unless the
line is a number. -/
inductive Keyed (r : Record) (s : Scalar) : Prop
  | line {file : String × List (String × List Scalar)} {e : String × List Scalar} (hfile : file ∈ r.lines)
      (he : e ∈ file.2) (hline : BeginsWithLine e.1) (hs : s ∈ e.2)
  | callee {e : String × List Scalar} (he : e ∈ r.callees) (hs : s ∈ e.2)

theorem listsIds_iff_keyed : r.ListsIds ↔
    (∀ s, r.Keyed s → s.IsId) ∧ (∀ s ∈ r.targets, s.IsId) ∧ ∀ s ∈ r.lastViewed, s.IsId := by
  constructor
  · intro h
    refine ⟨fun s hs => ?_, h.targets, h.lastViewed⟩
    cases hs with
    | line hfile he hline hs => exact h.lines _ hfile _ he hline s hs
    | callee he hs => exact h.callees _ he s hs
  · rintro ⟨hkeyed, htargets, hlast⟩
    exact ⟨fun _ hfile _ he hline s hs => hkeyed s (.line hfile he hline hs), fun _ he s hs => hkeyed s (.callee he hs),
      htargets, hlast⟩

/-- What is listed under keys does not depend on their order. -/
theorem keyed_inOrder {s : Scalar} : (r.inOrder order).Keyed s ↔ r.Keyed s := by
  have hfiles := arrange_perm order .files r.lines
  have hcallees := arrange_perm order .callees r.callees
  constructor
  · rintro (⟨hfile, he, hline, hs⟩ | ⟨he, hs⟩)
    · obtain ⟨file, hmem, rfl⟩ := List.mem_map.1 hfile
      exact .line (hfiles.mem_iff.1 hmem) ((arrange_perm order (.lines file.1) file.2).mem_iff.1 he) hline hs
    · exact .callee (hcallees.mem_iff.1 he) hs
  · rintro (⟨hfile, he, hline, hs⟩ | ⟨he, hs⟩)
    · exact .line (List.mem_map_of_mem (hfiles.mem_iff.2 hfile)) ((arrange_perm order (.lines _) _).mem_iff.2 he) hline
        hs
    · exact .callee (hcallees.mem_iff.2 he) hs

/-- Whether the tables can be taken does not depend on the order of their keys. -/
theorem exists_tables {t : Tables} (order' : KeyOrder) (h : (r.inOrder order).tables = .ok t) :
    ∃ t', (r.inOrder order').tables = .ok t' := by
  have hids : (r.inOrder order).ListsIds := tables_succeeds_iff.1 ⟨t, h⟩
  rw [listsIds_iff_keyed] at hids
  rw [tables_succeeds_iff, listsIds_iff_keyed]
  simp only [keyed_inOrder] at hids ⊢
  exact hids

/-- What is registered for a line in one order of the keys is registered in any other. -/
theorem registered_inOrder_perm (hdistinct : r.DistinctKeys) (path : String) (n : Nat) :
    ((r.inOrder order).registered path n).Perm (r.registered path n) := by
  have hlookup : (r.inOrder order).lines.lookup path = (r.lines.lookup path).map (order.arrange (.lines path)) := by
    rw [inOrder, lookup_map_snd (fun path => order.arrange (.lines path)), lookup_arrange hdistinct.files]
  rw [registered, registered, hlookup]
  cases r.lines.lookup path with
  | none => exact .refl _
  | some entries => exact ((arrange_perm order (.lines path) entries).filter _).map _

/-- Two tables are those of the record in two orders of its keys: they differ only at lines for which several keys list
different identifiers. -/
structure Agree (r : Record) (t t' : Tables) : Prop where
  targets : t'.targets = t.targets
  lastViewed : t'.lastViewed = t.lastViewed
  candidates : ∀ callee, t'.candidates? callee = t.candidates? callee
  sameLine : ∀ path n, (∀ ids ∈ r.registered path n, ∀ ids' ∈ r.registered path n, ids = ids') →
    t'.sameLine path n = t.sameLine path n

/-- What is found for a line for which all keys list the same, is told by the record in any order. -/
theorem sameLine_inOrder {t : Tables} (h : (r.inOrder order).tables = .ok t) (hdistinct : r.DistinctKeys)
    {path : String} {n : Nat} (hsame : ∀ ids ∈ r.registered path n, ∀ ids' ∈ r.registered path n, ids = ids') :
    (t.sameLine path n).map NodeId.text = ((r.registered path n).getLast?).getD [] := by
  rw [sameLine_of_tables h, getLast?_of_perm (registered_inOrder_perm hdistinct path n) hsame]

theorem lookup_callees_inOrder {t : Tables} (h : (r.inOrder order).tables = .ok t) (hdistinct : r.DistinctKeys)
    (callee : String) :
    (t.callees.lookup callee).map Except.ok = (r.callees.lookup callee).map (·.mapM Scalar.toId) := by
  obtain ⟨lines, -, hrest⟩ := bind_eq_ok.1 h
  obtain ⟨callees, hcallees, hrest⟩ := bind_eq_ok.1 hrest
  obtain ⟨targets, -, hrest⟩ := bind_eq_ok.1 hrest
  obtain ⟨lastViewed, -, hrest⟩ := bind_eq_ok.1 hrest
  obtain rfl := pure_eq_ok.1 hrest
  exact (lookup_of_mapM hcallees callee).trans (congrArg _ (lookup_arrange hdistinct.callees callee))

theorem targets_of_tables {t : Tables} (h : r.tables = .ok t) :
    r.targets.mapM Scalar.toId = .ok t.targets ∧ r.lastViewed.mapM Scalar.toId = .ok t.lastViewed := by
  obtain ⟨lines, -, hrest⟩ := bind_eq_ok.1 h
  obtain ⟨callees, -, hrest⟩ := bind_eq_ok.1 hrest
  obtain ⟨targets, htargets, hrest⟩ := bind_eq_ok.1 hrest
  obtain ⟨lastViewed, hlast, hrest⟩ := bind_eq_ok.1 hrest
  obtain rfl := pure_eq_ok.1 hrest
  exact ⟨htargets, hlast⟩

/-- If the tables of a record can be taken in one order of its keys, they can in any other, and agree. -/
theorem exists_tables_inOrder {t : Tables} (hdistinct : r.DistinctKeys) (order' : KeyOrder)
    (h : (r.inOrder order).tables = .ok t) : ∃ t', (r.inOrder order').tables = .ok t' ∧ r.Agree t t' := by
  obtain ⟨t', h'⟩ := exists_tables order' h
  obtain ⟨htargets, hlast⟩ := targets_of_tables h
  obtain ⟨htargets', hlast'⟩ := targets_of_tables h'
  refine ⟨t', h', ?targets, ?lastViewed, fun callee => ?candidates, fun path n hsame => ?sameLine⟩
  case targets => exact Except.ok.inj (htargets'.symm.trans htargets)
  case lastViewed => exact Except.ok.inj (hlast'.symm.trans hlast)
  case candidates =>
    have hlookup := (lookup_callees_inOrder h' hdistinct callee).trans (lookup_callees_inOrder h hdistinct callee).symm
    rw [Tables.candidates?, Tables.candidates?, Option.map_injective (fun _ _ => Except.ok.inj) hlookup]
  case sameLine =>
    exact List.map_injective_iff.2 (fun _ _ => NodeId.ext_text)
      ((sameLine_inOrder h' hdistinct hsame).trans (sameLine_inOrder h hdistinct hsame).symm)

/-! ## Errors -/

/-- A loading error that tells of an identifier listed under a key. -/
def Blames (r : Record) (e : LoadError) : Prop := ∃ s, r.Keyed s ∧ s.toId = .error e

theorem blames_of_lines {e : LoadError}
    (h : (r.lines.mapM fun file => do pure (file.1, ← lineEntries file.2)) = .error e) : r.Blames e := by
  obtain ⟨file, hfile, h⟩ := exists_of_mapM_eq_error h
  obtain ⟨numbered, hnumbered, h⟩ := exists_of_mapM_eq_error (bind_pure_eq_error.1 (bind_pure_eq_error.1 h))
  obtain ⟨entry, hentry, hline⟩ := List.mem_filterMap.1 hnumbered
  obtain ⟨n, hn, rfl⟩ := Option.map_eq_some_iff.1 hline
  obtain ⟨s, hs, h⟩ := exists_of_mapM_eq_error (bind_pure_eq_error.1 h)
  exact ⟨s, .line hfile hentry (beginsWithLine_of_leadingNumber? hn) hs, h⟩

theorem blames_of_callees {e : LoadError}
    (h : (r.callees.mapM fun entry => do pure (entry.1, ← entry.2.mapM Scalar.toId)) = .error e) : r.Blames e := by
  obtain ⟨entry, hentry, h⟩ := exists_of_mapM_eq_error h
  obtain ⟨s, hs, h⟩ := exists_of_mapM_eq_error (bind_pure_eq_error.1 h)
  exact ⟨s, .callee hentry hs, h⟩

/-- The tables cannot be taken for an identifier listed under a key, or, if there is none to blame, for one that is
listed apart from them. -/
theorem tables_eq_error {e : LoadError} (h : r.tables = .error e) : r.Blames e ∨
    (∀ s, r.Keyed s → s.IsId) ∧ (r.targets.mapM Scalar.toId >>= fun _ => r.lastViewed.mapM Scalar.toId) = .error e := by
  rcases bind_eq_error.1 h with hlines | ⟨lines, hlines, h⟩
  · exact .inl (blames_of_lines hlines)
  rcases bind_eq_error.1 h with hcallees | ⟨callees, hcallees, h⟩
  · exact .inl (blames_of_callees hcallees)
  refine .inr ⟨fun s hs => ?_, ?_⟩
  · cases hs with
    | line hfile he hline hs => exact lines_succeed_iff.1 ⟨lines, hlines⟩ _ hfile _ he hline s hs
    | callee he hs => exact callees_succeed_iff.1 ⟨callees, hcallees⟩ _ he s hs
  · refine bind_eq_error.2 ((bind_eq_error.1 h).imp_right fun ⟨targets, htargets, h⟩ => ⟨targets, htargets, ?_⟩)
    exact bind_pure_eq_error.1 h

/-- With their keys in another order, tables fail with the same error, unless identifiers under keys are to blame. -/
theorem tables_inOrder_eq_error {order' : KeyOrder} {e e' : LoadError} (h : (r.inOrder order).tables = .error e)
    (h' : (r.inOrder order').tables = .error e') : e' = e ∨ r.Blames e ∧ r.Blames e' := by
  have hblames : ∀ {order e}, (r.inOrder order).Blames e ↔ r.Blames e := by
    simp only [Blames, keyed_inOrder, implies_true]
  have hcontra : ∀ {e}, r.Blames e → ¬∀ s, r.Keyed s → s.IsId := fun ⟨s, hs, he⟩ hids => by
    obtain ⟨id, hid⟩ := Scalar.toId_succeeds_iff.2 (hids s hs)
    rw [he] at hid
    cases hid
  have hcases := tables_eq_error h
  have hcases' := tables_eq_error h'
  simp only [hblames, keyed_inOrder] at hcases hcases'
  rcases hcases with hb | ⟨hids, hrest⟩ <;> rcases hcases' with hb' | ⟨hids', hrest'⟩
  · exact .inr ⟨hb, hb'⟩
  · exact absurd hids' (hcontra hb)
  · exact absurd hids (hcontra hb')
  · exact .inl (Except.error.inj (hrest'.symm.trans hrest))

/-! ## Records -/

theorem map_toNode_inOrder (order : KeyOrder) (records : Forest Record) :
    (records.map (inOrder order)).map toNode = records.map toNode := by
  rw [Forest.map_map]
  rfl

/-- **The order of the keys is no matter to the outline.** If records load with their keys in one order, they load with
them in any other, to the same outline, and their tables agree. -/
theorem exists_load_inOrder {records : Forest Record} {o : Outline} {t : Tables}
    (hdistinct : ∀ r ∈ records.roots.head?, r.DistinctKeys) (order' : KeyOrder)
    (h : load (records.map (inOrder order)) = .ok (o, t)) :
    ∃ t', load (records.map (inOrder order')) = .ok (o, t') ∧ ∀ first ∈ records.roots.head?, first.Agree t t' := by
  obtain ⟨htables, houtline⟩ := load_eq_ok_iff.1 h
  have houtline' : outline (records.map (inOrder order')) = .ok o := by
    rw [← houtline]
    exact outline_congr (by rw [map_toNode_inOrder, map_toNode_inOrder])
  cases records with
  | nil => exact ⟨t, load_eq_ok_iff.2 ⟨htables, houtline'⟩, by simp [Forest.roots]⟩
  | cons first children rest =>
    obtain ⟨t', ht', hagree⟩ := exists_tables_inOrder (hdistinct first rfl) order' htables
    refine ⟨t', load_eq_ok_iff.2 ⟨ht', houtline'⟩, ?_⟩
    rintro _ ⟨⟩
    exact hagree

/-- If records do not load with their keys in one order, they do not load with them in any other. The error is the same
unless, in both orders, it tells of an identifier that is listed under a key. -/
theorem exists_load_inOrder_eq_error {records : Forest Record} {e : LoadError} (order' : KeyOrder)
    (h : load (records.map (inOrder order)) = .error e) : ∃ e', load (records.map (inOrder order')) = .error e' ∧
      (e' = e ∨ ∃ first ∈ records.roots.head?, first.Blames e ∧ first.Blames e') := by
  have houtline : outline (records.map (inOrder order')) = outline (records.map (inOrder order)) :=
    outline_congr (by rw [map_toNode_inOrder, map_toNode_inOrder])
  cases records with
  | nil => exact ⟨e, h, .inl rfl⟩
  | cons first children rest =>
    rcases bind_eq_error.1 h with htables | ⟨t, htables, h⟩
    · cases htables' : (first.inOrder order').tables with
      | error e' =>
        have herror := tables_inOrder_eq_error htables htables'
        exact ⟨e', bind_eq_error.2 (.inl htables'), herror.imp_right fun hblame => ⟨first, rfl, hblame⟩⟩
      | ok t' =>
        obtain ⟨t, ht⟩ := exists_tables order htables'
        exact nomatch ht.symm.trans htables
    · obtain ⟨t', ht'⟩ := exists_tables order' htables
      refine ⟨e, bind_eq_error.2 (.inr ⟨t', ht', bind_pure_eq_error.2 ?_⟩), .inl rfl⟩
      exact houtline.trans (bind_pure_eq_error.1 h)

end LoopSurvey.Record
