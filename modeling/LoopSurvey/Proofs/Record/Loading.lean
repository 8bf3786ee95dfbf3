import Mathlib.Data.List.TakeWhile
import LoopSurvey.Proofs.Outline.Places
import LoopSurvey.Record.Load
/-!
# Loading a forest of records

A forest of records loads just if the scalars that have to be identifiers are identifiers (`Scalar.IsId`)
and no two records have the same one (`Record.load_succeeds_iff`). The scalars in question are the identifiers
of the records and, of the first record alone, those listed in its tables, but for the lines that do not begin
with a number (`Record.ListsIds`, `BeginsWithLine`). Each record becomes the node at its place
(`Record.map_toNode_of_load`), so what is above and below a node is what is above and below its record.
-/

namespace LoopSurvey

/-! ## Steps that can fail -/

section Steps

variable {ε : Type u} {α β : Type v}

theorem bind_eq_ok {x : Except ε α} {f : α → Except ε β} {b : β} :
    (x >>= f) = .ok b ↔ ∃ a, x = .ok a ∧ f a = .ok b := by
  cases x with
  | error e => simp [bind, Except.bind]
  | ok a => simp [bind, Except.bind]

theorem pure_eq_ok {a b : α} : (pure a : Except ε α) = .ok b ↔ a = b := by
  simp [pure, Except.pure]

theorem bind_eq_error {x : Except ε α} {f : α → Except ε β} {e : ε} :
    (x >>= f) = .error e ↔ x = .error e ∨ ∃ a, x = .ok a ∧ f a = .error e := by
  cases x with
  | error e => simp [bind, Except.bind]
  | ok a => simp [bind, Except.bind]

theorem bind_pure_eq_error {x : Except ε α} {g : α → β} {e : ε} :
    (x >>= fun a => pure (g a)) = .error e ↔ x = .error e := by
  simp [bind_eq_error, pure, Except.pure]

/-- A step whose result is only changed succeeds just if it did before. -/
theorem bind_pure_succeeds_iff {x : Except ε α} {g : α → β} :
    (∃ b, (x >>= fun a => pure (g a)) = .ok b) ↔ ∃ a, x = .ok a := by
  simp only [bind_eq_ok, pure_eq_ok]
  constructor
  · rintro ⟨-, a, ha, -⟩
    exact ⟨a, ha⟩
  · rintro ⟨a, ha⟩
    exact ⟨_, a, ha, rfl⟩

/-- A list of steps succeeds just if each of them does. -/
theorem mapM_succeeds_iff {f : α → Except ε β} {l : List α} :
    (∃ bs, l.mapM f = .ok bs) ↔ ∀ a ∈ l, ∃ b, f a = .ok b := by
  induction l with
  | nil => simp [pure_eq_ok]
  | cons a rest ih =>
    simp only [List.mapM_cons, bind_eq_ok, pure_eq_ok, List.forall_mem_cons, ← ih]
    constructor
    · rintro ⟨-, b, hb, bs, hbs, -⟩
      exact ⟨⟨b, hb⟩, bs, hbs⟩
    · rintro ⟨⟨b, hb⟩, bs, hbs⟩
      exact ⟨_, b, hb, bs, hbs, rfl⟩

/-- A list of steps fails as one of them does. -/
theorem exists_of_mapM_eq_error {f : α → Except ε β} {l : List α} {e : ε} (h : l.mapM f = .error e) :
    ∃ a ∈ l, f a = .error e := by
  induction l with
  | nil => cases h
  | cons a rest ih =>
    rw [List.mapM_cons, bind_eq_error] at h
    rcases h with ha | ⟨b, -, hrest⟩
    · exact ⟨a, List.mem_cons_self, ha⟩
    · obtain ⟨a', ha', he⟩ := ih (bind_pure_eq_error.1 hrest)
      exact ⟨a', List.mem_cons_of_mem _ ha', he⟩

end Steps

/-! ## Line numbers -/

theorem takeWhile_eq_of_append {p : α → Bool} {as bs : List α} (ha : ∀ a ∈ as, p a = true)
    (hb : ∀ b ∈ bs.head?, p b = false) : (as ++ bs).takeWhile p = as := by
  rw [List.takeWhile_append_of_pos ha]
  cases bs with
  | nil => simp
  | cons b rest => simp [hb b rfl]

theorem dropWhile_eq_of_append {p : α → Bool} {as bs : List α} (ha : ∀ a ∈ as, p a = true)
    (hb : ∀ b ∈ bs.head?, p b = false) : (as ++ bs).dropWhile p = bs := by
  rw [List.dropWhile_append_of_pos ha]
  cases bs with
  | nil => simp
  | cons b rest => simp [hb b rfl]

theorem isBlank_eq_false_of_isDigit {c : Char} (h : c.isDigit = true) : Text.isBlank c = false := by
  have hrange : 48 ≤ c.toNat ∧ c.toNat ≤ 57 := by
    simpa [Char.isDigit, UInt32.le_iff_toNat_le] using h
  simp [Text.isBlank]
  omega

/-- A text begins with a line number: after blanks there are digits, with no further digit behind them, and
their number is that of a line. -/
def BeginsWithLine (s : String) : Prop :=
  ∃ blanks digits rest, s.toList = blanks ++ (digits ++ rest) ∧
    (∀ c ∈ blanks, Text.isBlank c = true) ∧ (∀ c ∈ digits, c.isDigit = true) ∧
    (∀ c ∈ rest.head?, c.isDigit = false) ∧ digits ≠ [] ∧ Json.digitsValue digits ≤ maxCount

theorem beginsWithLine_of_leadingNumber? {s : String} {n : Nat} (h : leadingNumber? s = some n) :
    BeginsWithLine s := by
  unfold leadingNumber? at h
  split at h
  · cases h
  · next hdigits =>
    split at h
    · next hle =>
      let text := s.toList.dropWhile Text.isBlank
      have hsplit : s.toList = s.toList.takeWhile Text.isBlank ++
          (text.takeWhile Char.isDigit ++ text.dropWhile Char.isDigit) := by
        rw [List.takeWhile_append_dropWhile, List.takeWhile_append_dropWhile]
      refine ⟨_, _, _, hsplit, fun c => List.mem_takeWhile_imp, fun c => List.mem_takeWhile_imp, ?_,
        hdigits, hle⟩
      intro c hc
      have hstop := List.head?_dropWhile_not Char.isDigit text
      rwa [Option.mem_def.1 hc] at hstop
    · cases h

theorem BeginsWithLine.exists_leadingNumber? {s : String} (h : BeginsWithLine s) :
    ∃ n, leadingNumber? s = some n := by
  obtain ⟨blanks, digits, rest, hs, hblanks, hdigits, hrest, hne, hle⟩ := h
  obtain ⟨d, ds, rfl⟩ := List.exists_cons_of_ne_nil hne
  -- the digits end the blanks, and the rest ends the digits
  have hstart : ∀ c ∈ (d :: ds ++ rest).head?, Text.isBlank c = false := by
    rintro _ ⟨⟩
    exact isBlank_eq_false_of_isDigit (hdigits _ List.mem_cons_self)
  refine ⟨Json.digitsValue (d :: ds), ?_⟩
  unfold leadingNumber?
  rw [hs, dropWhile_eq_of_append hblanks hstart, takeWhile_eq_of_append hdigits hrest]
  exact if_pos hle

/-! ## Identifiers -/

/-- A scalar is an identifier unless it is the empty text or that of the root. -/
def Scalar.IsId (s : Scalar) : Prop := s.toText ≠ "" ∧ s.toText ≠ rootId

namespace Scalar

variable {s : Scalar} {id : NodeId}

theorem toId_eq_ok_iff : s.toId = .ok id ↔ id.text = s.toText := by
  unfold toId NodeId.ofText
  constructor
  · intro h
    split at h
    · next id' hid =>
      cases h
      split at hid
      · cases hid
      · split at hid
        · cases hid
        · cases hid
          rfl
    · cases h
  · intro h
    have hempty : s.toText ≠ "" := h ▸ id.ne_empty
    have hroot : s.toText ≠ rootId := h ▸ id.ne_root
    rw [dif_neg hempty, dif_neg hroot]
    exact congrArg Except.ok (NodeId.ext_text h.symm)

/-- A scalar that is an identifier, and no other, becomes one. -/
theorem toId_succeeds_iff : (∃ id, s.toId = .ok id) ↔ s.IsId := by
  simp only [toId_eq_ok_iff]
  constructor
  · rintro ⟨id, h⟩
    exact ⟨h ▸ id.ne_empty, h ▸ id.ne_root⟩
  · rintro ⟨hempty, hroot⟩
    exact ⟨⟨s.toText, hempty, hroot⟩, rfl⟩

end Scalar

namespace Record

variable {r : Record} {t : Forest Record} {t' : Forest Node}

/-! ## Side tables -/

/-- The tables of a record list identifiers. What is listed for a line does not matter unless the line is a
number. -/
structure ListsIds (r : Record) : Prop where
  lines : ∀ file ∈ r.lines, ∀ e ∈ file.2, BeginsWithLine e.1 → ∀ s ∈ e.2, s.IsId
  callees : ∀ e ∈ r.callees, ∀ s ∈ e.2, s.IsId
  targets : ∀ s ∈ r.targets, s.IsId
  lastViewed : ∀ s ∈ r.lastViewed, s.IsId

theorem lineEntries_succeeds_iff {entries : List (String × List Scalar)} :
    (∃ known, lineEntries entries = .ok known) ↔
      ∀ e ∈ entries, BeginsWithLine e.1 → ∀ s ∈ e.2, s.IsId := by
  unfold lineEntries
  simp only [bind_pure_succeeds_iff, mapM_succeeds_iff, Scalar.toId_succeeds_iff]
  constructor
  · intro h e he hkey
    obtain ⟨n, hn⟩ := hkey.exists_leadingNumber?
    exact h (n, e.2) (List.mem_filterMap.2 ⟨e, he, by rw [hn]; rfl⟩)
  · intro h e he
    obtain ⟨entry, hentry, hnumbered⟩ := List.mem_filterMap.1 he
    obtain ⟨n, hn, rfl⟩ := Option.map_eq_some_iff.1 hnumbered
    exact h entry hentry (beginsWithLine_of_leadingNumber? hn)

theorem lines_succeed_iff : (∃ ls, (r.lines.mapM fun e => do pure (e.1, ← lineEntries e.2)) = .ok ls) ↔
    ∀ file ∈ r.lines, ∀ e ∈ file.2, BeginsWithLine e.1 → ∀ s ∈ e.2, s.IsId := by
  simp only [mapM_succeeds_iff, bind_pure_succeeds_iff, lineEntries_succeeds_iff]

theorem callees_succeed_iff : (∃ cs, (r.callees.mapM fun e => do pure (e.1, ← e.2.mapM Scalar.toId)) = .ok cs) ↔
    ∀ e ∈ r.callees, ∀ s ∈ e.2, s.IsId := by
  simp only [mapM_succeeds_iff, bind_pure_succeeds_iff, Scalar.toId_succeeds_iff]

/-- The tables of a record can be taken just if what they list are identifiers. -/
theorem tables_succeeds_iff : (∃ tables, r.tables = .ok tables) ↔ r.ListsIds := by
  have htargets : (∃ ts, r.targets.mapM Scalar.toId = .ok ts) ↔ ∀ s ∈ r.targets, s.IsId := by
    simp only [mapM_succeeds_iff, Scalar.toId_succeeds_iff]
  have hlast : (∃ id, r.lastViewed.mapM Scalar.toId = .ok id) ↔ ∀ s ∈ r.lastViewed, s.IsId := by
    cases r.lastViewed with
    | none => simp [pure_eq_ok]
    | some s =>
      rw [Option.mapM_some, map_eq_pure_bind, bind_pure_succeeds_iff, Scalar.toId_succeeds_iff]
      simp
  unfold tables
  simp only [bind_eq_ok, pure_eq_ok]
  constructor
  · rintro ⟨-, ls, hls, cs, hcs, ts, hts, last, hl, -⟩
    exact ⟨lines_succeed_iff.1 ⟨ls, hls⟩, callees_succeed_iff.1 ⟨cs, hcs⟩, htargets.1 ⟨ts, hts⟩, hlast.1 ⟨last, hl⟩⟩
  · intro h
    obtain ⟨ls, hls⟩ := lines_succeed_iff.2 h.lines
    obtain ⟨cs, hcs⟩ := callees_succeed_iff.2 h.callees
    obtain ⟨ts, hts⟩ := htargets.2 h.targets
    obtain ⟨last, hl⟩ := hlast.2 h.lastViewed
    exact ⟨_, ls, hls, cs, hcs, ts, hts, last, hl, rfl⟩

/-! ## Nodes -/

theorem toNode_eq_ok {n : Node} (h : r.toNode = .ok n) : n.id.text = r.id.toText := by
  unfold toNode at h
  obtain ⟨id, hid, hn⟩ := bind_eq_ok.1 h
  rw [pure_eq_ok] at hn
  rw [← hn]
  exact Scalar.toId_eq_ok_iff.1 hid

/-- A record gives its node the label and the payload. -/
theorem toNode_eq_ok_label {n : Node} (h : r.toNode = .ok n) :
    n.label = r.label ∧ n.payload = r.payload := by
  obtain ⟨id, -, hn⟩ := bind_eq_ok.1 h
  rw [pure_eq_ok] at hn
  rw [← hn]
  exact ⟨rfl, rfl⟩

theorem toNode_succeeds (h : r.id.IsId) : ∃ n, r.toNode = .ok n := by
  obtain ⟨id, hid⟩ := Scalar.toId_succeeds_iff.2 h
  exact ⟨_, bind_eq_ok.2 ⟨id, hid, rfl⟩⟩

/-- What a record with children becomes. -/
theorem nodesOf_cons_eq_ok {seen seen' : List NodeId} {children rest : Forest Record} :
    nodesOf seen (.cons r children rest) = .ok (t', seen') ↔
      ∃ n below between after, r.toNode = .ok n ∧ n.id ∉ seen ∧
        nodesOf (n.id :: seen) children = .ok (below, between) ∧
        nodesOf between rest = .ok (after, seen') ∧ t' = .cons n below after := by
  rw [nodesOf, bind_eq_ok]
  refine exists_congr fun n => ?_
  by_cases hn : n.id ∈ seen
  · simp [hn, throw, throwThe, MonadExceptOf.throw, bind, Except.bind]
  · simp only [hn, if_false, bind_eq_ok, pure_eq_ok, Prod.exists, Prod.mk.injEq]
    constructor
    · rintro ⟨hr, below, between, hb, after, _, ha, rfl, rfl⟩
      exact ⟨below, between, after, hr, not_false, hb, ha, rfl⟩
    · rintro ⟨below, between, after, hr, -, hb, ha, rfl⟩
      exact ⟨hr, below, between, hb, after, _, ha, rfl, rfl⟩

/-- The nodes of the records are at the places of the records. -/
theorem map_toNode_of_nodesOf {seen seen' : List NodeId} (h : nodesOf seen t = .ok (t', seen')) :
    t.map toNode = t'.map .ok := by
  induction t generalizing seen seen' t' with
  | nil =>
    cases h
    rfl
  | cons r children rest ihc ihr =>
    obtain ⟨n, below, between, after, hr, -, hbelow, hafter, rfl⟩ := nodesOf_cons_eq_ok.1 h
    rw [Forest.map, Forest.map, hr, ihc hbelow, ihr hafter]

/-- Each record has the identifier of the node at its place. -/
theorem map_id_of_map_toNode (h : t.map toNode = t'.map .ok) :
    t.map (·.id.toText) = t'.map (·.id.text) :=
  Forest.map_eq_map_of h fun _ _ hn => (toNode_eq_ok hn).symm

theorem preorder_id_of_map_toNode (h : t.map toNode = t'.map .ok) :
    t.preorder.map (·.id.toText) = (t'.preorder.map Node.id).map NodeId.text := by
  rw [← Forest.preorder_map, map_id_of_map_toNode h, Forest.preorder_map, List.map_map]
  rfl

theorem nodup_texts_iff {ids : List NodeId} : (ids.map NodeId.text).Nodup ↔ ids.Nodup :=
  List.nodup_map_iff fun _ _ => NodeId.ext_text

/-- Records that became nodes have identifiers. -/
theorem isId_of_map_toNode (h : t.map toNode = t'.map .ok) : ∀ r ∈ t.preorder, r.id.IsId := by
  intro r hr
  have htext : r.id.toText ∈ (t'.preorder.map Node.id).map NodeId.text :=
    preorder_id_of_map_toNode h ▸ List.mem_map_of_mem hr
  obtain ⟨id, -, hid⟩ := List.mem_map.1 htext
  exact Scalar.toId_succeeds_iff.1 ⟨id, Scalar.toId_eq_ok_iff.2 hid⟩

/-- The identifiers of records that became nodes differ from each other and from those seen before. -/
theorem nodup_of_nodesOf {seen seen' : List NodeId} (h : nodesOf seen t = .ok (t', seen'))
    (hseen : seen.Nodup) : (t.preorder.map (·.id.toText) ++ seen.map NodeId.text).Nodup := by
  obtain ⟨hseen', hnodup⟩ := nodesOf_seen h hseen
  rw [hseen'] at hnodup
  rw [preorder_id_of_map_toNode (map_toNode_of_nodesOf h), ← List.map_append, nodup_texts_iff]
  exact ((List.reverse_perm _).append_right seen).nodup_iff.1 hnodup

/-- Records with identifiers that differ from each other and from those seen before become nodes. -/
theorem exists_nodesOf {seen : List NodeId} (hseen : seen.Nodup) (hids : ∀ r ∈ t.preorder, r.id.IsId)
    (hnodup : (t.preorder.map (·.id.toText) ++ seen.map NodeId.text).Nodup) :
    ∃ nodes, nodesOf seen t = .ok nodes := by
  induction t generalizing seen with
  | nil => exact ⟨_, rfl⟩
  | cons r children rest ihc ihr =>
    simp only [Forest.preorder, List.forall_mem_cons, List.forall_mem_append] at hids
    obtain ⟨n, hr⟩ := toNode_succeeds hids.1
    have hn : n.id.text = r.id.toText := toNode_eq_ok hr
    simp only [Forest.preorder, List.map_cons, List.map_append, List.cons_append, List.append_assoc,
      ← hn] at hnodup
    have hfresh : n.id ∉ seen := by
      intro hmem
      exact (List.nodup_cons.1 hnodup).1 (by simp [List.mem_map_of_mem hmem])
    have hseen' : (n.id :: seen).Nodup := List.nodup_cons.2 ⟨hfresh, hseen⟩
    have hbelow : (children.preorder.map (·.id.toText) ++ (n.id :: seen).map NodeId.text).Nodup :=
      List.perm_middle.nodup_iff.2 (hnodup.sublist
        (((List.sublist_append_right _ _).append_left _).cons_cons _))
    obtain ⟨⟨below, between⟩, hb⟩ := ihc hseen' hids.2.1 hbelow
    -- the records after it come when what is below it has been seen, too
    obtain ⟨hbetween, hnodup'⟩ := nodesOf_seen hb hseen'
    have hafter : (rest.preorder.map (·.id.toText) ++ between.map NodeId.text).Nodup := by
      rw [hbetween, List.map_append, List.map_reverse,
        ← preorder_id_of_map_toNode (map_toNode_of_nodesOf hb)]
      refine (List.Perm.trans ?_ List.perm_middle).nodup_iff.2 hnodup
      exact (List.perm_append_comm_assoc _ _ _).trans ((List.reverse_perm _).append List.perm_middle)
    obtain ⟨⟨after, seen'⟩, ha⟩ := ihr hnodup' hids.2.2 hafter
    exact ⟨_, nodesOf_cons_eq_ok.2 ⟨n, below, between, after, hr, hfresh, hb, ha, rfl⟩⟩

/-- Records become nodes just if they have identifiers, no two the same. -/
theorem nodesOf_nil_succeeds_iff : (∃ nodes, nodesOf [] t = .ok nodes) ↔
    (∀ r ∈ t.preorder, r.id.IsId) ∧ (t.preorder.map (·.id.toText)).Nodup := by
  constructor
  · rintro ⟨⟨t', seen'⟩, h⟩
    have hnodup := nodup_of_nodesOf h List.nodup_nil
    rw [List.map_nil, List.append_nil] at hnodup
    exact ⟨isId_of_map_toNode (map_toNode_of_nodesOf h), hnodup⟩
  · rintro ⟨hids, hnodup⟩
    exact exists_nodesOf List.nodup_nil hids (by rwa [List.map_nil, List.append_nil])

theorem map_forest_outline (t : Forest Record) :
    (outline t).map Outline.forest = (nodesOf [] t).map Prod.fst := by
  unfold outline
  split
  · next h => exact congrArg (Except.map Prod.fst) h.symm
  · next h => exact congrArg (Except.map Prod.fst) h.symm

theorem exists_nodesOf_of_outline {o : Outline} (h : outline t = .ok o) :
    ∃ seen, nodesOf [] t = .ok (o.forest, seen) := by
  have hforest := map_forest_outline t
  rw [h] at hforest
  cases hn : nodesOf [] t with
  | error e =>
    rw [hn] at hforest
    cases hforest
  | ok nodes =>
    rw [hn] at hforest
    have hsame : o.forest = nodes.1 := Except.ok.inj hforest
    exact ⟨nodes.2, by rw [hsame]⟩

theorem outline_succeeds_iff : (∃ o, outline t = .ok o) ↔ ∃ nodes, nodesOf [] t = .ok nodes := by
  constructor
  · rintro ⟨o, h⟩
    obtain ⟨seen, hn⟩ := exists_nodesOf_of_outline h
    exact ⟨_, hn⟩
  · rintro ⟨nodes, hn⟩
    have hforest := map_forest_outline t
    rw [hn] at hforest
    cases h : outline t with
    | error e =>
      rw [h] at hforest
      cases hforest
    | ok o => exact ⟨o, rfl⟩

theorem nodesOf_congr {u : Forest Record} (h : t.map toNode = u.map toNode) (seen : List NodeId) :
    nodesOf seen t = nodesOf seen u := by
  induction t generalizing u seen with
  | nil =>
    cases u with
    | nil => rfl
    | cons r children rest => cases h
  | cons r children rest ihc ihr =>
    cases u with
    | nil => cases h
    | cons r' children' rest' =>
      rw [Forest.map, Forest.map, Forest.cons.injEq] at h
      simp only [nodesOf, h.1, ihc h.2.1, ihr h.2.2]

/-- Records that become the same nodes make the same outline. -/
theorem outline_congr {u : Forest Record} (h : t.map toNode = u.map toNode) : outline t = outline u := by
  have hforest : (outline t).map Outline.forest = (outline u).map Outline.forest := by
    rw [map_forest_outline, map_forest_outline, nodesOf_congr h]
  cases ht : outline t with
  | error e =>
    cases hu : outline u with
    | error e' =>
      rw [ht, hu] at hforest
      cases hforest
      rfl
    | ok o' =>
      rw [ht, hu] at hforest
      cases hforest
  | ok o =>
    cases hu : outline u with
    | error e' =>
      rw [ht, hu] at hforest
      cases hforest
    | ok o' =>
      rw [ht, hu] at hforest
      exact congrArg Except.ok (Outline.ext_forest (Except.ok.inj hforest))

/-! ## Documents -/

/-- A forest of records is an outline: the records have identifiers, no two the same, and the tables of the
first record list identifiers. -/
structure IsOutline (records : Forest Record) : Prop where
  ids : ∀ r ∈ records.preorder, r.id.IsId
  nodup : (records.preorder.map (·.id.toText)).Nodup
  tables : ∀ first ∈ records.roots.head?, first.ListsIds

/-- A record without tables. -/
def withoutTables (r : Record) : Record :=
  { r with lines := [], callees := [], targets := [], lastViewed := none }

/-- A forest of records in which only the first record has tables. -/
def clearTables : Forest Record → Forest Record
  | .nil => .nil
  | .cons first children rest => .cons first (children.map withoutTables) (rest.map withoutTables)

/-- The first record alone gives the tables, so those of other records may be left out. -/
theorem load_clearTables (records : Forest Record) : load (clearTables records) = load records := by
  cases records with
  | nil => rfl
  | cons first children rest =>
    have hnodes : (clearTables (.cons first children rest)).map toNode =
        (Forest.cons first children rest).map toNode := by
      rw [clearTables, Forest.map, Forest.map, Forest.map_map, Forest.map_map]
      rfl
    unfold load
    rw [outline_congr hnodes]
    rfl

theorem load_eq_ok_iff {records : Forest Record} {o : Outline} {tables : Tables} :
    load records = .ok (o, tables) ↔ firstTables records = .ok tables ∧ outline records = .ok o := by
  simp only [load, bind_eq_ok, pure_eq_ok, Prod.mk.injEq]
  constructor
  · rintro ⟨_, htables, _, houtline, rfl, rfl⟩
    exact ⟨htables, houtline⟩
  · rintro ⟨htables, houtline⟩
    exact ⟨_, htables, _, houtline, rfl, rfl⟩

theorem firstTables_succeeds_iff {records : Forest Record} :
    (∃ tables, firstTables records = .ok tables) ↔ ∀ first ∈ records.roots.head?, first.ListsIds := by
  cases records with
  | nil => exact ⟨fun _ _ h => (nomatch h), fun _ => ⟨_, rfl⟩⟩
  | cons first children rest => simp [firstTables, tables_succeeds_iff, Forest.roots]

/-- The forests of records that load. -/
theorem load_succeeds_iff {records : Forest Record} :
    (∃ loaded, load records = .ok loaded) ↔ IsOutline records := by
  have houtline : (∃ o, outline records = .ok o) ↔
      (∀ r ∈ records.preorder, r.id.IsId) ∧ (records.preorder.map (·.id.toText)).Nodup := by
    rw [outline_succeeds_iff, nodesOf_nil_succeeds_iff]
  constructor
  · rintro ⟨⟨o, tables⟩, h⟩
    obtain ⟨ht, ho⟩ := load_eq_ok_iff.1 h
    obtain ⟨hids, hnodup⟩ := houtline.1 ⟨o, ho⟩
    exact ⟨hids, hnodup, firstTables_succeeds_iff.1 ⟨tables, ht⟩⟩
  · intro h
    obtain ⟨o, ho⟩ := houtline.2 ⟨h.ids, h.nodup⟩
    obtain ⟨tables, ht⟩ := firstTables_succeeds_iff.2 h.tables
    exact ⟨_, load_eq_ok_iff.2 ⟨ht, ho⟩⟩

/-- Each record becomes the node at its place. -/
theorem map_toNode_of_load {records : Forest Record} {o : Outline} {tables : Tables}
    (h : load records = .ok (o, tables)) : records.map toNode = o.forest.map .ok := by
  obtain ⟨seen, hn⟩ := exists_nodesOf_of_outline (load_eq_ok_iff.1 h).2
  exact map_toNode_of_nodesOf hn

/-- Each node that was loaded has a record. -/
theorem exists_toNode_of_load {records : Forest Record} {o : Outline} {tables : Tables}
    (h : load records = .ok (o, tables)) {n : Node} (hn : n ∈ o.nodes) :
    ∃ r ∈ records.preorder, r.toNode = .ok n := by
  have hnodes := congrArg Forest.preorder (map_toNode_of_load h)
  rw [Forest.preorder_map, Forest.preorder_map] at hnodes
  exact List.mem_map.1 (hnodes ▸ List.mem_map_of_mem hn)

/-- The node of a record has the ancestors and children that the record has. -/
theorem exists_id_of_mem_places {records : Forest Record} {o : Outline}
    (h : records.map toNode = o.forest.map .ok) {q : Place Record} (hq : q ∈ records.places) :
    ∃ id ∈ o.ids, id.text = q.node.id.toText ∧
      (o.parentsOf id).map NodeId.text = q.above.map (·.id.toText) ∧
      (o.childrenOf id).map NodeId.text = q.below.roots.map (·.id.toText) := by
  have hplaces : o.places.map (Place.map (·.id.text)) = records.places.map (Place.map (·.id.toText)) := by
    rw [Outline.places, ← Forest.places_map, ← Forest.places_map, map_id_of_map_toNode h]
  obtain ⟨p, hp, hpq⟩ := List.mem_map.1 (hplaces ▸ List.mem_map_of_mem hq)
  obtain ⟨hid, habove, hbelow⟩ := Place.mk.inj hpq
  refine ⟨p.id, Outline.mem_ids_iff_places.2 ⟨p, hp, rfl⟩, hid, ?_, ?_⟩
  · rw [Outline.parentsOf_of_mem hp, Place.parents, List.map_map]
    exact habove
  · have hroots := congrArg Forest.roots hbelow
    rw [Forest.roots_map, Forest.roots_map] at hroots
    rw [Outline.childrenOf_of_mem hp, Place.children, List.map_map]
    exact hroots

/-- **Loading keeps the structure.** A forest of records loads just if it is an outline. The nodes then come in
the order of the records, each with the ancestors and children of its record, the tables are those of the
first record, and the tables of all other records do not matter. -/
theorem load_structure (records : Forest Record) :
    ((∃ loaded, load records = .ok loaded) ↔ IsOutline records) ∧
    (∀ o tables, load records = .ok (o, tables) →
      o.ids.map NodeId.text = records.preorder.map (·.id.toText) ∧
      (∀ q ∈ records.places, ∃ id ∈ o.ids, id.text = q.node.id.toText ∧
        (o.parentsOf id).map NodeId.text = q.above.map (·.id.toText) ∧
        (o.childrenOf id).map NodeId.text = q.below.roots.map (·.id.toText)) ∧
      firstTables records = .ok tables) ∧
    load (clearTables records) = load records := by
  refine ⟨load_succeeds_iff, fun o tables h => ?_, load_clearTables records⟩
  have hnodes := map_toNode_of_load h
  exact ⟨(preorder_id_of_map_toNode hnodes).symm, fun q hq => exists_id_of_mem_places hnodes hq,
    (load_eq_ok_iff.1 h).1⟩

end Record

end LoopSurvey
