import LoopSurvey.Command.Options
/-!
# The grammar of the command line

Arguments are groups one after the other: a flag, or the name of a slot and a value for it (`Group.words`). They are
accepted just if their groups have distinct names and do not ask for the demo and for data at once (`Grammatical`),
and the options are then what the groups say, in whatever order they come (`Options.Records`). One group changes the
options in its own place only (`Options.add?`); reading the words of a group is adding the group
(`Options.read?_words`), and nothing else is read (`Options.exists_group_of_read?`).
-/

namespace LoopSurvey.Command

/-! ## Groups of arguments -/

/-- The options that stand alone. -/
inductive Flag
  | noLog
  | demo
  | textTree
deriving DecidableEq

/-- The options that have a value. -/
inductive Slot
  | config
  | base
  | data
  | user
  | project
  | version
  | kind
  | viewId
deriving DecidableEq

/-- The name of a flag. -/
def Flag.name : Flag → String
  | noLog => "--no-log"
  | demo => "--demo"
  | textTree => "--text-tree"

/-- The name of a slot. -/
def Slot.name : Slot → String
  | config => "--config"
  | base => "--base-url"
  | data => "--data"
  | user => "--user"
  | project => "--proj"
  | version => "--ver"
  | kind => "--view-kind"
  | viewId => "--view-id"

/-- A flag, or a slot with its value. -/
inductive Group
  | flag (f : Flag)
  | value (s : Slot) (v : String)
deriving DecidableEq

namespace Group

/-- The name that a group begins with. -/
def name : Group → String
  | flag f => f.name
  | value s _ => s.name

/-- The arguments of a group. -/
def words : Group → List String
  | flag f => [f.name]
  | value s v => [s.name, v]

/-- A value does not begin with two hyphens. -/
def Valid : Group → Prop
  | flag _ => True
  | value _ v => ¬['-', '-'] <+: v.toList

end Group

theorem Group.name_eq_flag {g : Group} {f : Flag} : g.name = f.name ↔ g = .flag f := by
  cases g with
  | flag f' => cases f' <;> cases f <;> simp [Group.name, Flag.name]
  | value s v => cases s <;> cases f <;> simp [Group.name, Flag.name, Slot.name]

theorem Group.name_eq_slot {g : Group} {s : Slot} : g.name = s.name ↔ ∃ v, g = .value s v := by
  cases g with
  | flag f => cases f <;> cases s <;> simp [Group.name, Flag.name, Slot.name]
  | value s' v => cases s' <;> cases s <;> simp [Group.name, Slot.name]

/-- Groups that make up a command line: their values are values, their names are distinct, and not both the demo and
data are asked for. -/
structure Grammatical (groups : List Group) : Prop where
  valid : ∀ g ∈ groups, g.Valid
  nodup : (groups.map Group.name).Nodup
  source : ¬(.flag .demo ∈ groups ∧ ∃ v, .value .data v ∈ groups)

theorem Grammatical.perm_iff {groups groups' : List Group} (h : groups.Perm groups') :
    Grammatical groups ↔ Grammatical groups' := by
  have hperm : ∀ {groups groups' : List Group}, groups.Perm groups' → Grammatical groups → Grammatical groups' := by
    intro groups groups' h hg
    refine ⟨fun g hmem => hg.valid g (h.mem_iff.2 hmem), (h.map _).nodup_iff.1 hg.nodup, ?_⟩
    simpa only [h.mem_iff] using hg.source
  exact ⟨hperm h, hperm h.symm⟩

namespace Options

/-! ## Options place by place -/

/-- Whether a flag is set. -/
def has (o : Options) : Flag → Bool
  | .noLog => o.noLog
  | .demo => o.demo
  | .textTree => o.textTree

/-- The value in a slot. -/
def get (o : Options) : Slot → Option String
  | .config => o.config
  | .base => o.base
  | .data => o.data
  | .user => o.user
  | .project => o.project
  | .version => o.version
  | .kind => o.kind
  | .viewId => o.viewId

/-- The options with a flag set. -/
def raise (o : Options) : Flag → Options
  | .noLog => { o with noLog := true }
  | .demo => { o with demo := true }
  | .textTree => { o with textTree := true }

/-- The options with a value in a slot. -/
def put (o : Options) (v : String) : Slot → Options
  | .config => { o with config := some v }
  | .base => { o with base := some v }
  | .data => { o with data := some v }
  | .user => { o with user := some v }
  | .project => { o with project := some v }
  | .version => { o with version := some v }
  | .kind => { o with kind := some v }
  | .viewId => { o with viewId := some v }

/-- The options with a group, unless one of its name is there. -/
def add? (o : Options) : Group → Option Options
  | .flag f => if o.has f then none else some (o.raise f)
  | .value s v => if (o.get s).isSome then none else some (o.put v s)

variable {o o' : Options}

theorem ext_of_places (hhas : ∀ f, o.has f = o'.has f) (hget : ∀ s, o.get s = o'.get s) : o = o' := by
  cases o
  cases o'
  simp only [Options.mk.injEq]
  exact ⟨hget .config, hget .base, hget .data, hget .user, hget .project, hget .version, hget .kind, hget .viewId,
    hhas .noLog, hhas .demo, hhas .textTree⟩

theorem has_raise (f f' : Flag) : (o.raise f).has f' = (o.has f' || decide (f = f')) := by
  cases f <;> cases f' <;> simp [raise, has]

theorem get_raise (f : Flag) (s : Slot) : (o.raise f).get s = o.get s := by
  cases f <;> cases s <;> rfl

theorem has_put (v : String) (s : Slot) (f : Flag) : (o.put v s).has f = o.has f := by
  cases s <;> cases f <;> rfl

theorem get_put (v : String) (s s' : Slot) : (o.put v s).get s' = if s = s' then some v else o.get s' := by
  cases s <;> cases s' <;> rfl

/-! ## What is read is a group -/

theorem looksLikeOption_iff {text : String} : looksLikeOption text = true ↔ ['-', '-'] <+: text.toList := by
  unfold looksLikeOption
  split
  · next h => simp [h]
  · next h =>
    refine iff_of_false Bool.false_ne_true ?_
    rintro ⟨rest, hrest⟩
    exact h rest hrest.symm

theorem withFlag?_flag (o : Options) (f : Flag) :
    o.withFlag? f.name = some (o.add? (.flag f)) := by
  cases f <;> rfl

theorem withFlag?_slot (o : Options) (s : Slot) : o.withFlag? s.name = none := by
  cases s <;> rfl

theorem withValue?_slot (o : Options) (s : Slot) (v : String) :
    o.withValue? s.name v = o.add? (.value s v) := by
  cases s <;> rfl

theorem exists_flag_of_withFlag? {name : String} {r : Option Options} (h : o.withFlag? name = some r) :
    ∃ f : Flag, name = f.name := by
  unfold withFlag? at h
  split at h
  · exact ⟨.noLog, rfl⟩
  · exact ⟨.demo, rfl⟩
  · exact ⟨.textTree, rfl⟩
  · cases h

theorem exists_slot_of_withValue? {name v : String} (h : o.withValue? name v = some o') :
    ∃ s : Slot, name = s.name := by
  unfold withValue? at h
  split at h
  · exact ⟨.config, rfl⟩
  · exact ⟨.base, rfl⟩
  · exact ⟨.data, rfl⟩
  · exact ⟨.user, rfl⟩
  · exact ⟨.project, rfl⟩
  · exact ⟨.version, rfl⟩
  · exact ⟨.kind, rfl⟩
  · exact ⟨.viewId, rfl⟩
  · cases h

/-- Reading the words of a group is adding it. -/
theorem read?_words {g : Group} (hg : g.Valid) (rest : List String) :
    o.read? (g.words ++ rest) = (o.add? g).bind (·.read? rest) := by
  cases g with
  | flag f =>
    cases rest with
    | nil =>
      change o.read? [f.name] = _
      rw [read?, withFlag?_flag]
      cases o.add? (.flag f) <;> rfl
    | cons word rest =>
      change o.read? (f.name :: word :: rest) = _
      rw [read?, withFlag?_flag]
      cases o.add? (.flag f) <;> rfl
  | value s v =>
    have hvalue : looksLikeOption v = false := by
      rw [← Bool.not_eq_true, looksLikeOption_iff]
      exact hg
    change o.read? (s.name :: v :: rest) = _
    rw [read?, withFlag?_slot, hvalue, withValue?_slot]
    cases o.add? (.value s v) <;> rfl

/-- Arguments that are accepted are none, or begin with a group. -/
theorem exists_group_of_read? {words : List String} (h : o.read? words = some o') (hne : words ≠ []) :
    ∃ g rest, words = Group.words g ++ rest ∧ g.Valid ∧ ∃ next, o.add? g = some next ∧ next.read? rest = some o' := by
  suffices hgroup : ∃ g rest, words = Group.words g ++ rest ∧ g.Valid by
    obtain ⟨g, rest, rfl, hg⟩ := hgroup
    rw [read?_words hg] at h
    exact ⟨g, rest, rfl, hg, Option.bind_eq_some_iff.1 h⟩
  match words with
  | [] => exact absurd rfl hne
  | [name] =>
    rw [read?] at h
    cases hflag : o.withFlag? name with
    | none =>
      rw [hflag] at h
      cases h
    | some r =>
      obtain ⟨f, rfl⟩ := exists_flag_of_withFlag? hflag
      exact ⟨.flag f, [], rfl, trivial⟩
  | name :: value :: rest =>
    rw [read?] at h
    cases hflag : o.withFlag? name with
    | some r =>
      obtain ⟨f, rfl⟩ := exists_flag_of_withFlag? hflag
      exact ⟨.flag f, value :: rest, rfl, trivial⟩
    | none =>
      rw [hflag] at h
      dsimp only at h
      split at h
      · cases h
      · next hvalue =>
        split at h
        · next hslot =>
          obtain ⟨s, rfl⟩ := exists_slot_of_withValue? hslot
          exact ⟨.value s value, rest, rfl, fun hhyphens => hvalue (looksLikeOption_iff.2 hhyphens)⟩
        · cases h

/-- Arguments that are accepted are the words of groups. -/
theorem exists_groups_of_read? {words : List String} (h : o.read? words = some o') :
    ∃ groups : List Group, words = groups.flatMap Group.words ∧ ∀ g ∈ groups, g.Valid := by
  induction hn : words.length using Nat.strongRecOn generalizing words o with
  | ind n ih =>
    by_cases hne : words = []
    · exact ⟨[], hne, by simp⟩
    · obtain ⟨g, rest, rfl, hg, next, -, hrest⟩ := exists_group_of_read? h hne
      have hshort : rest.length < n := by
        rw [← hn, List.length_append]
        cases g <;> simp [Group.words]
      obtain ⟨groups, rfl, hvalid⟩ := ih rest.length hshort hrest rfl
      exact ⟨g :: groups, rfl, List.forall_mem_cons.2 ⟨hg, hvalid⟩⟩

/-! ## What the options say -/

/-- The options are those of the groups: a flag is set if it is one of them, and a value is in its slot. -/
structure Records (o : Options) (groups : List Group) : Prop where
  flags : ∀ f, o.has f = true ↔ .flag f ∈ groups
  values : ∀ s v, o.get s = some v ↔ .value s v ∈ groups

theorem Records.perm {groups groups' : List Group} (h : o.Records groups) (hp : groups.Perm groups') :
    o.Records groups' where
  flags f := (h.flags f).trans hp.mem_iff
  values s v := (h.values s v).trans hp.mem_iff

/-- The groups tell the options. -/
theorem Records.eq {groups : List Group} (h : o.Records groups) (h' : o'.Records groups) : o = o' := by
  refine ext_of_places (fun f => ?_) fun s => ?_
  · rw [Bool.eq_iff_iff, h.flags, h'.flags]
  · exact Option.ext fun v => (h.values s v).trans (h'.values s v).symm

theorem records_default : ({} : Options).Records [] where
  flags f := by cases f <;> simp [has]
  values s v := by cases s <;> simp [get]

section Adding

variable {g : Group} {groups : List Group}

/-- A group can be added just if none of its name is there. -/
theorem add?_eq_none_iff (h : o.Records groups) : o.add? g = none ↔ g.name ∈ groups.map Group.name := by
  rw [List.mem_map]
  cases g with
  | flag f =>
    have hname : (∃ g' ∈ groups, g'.name = (Group.flag f).name) ↔ .flag f ∈ groups := by
      simp only [show (Group.flag f).name = f.name from rfl, Group.name_eq_flag, exists_eq_right]
    rw [hname, ← h.flags, add?]
    cases o.has f <;> simp
  | value s v =>
    have hname : (∃ g' ∈ groups, g'.name = (Group.value s v).name) ↔ ∃ v', o.get s = some v' := by
      simp only [show (Group.value s v).name = s.name from rfl, Group.name_eq_slot, h.values]
      exact ⟨fun ⟨_, hmem, v', he⟩ => ⟨v', he ▸ hmem⟩, fun ⟨v', hmem⟩ => ⟨_, hmem, v', rfl⟩⟩
    rw [hname, add?, ← Option.isSome_iff_exists]
    cases (o.get s).isSome <;> simp

/-- A group changes what the options say by itself. -/
theorem records_add (h : o.Records groups) {next : Options} (hadd : o.add? g = some next) :
    next.Records (g :: groups) := by
  cases g with
  | flag f =>
    rw [add?] at hadd
    split at hadd
    · cases hadd
    · cases hadd
      refine ⟨fun f' => ?_, fun s v => ?_⟩
      · rw [has_raise, Bool.or_eq_true, decide_eq_true_iff, h.flags, List.mem_cons, Group.flag.injEq, or_comm,
          @eq_comm _ f]
      · simp [get_raise, h.values]
  | value s v =>
    rw [add?] at hadd
    split at hadd
    · cases hadd
    · next hfree =>
      cases hadd
      refine ⟨fun f => ?_, fun s' v' => ?_⟩
      · simp [has_put, h.flags]
      · rw [get_put]
        by_cases hs : s = s'
        · subst hs
          have hnot : .value s v' ∉ groups := by
            rw [← h.values]
            intro hv
            exact hfree (by rw [hv]; rfl)
          simp [hnot, eq_comm]
        · simp [hs, h.values, Ne.symm hs]

/-- Groups with distinct names can be recorded. -/
theorem exists_records (h : (groups.map Group.name).Nodup) : ∃ o : Options, o.Records groups := by
  induction groups with
  | nil => exact ⟨{}, records_default⟩
  | cons g groups ih =>
    rw [List.map_cons, List.nodup_cons] at h
    obtain ⟨o, ho⟩ := ih h.2
    obtain ⟨next, hnext⟩ := Option.ne_none_iff_exists'.1 (mt (add?_eq_none_iff ho).1 h.1)
    exact ⟨next, records_add ho hnext⟩

theorem demo_and_data_iff (h : o.Records groups) :
    (o.demo && o.data.isSome) = true ↔ .flag .demo ∈ groups ∧ ∃ v, .value .data v ∈ groups := by
  rw [Bool.and_eq_true, Option.isSome_iff_exists]
  exact and_congr (h.flags .demo) (exists_congr (h.values .data))

end Adding

/-! ## The grammar -/

/-- The words of groups are read after other groups just if all of them follow the grammar, and then the options are
what all of them say. -/
theorem read?_flatMap {before groups : List Group} (hbefore : o.Records before)
    (hnodup : (before.map Group.name).Nodup) (hvalid : ∀ g ∈ groups ++ before, g.Valid) :
    o.read? (groups.flatMap Group.words) = some o' ↔
      Grammatical (groups ++ before) ∧ o'.Records (groups ++ before) := by
  induction groups generalizing o before with
  | nil =>
    rw [List.flatMap_nil, List.nil_append, read?]
    split
    · next hboth => exact iff_of_false (by simp) fun h => h.1.source ((demo_and_data_iff hbefore).1 hboth)
    · next hboth =>
      rw [demo_and_data_iff hbefore] at hboth
      constructor
      · rintro ⟨⟩
        exact ⟨⟨hvalid, hnodup, hboth⟩, hbefore⟩
      · rintro ⟨-, h'⟩
        exact congrArg some (hbefore.eq h')
  | cons g groups ih =>
    have hperm : (g :: groups ++ before).Perm (groups ++ g :: before) := List.perm_middle.symm
    rw [List.flatMap_cons, read?_words (hvalid g (by simp))]
    cases hadd : o.add? g with
    | none =>
      have hname := (add?_eq_none_iff hbefore).1 hadd
      refine iff_of_false (by simp) ?_
      rintro ⟨hgrammar, -⟩
      have hdistinct := hgrammar.nodup
      rw [List.cons_append, List.map_cons, List.nodup_cons, List.map_append, List.mem_append, not_or] at hdistinct
      exact hdistinct.1.2 hname
    | some next =>
      have hfresh : g.name ∉ before.map Group.name := by
        rw [← add?_eq_none_iff hbefore, hadd]
        simp
      rw [Option.bind_some, ih (records_add hbefore hadd) (List.nodup_cons.2 ⟨hfresh, hnodup⟩)
        fun g' hg' => hvalid g' (hperm.mem_iff.2 hg')]
      exact and_congr (Grammatical.perm_iff hperm).symm ⟨fun h => h.perm hperm.symm, fun h => h.perm hperm⟩

theorem parse?_flatMap {groups : List Group} (hvalid : ∀ g ∈ groups, g.Valid) :
    parse? (groups.flatMap Group.words) = some o ↔ Grammatical groups ∧ o.Records groups := by
  rw [parse?, read?_flatMap records_default List.nodup_nil (by rwa [List.append_nil]), List.append_nil]

theorem ofName_eq_revision {name : String} : ViewKind.ofName name = .revision ↔ name = "GITREV" := by
  unfold ViewKind.ofName
  split
  · next h => exact iff_of_true rfl h
  · next h => exact iff_of_false (by simp) h

theorem overrides_kind_eq_revision {groups : List Group} (h : o.Records groups) :
    o.overrides.kind = some .revision ↔ .value .kind "GITREV" ∈ groups := by
  rw [← h.values .kind, overrides, Option.map_eq_some_iff]
  constructor
  · rintro ⟨name, hname, hkind⟩
    rw [← ofName_eq_revision.1 hkind]
    exact hname
  · intro hname
    exact ⟨_, hname, ofName_eq_revision.2 rfl⟩

/-- **The command line is accepted exactly by its grammar.** Arguments are accepted just if they are the words of
groups that follow the grammar. Then each flag is set if it is one of the groups, each slot has the value of its
group or none, the view kind is that of a repository exactly if it is given as `GITREV`, and the same groups in
another order give the same options. -/
theorem parse?_grammar (words : List String) :
    ((∃ o, parse? words = some o) ↔ ∃ groups : List Group, Grammatical groups ∧ words = groups.flatMap Group.words) ∧
    ∀ o, parse? words = some o → ∀ groups : List Group, Grammatical groups → words = groups.flatMap Group.words →
      (∀ f, o.has f = true ↔ .flag f ∈ groups) ∧
      (∀ s v, o.get s = some v ↔ .value s v ∈ groups) ∧
      (o.overrides.kind = some .revision ↔ .value .kind "GITREV" ∈ groups) ∧
      ∀ groups' : List Group, groups'.Perm groups → parse? (groups'.flatMap Group.words) = some o := by
  refine ⟨⟨fun ⟨o, h⟩ => ?_, ?_⟩, ?_⟩
  · obtain ⟨groups, rfl, hvalid⟩ := exists_groups_of_read? h
    exact ⟨groups, ((parse?_flatMap hvalid).1 h).1, rfl⟩
  · rintro ⟨groups, hgroups, rfl⟩
    obtain ⟨o, ho⟩ := exists_records hgroups.nodup
    exact ⟨o, (parse?_flatMap hgroups.valid).2 ⟨hgroups, ho⟩⟩
  · rintro o h groups hgroups rfl
    have hrecords := ((parse?_flatMap hgroups.valid).1 h).2
    refine ⟨hrecords.flags, hrecords.values, overrides_kind_eq_revision hrecords, fun groups' hperm => ?_⟩
    have hgroups' := (Grammatical.perm_iff hperm).2 hgroups
    exact (parse?_flatMap hgroups'.valid).2 ⟨hgroups', hrecords.perm hperm.symm⟩

theorem parse?_grammar_repository :
    Grammatical [.flag .noLog, .value .kind "GITREV"] ∧
    ∃ o, parse? ["--no-log", "--view-kind", "GITREV"] = some o ∧ o.overrides.kind = some .revision := by
  have hgroups : Grammatical [.flag .noLog, .value .kind "GITREV"] := by
    refine ⟨?_, by decide, by simp⟩
    rw [List.forall_mem_cons, List.forall_mem_singleton]
    exact ⟨trivial, by simp [Group.Valid]⟩
  obtain ⟨haccepts, hsays⟩ := parse?_grammar ["--no-log", "--view-kind", "GITREV"]
  obtain ⟨o, ho⟩ := haccepts.2 ⟨_, hgroups, rfl⟩
  obtain ⟨-, -, hkind, -⟩ := hsays o ho _ hgroups rfl
  exact ⟨hgroups, o, ho, hkind.2 (by simp)⟩

end Options

end LoopSurvey.Command
