import LoopSurvey.Outline.Markup
/-!
# Reading markup

Markup is made of tags, each with the text up to the next one. Such pieces are written (`Markup.write`), and a reader
goes over a text one character at a time and takes the pieces out of it (`Markup.read?`). It reads what was written
(`Markup.read?_write`) if names, keys, values and texts are free of the characters they end at (`Piece.Plain`), and no
value that it reads has a quote in it (`Markup.unquoted_of_read?`). Values stand for texts in which some characters are
entities; `Markup.unescape` puts the characters back.
-/

namespace LoopSurvey.Markup

/-! ## Entities -/

/-- The characters of a text inside markup, with a character for each entity. -/
def unescapeChars : List Char → List Char
  | '&' :: 'a' :: 'm' :: 'p' :: ';' :: cs => '&' :: unescapeChars cs
  | '&' :: 'l' :: 't' :: ';' :: cs => '<' :: unescapeChars cs
  | '&' :: 'g' :: 't' :: ';' :: cs => '>' :: unescapeChars cs
  | '&' :: 'q' :: 'u' :: 'o' :: 't' :: ';' :: cs => '"' :: unescapeChars cs
  | c :: cs => c :: unescapeChars cs
  | [] => []

/-- The text that a text inside markup stands for. -/
def unescape (s : String) : String := String.ofList (unescapeChars s.toList)

/-- A character that begins no entity stands for itself. -/
theorem unescapeChars_cons {c : Char} (h : c ≠ '&') (cs : List Char) :
    unescapeChars (c :: cs) = c :: unescapeChars cs := by
  rw [unescapeChars] <;> (intro _ hc; exact absurd hc h)

theorem unescapeChars_escapeChar (c : Char) (cs : List Char) :
    unescapeChars (escapeChar c ++ cs) = c :: unescapeChars cs := by
  unfold escapeChar
  split
  · rfl
  · rfl
  · rfl
  · rfl
  · next hand _ _ _ => exact unescapeChars_cons hand cs

theorem unescapeChars_flatMap_escapeChar (cs : List Char) : unescapeChars (cs.flatMap escapeChar) = cs := by
  induction cs with
  | nil => rfl
  | cons c cs ih => rw [List.flatMap_cons, unescapeChars_escapeChar, ih]

/-- Escaping loses nothing. -/
@[simp]
theorem unescape_escape (s : String) : unescape (escape s) = s := by
  rw [unescape, escape, String.toList_ofList, unescapeChars_flatMap_escapeChar, String.ofList_toList]

/-! ## Tags and pieces -/

/-- A tag: its name, which begins with a slash if the tag closes an element, and its attributes, which may go without
a value. -/
structure Tag where
  name : String
  attributes : List (String × Option String) := []
deriving DecidableEq, Repr

/-- A tag with the text up to the next one. -/
structure Piece where
  tag : Tag
  text : String := ""
deriving DecidableEq, Repr

/-- An attribute in a tag. -/
def writeAttribute : String × Option String → String
  | (key, none) => " " ++ key
  | (key, some value) => " " ++ key ++ "=\"" ++ value ++ "\""

/-- A piece of markup. -/
def Piece.write (p : Piece) : String :=
  "<" ++ p.tag.name ++ String.join (p.tag.attributes.map writeAttribute) ++ ">" ++ p.text

/-- Markup that is made of some pieces. -/
def write (ps : List Piece) : String := String.join (ps.map Piece.write)

@[simp]
theorem write_append (ps qs : List Piece) : write (ps ++ qs) = write ps ++ write qs := by
  rw [write, List.map_append, String.join_append]
  rfl

theorem write_nil : write [] = "" := rfl

theorem write_cons (name : String) (attributes : List (String × Option String)) (text : String) (ps : List Piece) :
    write (⟨⟨name, attributes⟩, text⟩ :: ps) =
      "<" ++ (name ++ (String.join (attributes.map writeAttribute) ++ (">" ++ (text ++ write ps)))) := by
  rw [write, List.map_cons, String.join_cons, Piece.write]
  simp only [String.append_assoc]
  rfl

theorem write_flatMap (l : List α) (f : α → List Piece) :
    write (l.flatMap f) = String.join (l.map fun a => write (f a)) := by
  induction l with
  | nil => rfl
  | cons a l ih => rw [List.flatMap_cons, write_append, ih, List.map_cons, String.join_cons]

/-- No value of a tag has a quote in it. -/
def Tag.Unquoted (t : Tag) : Prop := ∀ a ∈ t.attributes, ∀ value ∈ a.2, '"' ∉ value.toList

/-- A piece that ends where it seems to: nothing in it has one of the characters at which a reader goes on. -/
structure Piece.Plain (p : Piece) : Prop where
  name : ∀ c ∈ p.tag.name.toList, c ∉ [' ', '>']
  keys : ∀ a ∈ p.tag.attributes, ∀ c ∈ a.1.toList, c ∉ [' ', '>', '=']
  values : p.tag.Unquoted
  text : '<' ∉ p.text.toList

/-! ## The reader -/

/-- A tag with one more attribute. -/
def Tag.add (t : Tag) (key : String) (value : Option String) : Tag :=
  { t with attributes := t.attributes ++ [(key, value)] }

/-- Where a reader stands, with what it has seen of the piece that it is in. -/
inductive Stage
  | start
  | name (seen : List Char)
  | key (t : Tag) (seen : List Char)
  | equals (t : Tag) (word : List Char)
  | value (t : Tag) (word seen : List Char)
  | closed (t : Tag)
  | text (t : Tag) (seen : List Char)

/-- The tag that a reader has got if the tag ends here. -/
def Stage.tag? : Stage → Option Tag
  | .name seen => some ⟨String.ofList seen, []⟩
  | .key t seen => some (t.add (String.ofList seen) none)
  | .closed t => some t
  | _ => none

/-- The pieces that a reader has got if the last one ends here. -/
def Stage.pieces? (ps : List Piece) : Stage → Option (List Piece)
  | .start => some ps
  | .text t seen => some (ps ++ [⟨t, String.ofList seen⟩])
  | _ => none

/-- One more character of a piece. -/
def Stage.next? : Stage → Char → Option Stage
  | .name seen, c => some (.name (seen ++ [c]))
  | .key t seen, c => some (if c = '=' then .equals t seen else .key t (seen ++ [c]))
  | .equals t word, c => if c = '"' then some (.value t word []) else none
  | .value t word seen, c =>
    some (if c = '"' then .closed (t.add (String.ofList word) (some (String.ofList seen)))
      else .value t word (seen ++ [c]))
  | .text t seen, c => some (.text t (seen ++ [c]))
  | .start, _ => none
  | .closed _, _ => none

/-- The pieces that a reader has got, and where it stands. -/
abbrev Reading := List Piece × Stage

/-- One more character: it ends a piece, a tag or an attribute, or it belongs to the piece that the reader is in. -/
def step (r : Reading) (c : Char) : Option Reading :=
  match c, r.2.pieces? r.1, r.2.tag? with
  | '<', some ps, _ => some (ps, .name [])
  | '>', _, some t => some (r.1, .text t [])
  | ' ', _, some t => some (r.1, .key t [])
  | c, _, _ => (r.2.next? c).map (r.1, ·)

/-- What a reader has got after some more text. -/
def run (r : Reading) (s : String) : Option Reading := s.toList.foldlM step r

/-- The pieces of a markup text. -/
def read? (s : String) : Option (List Piece) := (run ([], .start) s).bind fun r => r.2.pieces? r.1

variable {ps qs : List Piece} {p : Piece} {t : Tag} {stage stage' : Stage} {seen : List Char} {s : String}
  {r r' : Reading}

theorem run_append (r : Reading) (s s' : String) : run r (s ++ s') = (run r s).bind (run · s') := by
  rw [run, String.toList_append, List.foldlM_append]
  rfl

theorem run_append_of_run (h : run r s = some r') (s' : String) : run r (s ++ s') = run r' s' := by
  rw [run_append, h, Option.bind_some]

theorem run_singleton (r : Reading) (c : Char) : run r (String.singleton c) = step r c := by
  rw [run, String.toList_singleton, List.foldlM_cons]
  exact bind_pure _

/-! ## What was written is read -/

/-- A piece, or none yet, ends where the next one begins. -/
theorem run_opening (h : r.2.pieces? r.1 = some ps) : run r "<" = some (ps, .name []) := by
  have hstep : step r '<' = some (ps, .name []) := by
    unfold step
    rw [h]
    rfl
  exact (run_singleton r '<').trans hstep

/-- A tag ends where its closing bracket is. -/
theorem run_closing (h : stage.tag? = some t) : run (ps, stage) ">" = some (ps, .text t []) := by
  have hstep : step (ps, stage) '>' = some (ps, .text t []) := by
    unfold step
    rw [h]
    rfl
  exact (run_singleton _ '>').trans hstep

/-- What there is of a tag ends where a blank is. -/
theorem run_blank (h : stage.tag? = some t) : run (ps, stage) " " = some (ps, .key t []) := by
  have hstep : step (ps, stage) ' ' = some (ps, .key t []) := by
    unfold step
    rw [h]
    rfl
  exact (run_singleton _ ' ').trans hstep

/-- A stage takes in a word that has none of the characters at which it ends. -/
theorem run_word {stage : List Char → Stage} {stops : List Char}
    (h : ∀ seen, ∀ c ∉ stops, step (ps, stage seen) c = some (ps, stage (seen ++ [c])))
    (hs : ∀ c ∈ s.toList, c ∉ stops) : run (ps, stage seen) s = some (ps, stage (seen ++ s.toList)) := by
  unfold run
  generalize s.toList = cs at hs
  induction cs generalizing seen with
  | nil => rw [List.append_nil]; rfl
  | cons c cs ih =>
    rw [List.forall_mem_cons] at hs
    rw [List.foldlM_cons, h seen c hs.1, List.append_cons seen c cs]
    exact ih hs.2

theorem run_name (hs : ∀ c ∈ s.toList, c ∉ [' ', '>']) :
    run (ps, .name []) s = some (ps, .name s.toList) := by
  refine run_word (fun seen c hc => ?_) hs
  unfold step
  simp_all [Stage.pieces?, Stage.tag?, Stage.next?]

theorem run_key (hs : ∀ c ∈ s.toList, c ∉ [' ', '>', '=']) :
    run (ps, .key t []) s = some (ps, .key t s.toList) := by
  refine run_word (fun seen c hc => ?_) hs
  unfold step
  simp_all [Stage.pieces?, Stage.tag?, Stage.next?]

theorem run_value {word : List Char} (hs : '"' ∉ s.toList) :
    run (ps, .value t word []) s = some (ps, .value t word s.toList) := by
  have hstops : ∀ c ∈ s.toList, c ∉ ['"'] := fun c hc hstop => hs (List.mem_singleton.1 hstop ▸ hc)
  refine run_word (fun seen c hc => ?_) hstops
  unfold step
  simp_all [Stage.pieces?, Stage.tag?, Stage.next?]

theorem run_text (hs : '<' ∉ s.toList) : run (ps, .text t []) s = some (ps, .text t s.toList) := by
  have hstops : ∀ c ∈ s.toList, c ∉ ['<'] := fun c hc hstop => hs (List.mem_singleton.1 hstop ▸ hc)
  refine run_word (fun seen c hc => ?_) hstops
  unfold step
  simp_all [Stage.pieces?, Stage.tag?, Stage.next?]

/-- An attribute is added to the tag that a reader has got before it. -/
theorem run_attribute (ps : List Piece) (h : stage.tag? = some t) {a : String × Option String}
    (hkey : ∀ c ∈ a.1.toList, c ∉ [' ', '>', '=']) (hvalue : ∀ value ∈ a.2, '"' ∉ value.toList) :
    ∃ stage', run (ps, stage) (writeAttribute a) = some (ps, stage') ∧ stage'.tag? = some (t.add a.1 a.2) := by
  obtain ⟨word, value⟩ := a
  have hword : run (ps, stage) (" " ++ word) = some (ps, .key t word.toList) := by
    rw [run_append_of_run (run_blank h), run_key hkey]
  cases value with
  | none =>
    refine ⟨.key t word.toList, hword, ?_⟩
    rw [Stage.tag?, String.ofList_toList]
  | some value =>
    have hequals : run (ps, .key t word.toList) "=\"" = some (ps, .value t word.toList []) := rfl
    have hquote : run (ps, .value t word.toList value.toList) "\"" =
        some (ps, .closed (t.add (String.ofList word.toList) (some (String.ofList value.toList)))) := rfl
    rw [String.ofList_toList, String.ofList_toList] at hquote
    refine ⟨.closed (t.add word (some value)), ?_, rfl⟩
    rw [writeAttribute, String.append_assoc, String.append_assoc, run_append_of_run hword, run_append_of_run hequals,
      run_append_of_run (run_value (hvalue value rfl)), hquote]

theorem run_attributes (ps : List Piece) {attributes : List (String × Option String)} (h : stage.tag? = some t)
    (hkeys : ∀ a ∈ attributes, ∀ c ∈ a.1.toList, c ∉ [' ', '>', '='])
    (hvalues : ∀ a ∈ attributes, ∀ value ∈ a.2, '"' ∉ value.toList) :
    ∃ stage', run (ps, stage) (String.join (attributes.map writeAttribute)) = some (ps, stage') ∧
      stage'.tag? = some { t with attributes := t.attributes ++ attributes } := by
  induction attributes generalizing stage t with
  | nil => exact ⟨stage, rfl, by rw [h, List.append_nil]⟩
  | cons a attributes ih =>
    rw [List.forall_mem_cons] at hkeys hvalues
    obtain ⟨stage₁, hrun₁, htag₁⟩ := run_attribute ps h hkeys.1 hvalues.1
    obtain ⟨stage₂, hrun₂, htag₂⟩ := ih htag₁ hkeys.2 hvalues.2
    refine ⟨stage₂, ?_, ?_⟩
    · rw [List.map_cons, String.join_cons, run_append_of_run hrun₁, hrun₂]
    · rw [htag₂, Tag.add, List.append_assoc, List.singleton_append]

/-- A piece is added to the pieces that a reader has got before it. -/
theorem run_piece (h : r.2.pieces? r.1 = some ps) (hp : p.Plain) :
    ∃ r', run r p.write = some r' ∧ r'.2.pieces? r'.1 = some (ps ++ [p]) := by
  obtain ⟨⟨name, attributes⟩, text⟩ := p
  have hname : (Stage.name name.toList).tag? = some ⟨String.ofList name.toList, []⟩ := rfl
  obtain ⟨stage, hrun, htag⟩ := run_attributes ps hname hp.keys hp.values
  rw [String.ofList_toList, List.nil_append] at htag
  refine ⟨(ps, .text ⟨name, attributes⟩ text.toList), ?_, ?_⟩
  · rw [Piece.write, String.append_assoc, String.append_assoc, String.append_assoc, run_append_of_run (run_opening h),
      run_append_of_run (run_name hp.name), run_append_of_run hrun, run_append_of_run (run_closing htag),
      run_text hp.text]
  · rw [Stage.pieces?, String.ofList_toList]

theorem run_write (h : r.2.pieces? r.1 = some ps) (hqs : ∀ p ∈ qs, p.Plain) :
    ∃ r', run r (write qs) = some r' ∧ r'.2.pieces? r'.1 = some (ps ++ qs) := by
  induction qs generalizing r ps with
  | nil => exact ⟨r, rfl, by rw [h, List.append_nil]⟩
  | cons q qs ih =>
    rw [List.forall_mem_cons] at hqs
    obtain ⟨r₁, hrun₁, hpieces₁⟩ := run_piece h hqs.1
    obtain ⟨r₂, hrun₂, hpieces₂⟩ := ih hpieces₁ hqs.2
    refine ⟨r₂, ?_, ?_⟩
    · rw [write, List.map_cons, String.join_cons, run_append_of_run hrun₁]
      exact hrun₂
    · rw [hpieces₂, List.append_assoc, List.singleton_append]

/-- Plain pieces are read as they were written, wherever the text before them can end. -/
theorem read?_append_write {before : String} (h : read? before = some ps) (hqs : ∀ p ∈ qs, p.Plain) :
    read? (before ++ write qs) = some (ps ++ qs) := by
  obtain ⟨r, hrun, hpieces⟩ := Option.bind_eq_some_iff.1 h
  obtain ⟨r', hrun', hpieces'⟩ := run_write hpieces hqs
  rw [read?, run_append_of_run hrun, hrun', Option.bind_some, hpieces']

theorem read?_write (h : ∀ p ∈ ps, p.Plain) : read? (write ps) = some ps := by
  have hempty : read? "" = some [] := rfl
  rw [← String.empty_append (s := write ps), read?_append_write hempty h, List.nil_append]

/-! ## What is read has no quotes -/

/-- No value that a reader has seen has a quote in it. -/
def Stage.Unquoted : Stage → Prop
  | .start => True
  | .name _ => True
  | .key t _ => t.Unquoted
  | .equals t _ => t.Unquoted
  | .value t _ seen => t.Unquoted ∧ '"' ∉ seen
  | .closed t => t.Unquoted
  | .text t _ => t.Unquoted

theorem Tag.Unquoted.add (h : t.Unquoted) {word : String} {value : Option String}
    (hvalue : ∀ v ∈ value, '"' ∉ v.toList) : (t.add word value).Unquoted := by
  intro a ha
  rcases List.mem_append.1 ha with hold | hnew
  · exact h a hold
  · rw [List.mem_singleton.1 hnew]
    exact hvalue

theorem Stage.Unquoted.tag (h : stage.Unquoted) (ht : stage.tag? = some t) : t.Unquoted := by
  cases stage with
  | name seen =>
    cases ht
    exact nofun
  | key t' seen =>
    cases ht
    exact Tag.Unquoted.add h nofun
  | closed t' =>
    cases ht
    exact h
  | _ => cases ht

theorem Stage.Unquoted.pieces (h : stage.Unquoted) (hps : ∀ p ∈ ps, p.tag.Unquoted)
    (hqs : stage.pieces? ps = some qs) : ∀ p ∈ qs, p.tag.Unquoted := by
  cases stage with
  | start =>
    cases hqs
    exact hps
  | text t seen =>
    cases hqs
    rw [List.forall_mem_append, List.forall_mem_singleton]
    exact ⟨hps, h⟩
  | _ => cases hqs

theorem Stage.Unquoted.next (h : stage.Unquoted) {c : Char} (hnext : stage.next? c = some stage') :
    stage'.Unquoted := by
  cases stage with
  | start => cases hnext
  | closed t => cases hnext
  | name seen =>
    cases hnext
    trivial
  | key t seen =>
    obtain rfl := Option.some.inj hnext
    split <;> exact h
  | equals t word =>
    rw [Stage.next?] at hnext
    split at hnext
    · cases hnext
      exact ⟨h, List.not_mem_nil⟩
    · cases hnext
  | value t word seen =>
    obtain rfl := Option.some.inj hnext
    split
    · refine Tag.Unquoted.add h.1 fun v hv => ?_
      rw [← Option.some.inj hv, String.toList_ofList]
      exact h.2
    · next hc =>
      refine ⟨h.1, fun hmem => ?_⟩
      rcases List.mem_append.1 hmem with hseen | hlast
      · exact h.2 hseen
      · exact hc (List.mem_singleton.1 hlast).symm
  | text t seen =>
    cases hnext
    exact h

theorem unquoted_step {c : Char} (h : (∀ p ∈ r.1, p.tag.Unquoted) ∧ r.2.Unquoted) (hstep : step r c = some r') :
    (∀ p ∈ r'.1, p.tag.Unquoted) ∧ r'.2.Unquoted := by
  unfold step at hstep
  split at hstep
  · next hpieces =>
    cases hstep
    exact ⟨h.2.pieces h.1 hpieces, trivial⟩
  · next htag =>
    cases hstep
    exact ⟨h.1, h.2.tag htag⟩
  · next htag =>
    cases hstep
    exact ⟨h.1, h.2.tag htag⟩
  · obtain ⟨stage, hnext, rfl⟩ := Option.map_eq_some_iff.1 hstep
    exact ⟨h.1, h.2.next hnext⟩

/-- No value that is read has a quote in it. -/
theorem unquoted_of_read? (h : read? s = some ps) : ∀ p ∈ ps, p.tag.Unquoted := by
  suffices hrun : ∀ (cs : List Char) (r r' : Reading), (∀ p ∈ r.1, p.tag.Unquoted) ∧ r.2.Unquoted →
      cs.foldlM step r = some r' → (∀ p ∈ r'.1, p.tag.Unquoted) ∧ r'.2.Unquoted by
    obtain ⟨r, hr, hpieces⟩ := Option.bind_eq_some_iff.1 h
    obtain ⟨hdone, hstage⟩ := hrun s.toList ([], .start) r ⟨List.forall_mem_nil _, trivial⟩ hr
    exact hstage.pieces hdone hpieces
  intro cs
  induction cs with
  | nil =>
    intro r r' hr hrun
    cases hrun
    exact hr
  | cons c cs ih =>
    intro r r' hr hrun
    rw [List.foldlM_cons] at hrun
    obtain ⟨r₁, hstep, hrest⟩ := Option.bind_eq_some_iff.1 hrun
    exact ih r₁ r' (unquoted_step hr hstep) hrest

end LoopSurvey.Markup
