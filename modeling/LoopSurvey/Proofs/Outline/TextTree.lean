import LoopSurvey.Outline.TextTree
import LoopSurvey.Proofs.Decimal.Digits
import LoopSurvey.Proofs.Outline.Shape
import LoopSurvey.Sample.Pair
/-!
# The text tree read back

A line of the text tree begins with two blanks for each ancestor and the kind in brackets, so its depth and its kind
can be read off it, whatever the text of the node is (`shownDepth_textLine`, `shownKind_textLine`). Where no text goes
over a line, the lines of the text tree are those of the nodes (`splitOn_textTree`). So a text tree tells how many
nodes there are, their depths and kinds, and with the depths the shape (`textTree_shape`).
-/

namespace LoopSurvey

/-! ## What a line shows -/

/-- The depth of a node from its line: half the blanks that the line begins with. -/
def shownDepth (line : List Char) : Nat := (line.takeWhile (· = ' ')).length / 2

/-- The kind of a node from its line: what is in brackets after the blanks. -/
def shownKind (line : List Char) : NodeKind :=
  .ofName (String.ofList (((line.dropWhile (· = ' ')).drop 1).takeWhile (· ≠ ']')))

theorem NodeKind.ofName_name (k : NodeKind) : ofName k.name = k := by
  cases k <;> decide

/-- The names of kinds are on one line and without brackets. -/
theorem NodeKind.plain_name (k : NodeKind) : '\n' ∉ k.name.toList ∧ ']' ∉ k.name.toList := by
  cases k <;> decide

/-- What the line of a node says after the kind. -/
def Node.textTail (n : Node) : String := n.label.text ++ n.payload.location ++ n.label.judgmentTag

namespace Place

variable (p : Place Node)

theorem toList_textLine :
    p.textLine.toList =
      List.replicate (2 * p.depth) ' ' ++
        '[' :: (p.node.kind.name.toList ++ ']' :: (' ' :: p.node.textTail.toList)) := by
  have hblanks : "  ".toList = List.replicate 2 ' ' := by decide
  have hindent : (List.replicate p.depth "  ").flatMap String.toList = List.replicate (2 * p.depth) ' ' := by
    rw [List.flatMap_replicate, hblanks, List.flatten_replicate_replicate, Nat.mul_comm]
  simp only [textLine, Node.textTail, String.toList_append, String.toList_join, hindent, List.append_assoc]
  rfl

/-- The depth is read back. -/
theorem shownDepth_textLine : shownDepth p.textLine.toList = p.depth := by
  have hblanks : ∀ c ∈ List.replicate (2 * p.depth) ' ', decide (c = ' ') = true := fun c hc =>
    decide_eq_true (List.mem_replicate.1 hc).2
  rw [shownDepth, toList_textLine, List.takeWhile_append_of_pos hblanks]
  simp

/-- The kind is read back. -/
theorem shownKind_textLine : shownKind p.textLine.toList = p.node.kind := by
  have hblanks : ∀ c ∈ List.replicate (2 * p.depth) ' ', decide (c = ' ') = true := fun c hc =>
    decide_eq_true (List.mem_replicate.1 hc).2
  have hname : ∀ c ∈ p.node.kind.name.toList, decide (c ≠ ']') = true := fun c hc =>
    decide_eq_true fun he => p.node.kind.plain_name.2 (he ▸ hc)
  rw [shownKind, toList_textLine, List.dropWhile_append_of_pos hblanks]
  have hbracket : ∀ rest : List Char, (('[' :: rest).dropWhile (· = ' ')).drop 1 = rest := fun rest => rfl
  have hend : ∀ rest : List Char, (']' :: rest).takeWhile (· ≠ ']') = [] := fun rest => rfl
  rw [hbracket, List.takeWhile_append_of_pos hname, hend, List.append_nil, String.ofList_toList,
    NodeKind.ofName_name]

end Place

/-! ## Texts that stay on their line -/

/-- Neither the text of a node nor its path nor the name of its judgment goes over a line. -/
structure Node.SingleLined (n : Node) : Prop where
  text : '\n' ∉ n.label.text.toList
  path : ∀ path ∈ n.payload.path, '\n' ∉ path.toList
  judgment : ∀ j ∈ n.label.judgment, '\n' ∉ j.name.toList

namespace Node.SingleLined

variable {n : Node}

instance (n : Node) : Decidable n.SingleLined :=
  decidable_of_iff ('\n' ∉ n.label.text.toList ∧ (∀ path ∈ n.payload.path, '\n' ∉ path.toList) ∧
      ∀ j ∈ n.label.judgment, '\n' ∉ j.name.toList)
    ⟨fun ⟨text, path, judgment⟩ => ⟨text, path, judgment⟩, fun h => ⟨h.text, h.path, h.judgment⟩⟩

theorem location (h : n.SingleLined) : '\n' ∉ n.payload.location.toList := by
  have hrepr : ∀ k, '\n' ∉ (Nat.repr k).toList := Decimal.not_mem_repr rfl
  unfold Payload.location
  split
  · next path first hpath _ =>
    simp only [String.toList_append, List.mem_append, not_or]
    refine ⟨⟨⟨⟨⟨by decide, h.path path hpath⟩, by decide⟩, hrepr first⟩, ?last⟩, by decide⟩
    case last =>
      split
      · split
        · decide
        · rw [String.toList_append, List.mem_append, not_or]
          exact ⟨by decide, hrepr _⟩
      · decide
  · decide

theorem judgmentTag (h : n.SingleLined) : '\n' ∉ n.label.judgmentTag.toList := by
  unfold Label.judgmentTag
  split
  · next value hvalue =>
    have hname : '\n' ∉ value.toList := h.judgment _ hvalue
    simp [hname]
  · decide

theorem textLine {p : Place Node} (h : p.node.SingleLined) : '\n' ∉ p.textLine.toList := by
  have htail : '\n' ∉ p.node.textTail.toList := by
    simp [Node.textTail, h.text, h.location, h.judgmentTag]
  rw [p.toList_textLine]
  simp [List.mem_replicate, p.node.kind.plain_name.1, htail]

end Node.SingleLined

/-! ## Lines of a text -/

namespace Text

/-- A text of lines, each with its end, falls apart into these lines and nothing after them. -/
theorem splitOn_lines {lines : List (List Char)} (h : ∀ line ∈ lines, '\n' ∉ line) :
    (lines.flatMap (· ++ ['\n'])).splitOn '\n' = lines ++ [[]] := by
  induction lines with
  | nil => rfl
  | cons line rest ih =>
    have hline : '\n' ∉ line := h line List.mem_cons_self
    have hrest := ih fun l hl => h l (List.mem_cons_of_mem line hl)
    rw [List.flatMap_cons, List.append_assoc, List.singleton_append, List.splitOn_append_cons_self,
      List.splitOn_eq_singleton hline, hrest]
    rfl

/-- A character that belongs to a line goes before what follows it. -/
theorem linesOf_cons {c : Char} {rest : List Char} (hc : c ≠ '\n') (hrest : c = '\r' → rest.head? ≠ some '\n') :
    linesOf (c :: rest) = consFirst c (linesOf rest) := by
  rw [linesOf, if_neg hc]
  rintro rest' rfl rfl
  exact hrest rfl rfl

theorem length_consFirst {c : Char} {lines : List (List Char)} (h : lines.length ≠ 0) :
    (consFirst c lines).length = lines.length := by
  cases lines with
  | nil => exact absurd rfl h
  | cons line rest => rfl

/-- A line with its end is one line more. -/
theorem length_linesOf_line {line : List Char} (h : '\n' ∉ line) (rest : List Char) :
    (linesOf (line ++ '\n' :: rest)).length = (linesOf rest).length + 1 := by
  induction line with
  | nil => rfl
  | cons c line ih =>
    obtain ⟨hc, hline⟩ : c ≠ '\n' ∧ '\n' ∉ line := by
      rw [List.mem_cons, not_or] at h
      exact ⟨Ne.symm h.1, h.2⟩
    by_cases hreturn : c = '\r' ∧ line = []
    · -- the end of the line takes the carriage return along
      obtain ⟨rfl, rfl⟩ := hreturn
      rfl
    · have hhead : c = '\r' → (line ++ '\n' :: rest).head? ≠ some '\n' := by
        intro hr
        cases line with
        | nil => exact absurd ⟨hr, rfl⟩ hreturn
        | cons d line => exact fun hd => hline (Option.some.inj hd ▸ List.mem_cons_self)
      rw [List.cons_append, linesOf_cons hc hhead, length_consFirst, ih hline]
      rw [ih hline]
      exact Nat.succ_ne_zero _

theorem length_linesOf_lines {lines : List (List Char)} (h : ∀ line ∈ lines, '\n' ∉ line) :
    (linesOf (lines.flatMap (· ++ ['\n']))).length = lines.length := by
  induction lines with
  | nil => rfl
  | cons line rest ih =>
    have hrest := ih fun l hl => h l (List.mem_cons_of_mem line hl)
    rw [List.flatMap_cons, List.append_assoc, List.singleton_append, length_linesOf_line (h line List.mem_cons_self),
      hrest]
    rfl

end Text

/-! ## The text tree -/

namespace Outline

variable {o o' : Outline}

theorem toList_textTree (o : Outline) :
    o.textTree.toList = (o.places.map (·.textLine.toList)).flatMap (· ++ ['\n']) := by
  rw [textTree, String.toList_join, List.flatMap_map, List.flatMap_map]
  refine List.flatMap_congr fun p _ => ?_
  rw [String.toList_append]
  rfl

/-- Opening, closing, selecting and checking nodes does not change the text tree. -/
theorem textTree_mapState (o : Outline) (f : Node → NodeState) : (o.mapState f).textTree = o.textTree := by
  have hplaces : (o.mapState f).places = o.places.map (Place.map fun n => { n with state := f n }) :=
    Forest.places_map _ o.forest
  have hline : ∀ p : Place Node, (p.map fun n => { n with state := f n }).textLine = p.textLine := by
    intro p
    simp [Place.textLine, Place.map, Place.depth]
  rw [textTree, textTree, hplaces, List.map_map]
  simp only [Function.comp_def, hline]

theorem newline_not_mem_lines (h : ∀ n ∈ o.nodes, n.SingleLined) :
    ∀ line ∈ o.places.map (·.textLine.toList), '\n' ∉ line := by
  intro line hline
  obtain ⟨p, hp, rfl⟩ := List.mem_map.1 hline
  exact (h p.node (map_node_places o ▸ List.mem_map_of_mem hp)).textLine

/-- The text tree consists of the lines of the nodes in pre-order, each with its end. -/
theorem splitOn_textTree (h : ∀ n ∈ o.nodes, n.SingleLined) :
    o.textTree.toList.splitOn '\n' = o.places.map (·.textLine.toList) ++ [[]] := by
  rw [toList_textTree, Text.splitOn_lines (newline_not_mem_lines h)]

theorem length_lines_textTree (h : ∀ n ∈ o.nodes, n.SingleLined) : (Text.lines o.textTree).length = o.size := by
  rw [Text.lines, List.length_map, toList_textTree, Text.length_linesOf_lines (newline_not_mem_lines h),
    List.length_map, length_places]

/-- **The text tree tells the shape.** Where no text goes over a line, the text tree has one line for each node, in
pre-order and whatever is opened or closed. If two outlines have the same text tree, they have as many nodes, and at
each position of the pre-order a node of the same depth and kind, with its parent at the same position. -/
theorem textTree_shape (h : ∀ n ∈ o.nodes, n.SingleLined) (h' : ∀ n ∈ o'.nodes, n.SingleLined) :
    o.textTree.toList.splitOn '\n' = o.places.map (·.textLine.toList) ++ [[]] ∧
    (Text.lines o.textTree).length = o.size ∧
    (∀ f, (o.mapState f).textTree = o.textTree) ∧
    (o.textTree = o'.textTree →
      o.size = o'.size ∧
      ∀ (i : Nat) p p', o.places[i]? = some p → o'.places[i]? = some p' →
        p.depth = p'.depth ∧ p.node.kind = p'.node.kind ∧ o.parentPosition? p = o'.parentPosition? p') := by
  refine ⟨splitOn_textTree h, length_lines_textTree h, o.textTree_mapState, fun he => ?_⟩
  have hlines : o.places.map (·.textLine.toList) = o'.places.map (·.textLine.toList) := by
    have hsplit := congrArg (fun s : String => s.toList.splitOn '\n') he
    rw [splitOn_textTree h, splitOn_textTree h'] at hsplit
    exact List.append_cancel_right hsplit
  have hdepths : o.places.map Place.depth = o'.places.map Place.depth := by
    have hshown := congrArg (List.map shownDepth) hlines
    rw [List.map_map, List.map_map] at hshown
    simpa only [Function.comp_def, Place.shownDepth_textLine] using hshown
  refine ⟨?size, fun i p p' hp hp' => ?_⟩
  case size =>
    have hlength := congrArg List.length hlines
    rwa [List.length_map, List.length_map, length_places, length_places] at hlength
  have hline : p.textLine.toList = p'.textLine.toList := by
    have hi := congrArg (·[i]?) hlines
    simpa only [List.getElem?_map, hp, hp', Option.map_some, Option.some.injEq] using hi
  refine ⟨?depth, ?kind, parentPosition?_eq hdepths hp hp'⟩
  case depth => rw [← p.shownDepth_textLine, hline, p'.shownDepth_textLine]
  case kind => rw [← p.shownKind_textLine, hline, p'.shownKind_textLine]

end Outline

/-- A file with a loop in it, whose texts look like the beginning of a line. -/
def Sample.bracketOutline (file loop : NodeId) (h : file ≠ loop) (opened : Bool) : Outline where
  forest :=
    .cons { id := file, kind := .file, state := { opened }, label := { text := "  [loop] x" } }
      (.cons
        { id := loop, kind := .loop, label := { text := "] [file]", judgment := some (.judged "Kernel") } } .nil .nil)
      .nil
  nodup := List.nodup_cons.2 ⟨mt List.mem_singleton.1 h, List.nodup_singleton _⟩

namespace Outline

/-- Two outlines with one text tree; in the second one the names are exchanged and the file is closed. -/
theorem textTree_shape_bracket :
    let o := Sample.bracketOutline Sample.firstId Sample.secondId (by decide) true
    let o' := Sample.bracketOutline Sample.secondId Sample.firstId (by decide) false
    (∀ n ∈ o.nodes, n.SingleLined) ∧ (∀ n ∈ o'.nodes, n.SingleLined) ∧ o.textTree = o'.textTree ∧
      (Text.lines o.textTree).length = 2 ∧ o.size = o'.size ∧
      o.places.map o.parentPosition? = [none, some 0] ∧ o'.places.map o'.parentPosition? = [none, some 0] := by
  intro o o'
  have h : ∀ n ∈ o.nodes, n.SingleLined := by decide
  have h' : ∀ n ∈ o'.nodes, n.SingleLined := by decide
  have he : o.textTree = o'.textTree := by decide +kernel
  obtain ⟨-, hlength, -, hshape⟩ := textTree_shape h h'
  exact ⟨h, h', he, hlength, (hshape he).1, by decide, by decide⟩

end Outline

end LoopSurvey
