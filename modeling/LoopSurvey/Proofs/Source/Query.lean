import LoopSurvey.Proofs.Source.Recovery
import LoopSurvey.Proofs.Text.Percent
import LoopSurvey.Proofs.Decimal.Digits
/-!
# Viewer links are read back

A reader of a viewer link cuts its query at every `&`, each part at its first `=`, and decodes the values
(`Query.parameters?`).

- `LinkContext.parameters?_link`: from the link of a node the reader gets the parameters it was made from;
- `Locator.parameters?_definitionLink`: from the link to a line it gets them exactly where the version, which the
  link carries as it is, has neither a `&` nor an escape.
-/

namespace LoopSurvey

namespace Query

open Text

/-- A part of a query: a name, an equality sign and an encoded value. -/
def parameter? (part : List Char) : Option (String × String) :=
  match part.dropWhile (· ≠ '=') with
  | [] => none
  | _ :: value =>
    (Percent.decode? (String.ofList value)).map fun v => (String.ofList (part.takeWhile (· ≠ '=')), v)

/-- The parameters of a viewer link, in their order. -/
def parameters? (link : String) : Option (List (String × String)) :=
  (Locator.after? "openviewer?".toList link.toList).bind fun query => (query.splitOn '&').mapM parameter?

/-! ## Parts -/

/-- A name ends at the first equality sign. -/
theorem parameter?_append {name : List Char} (h : '=' ∉ name) (value : List Char) :
    parameter? (name ++ '=' :: value) =
      (Percent.decode? (String.ofList value)).map fun v => (String.ofList name, v) := by
  have hname : ∀ c ∈ name, decide (c ≠ '=') = true := by
    intro c hc
    exact decide_eq_true fun he => h (he ▸ hc)
  have hdrop : (name ++ '=' :: value).dropWhile (· ≠ '=') = '=' :: value := by
    rw [List.dropWhile_append_of_pos hname]
    rfl
  have htake : (name ++ '=' :: value).takeWhile (· ≠ '=') = name := by
    rw [List.takeWhile_append_of_pos hname]
    exact List.append_nil name
  rw [parameter?, hdrop, htake]

/-- A value that was encoded is read back. -/
theorem parameter?_encode {name : String} (h : '=' ∉ name.toList) (value : String) :
    parameter? (name.toList ++ '=' :: (Percent.encode value).toList) = some (name, value) := by
  rw [parameter?_append h, String.ofList_toList, String.ofList_toList, Percent.decode?_encode]
  rfl

theorem amp_not_mem_part {name value : List Char} (hname : '&' ∉ name) (hvalue : '&' ∉ value) :
    '&' ∉ name ++ '=' :: value := by
  rw [List.mem_append, List.mem_cons, not_or, not_or]
  exact ⟨hname, by decide, hvalue⟩

theorem amp_not_mem_encode (value : String) : '&' ∉ (Percent.encode value).toList :=
  Percent.not_mem_encode (by decide) (by decide) value

/-! ## Decimal values -/

/-- A value without percent signs is read as it is. -/
theorem parameter?_plain {name value : String} (hname : '=' ∉ name.toList) (hvalue : '%' ∉ value.toList) :
    parameter? (name.toList ++ '=' :: value.toList) = some (name, value) := by
  have hescape : ¬Percent.HasEscape value.toList := by
    rintro ⟨a, b, -, -, hin⟩
    exact hvalue (hin.subset List.mem_cons_self)
  have hdecode : Percent.decode? value = some value := (Percent.decode?_eq_self_iff value).2 hescape
  rw [parameter?_append hname, String.ofList_toList, String.ofList_toList, hdecode]
  rfl

theorem parameter?_repr {name : String} (h : '=' ∉ name.toList) (n : Nat) :
    parameter? (name.toList ++ '=' :: (Nat.repr n).toList) = some (name, Nat.repr n) :=
  parameter?_plain h (Decimal.not_mem_repr (by decide) n)

/-! ## Values that were not encoded -/

theorem length_of_mapM {f : α → Option β} {l : List α} {bs : List β} (h : l.mapM f = some bs) :
    bs.length = l.length := by
  induction l generalizing bs with
  | nil =>
    cases h
    rfl
  | cons a l ih =>
    rw [List.mapM_cons] at h
    obtain ⟨b, -, h⟩ := Option.bind_eq_some_iff.1 h
    obtain ⟨rest, hrest, h⟩ := Option.bind_eq_some_iff.1 h
    cases h
    rw [List.length_cons, List.length_cons, ih hrest]

/-- A value that stands in a query as it is makes one parameter and is read as itself where it has neither a `&` nor
an escape, and nowhere else. -/
theorem mapM_parameter?_plain_iff {name : String} (hequal : '=' ∉ name.toList) (hplain : '&' ∉ name.toList)
    (value : String) :
    ((name.toList ++ '=' :: value.toList).splitOn '&').mapM parameter? = some [(name, value)] ↔
      '&' ∉ value.toList ∧ ¬Percent.HasEscape value.toList := by
  by_cases hamp : '&' ∈ value.toList
  · -- two parts at least, and each makes a parameter or spoils the query
    obtain ⟨front, back, he⟩ := List.append_of_mem hamp
    have hlength : ((name.toList ++ '=' :: value.toList).splitOn '&').length ≠ 1 := by
      have hfront := List.length_pos_iff.2 (List.splitOn_ne_nil '&' (name.toList ++ '=' :: front))
      have hback := List.length_pos_iff.2 (List.splitOn_ne_nil '&' back)
      rw [he, ← List.cons_append, ← List.append_assoc, List.splitOn_append_cons_self, List.length_append]
      omega
    constructor
    · intro h
      exact absurd (length_of_mapM h).symm hlength
    · rintro ⟨hno, -⟩
      exact absurd hamp hno
  · rw [List.splitOn_eq_singleton (amp_not_mem_part hplain hamp), List.mapM_cons, parameter?_append hequal,
      String.ofList_toList, String.ofList_toList, ← Percent.decode?_eq_self_iff]
    constructor
    · intro h
      refine ⟨hamp, ?_⟩
      cases hd : Percent.decode? value with
      | none =>
        rw [hd] at h
        cases h
      | some v =>
        rw [hd] at h
        cases h
        rfl
    · rintro ⟨-, hd⟩
      rw [hd]
      rfl

/-! ## Queries of encoded values -/

/-- Names that stand for themselves in a query. -/
def PlainNames (parameters : List (String × String)) : Prop :=
  ∀ p ∈ parameters, '&' ∉ p.1.toList ∧ '=' ∉ p.1.toList

theorem toList_part (name value : String) :
    (name ++ "=" ++ value).toList = name.toList ++ '=' :: value.toList := by
  rw [String.toList_append, String.toList_append, List.append_assoc]
  rfl

/-- The parts of a query are between its `&`. -/
theorem splitOn_query {parameters : List (String × String)} (h : PlainNames parameters) (hne : parameters ≠ []) :
    (LinkContext.query parameters).toList.splitOn '&' =
      parameters.map fun p => p.1.toList ++ '=' :: (Percent.encode p.2).toList := by
  have hsplit : ∀ part ∈ parameters.map (fun p => p.1.toList ++ '=' :: (Percent.encode p.2).toList),
      '&' ∉ part := by
    intro part hpart
    obtain ⟨p, hp, rfl⟩ := List.mem_map.1 hpart
    exact amp_not_mem_part (h p hp).1 (amp_not_mem_encode p.2)
  rw [LinkContext.query, String.toList_intercalate, List.map_map]
  simp only [Function.comp_def, toList_part]
  exact List.splitOn_intercalate '&' hsplit (mt List.map_eq_nil_iff.1 hne)

theorem mapM_parameter?_encode {parameters : List (String × String)} (h : PlainNames parameters) :
    (parameters.map fun p => p.1.toList ++ '=' :: (Percent.encode p.2).toList).mapM parameter? =
      some parameters := by
  induction parameters with
  | nil => rfl
  | cons p rest ih =>
    have hp := (h p List.mem_cons_self).2
    have hrest : PlainNames rest := fun q hq => h q (List.mem_cons_of_mem p hq)
    rw [List.map_cons, List.mapM_cons, parameter?_encode hp, ih hrest]
    rfl

/-- **Queries are read back**: the parameters come in their order and with their values. -/
theorem parameters?_query {parameters : List (String × String)} (h : PlainNames parameters)
    (hne : parameters ≠ []) : parameters? ("openviewer?" ++ LinkContext.query parameters) = some parameters := by
  rw [parameters?, String.toList_append, Locator.after?_append, Option.bind_some, splitOn_query h hne,
    mapM_parameter?_encode h]

end Query

open Query

/-! ## Links of nodes -/

namespace LinkContext

/-- The lines that a link gives: both, if both are known and neither is 0. -/
theorem linkParameters_eq (c : LinkContext) (p : Payload) :
    c.linkParameters p =
      [("proj", c.project), ("algo", c.algorithm), ("meth", c.method), ("path", p.path.getD ""),
        ("ver", c.version), ("src", c.sourceAddress p)] ++
      match p.startLine, p.endLine with
      | some (first + 1), some (last + 1) => [("startl", Nat.repr (first + 1)), ("endl", Nat.repr (last + 1))]
      | _, _ => [] := by
  unfold linkParameters
  rcases p.startLine with _ | _ | first <;> rcases p.endLine with _ | _ | last <;> rfl

/-- The names of all parameters a link can have. -/
def linkNames : List String := ["proj", "algo", "meth", "path", "ver", "src", "startl", "endl"]

theorem names_linkParameters_sublist (c : LinkContext) (p : Payload) :
    ((c.linkParameters p).map Prod.fst).Sublist linkNames := by
  rw [linkParameters_eq, List.map_append]
  split
  · exact List.Sublist.refl _
  · exact List.sublist_append_left _ ["startl", "endl"]

theorem plainNames_linkParameters (c : LinkContext) (p : Payload) : PlainNames (c.linkParameters p) := by
  have hplain : ∀ name ∈ linkNames, '&' ∉ name.toList ∧ '=' ∉ name.toList := by decide
  intro q hq
  exact hplain q.1 ((names_linkParameters_sublist c p).subset (List.mem_map_of_mem hq))

/-- **The link of a node is read back.** Whatever characters the names of the survey and the path of the node
have, the reader gets the project, the algorithm, the method, the path (empty if it is not known), the version and
the address of the source file, in this order, and then the lines if both are known and neither is 0. -/
theorem parameters?_link (c : LinkContext) (p : Payload) :
    parameters? (c.link p) = some (
      [("proj", c.project), ("algo", c.algorithm), ("meth", c.method), ("path", p.path.getD ""),
        ("ver", c.version), ("src", c.sourceAddress p)] ++
      match p.startLine, p.endLine with
      | some (first + 1), some (last + 1) => [("startl", Nat.repr (first + 1)), ("endl", Nat.repr (last + 1))]
      | _, _ => []) := by
  have hne : c.linkParameters p ≠ [] := List.cons_ne_nil _ _
  rw [link, parameters?_query (plainNames_linkParameters c p) hne, linkParameters_eq]

end LinkContext

/-! ## Links to lines -/

namespace Locator

/-- The query of a link to a line, cut at the `&` that do not come from the version. -/
theorem toList_definitionLink (l : Locator) (path : String) (line : Nat) :
    (l.definitionLink path line).toList = "openviewer?".toList ++
      ("path".toList ++ '=' :: (Text.Percent.encode path).toList ++
        '&' :: ("src".toList ++ '=' :: (Text.Percent.encode (l.addressOf path)).toList ++
          '&' :: ("ver".toList ++ '=' :: l.version.toList ++
            '&' :: ("startl".toList ++ '=' :: (Nat.repr line).toList ++
              '&' :: ("endl".toList ++ '=' :: (Nat.repr line).toList))))) := by
  have hpath : "openviewer?path=".toList = "openviewer?".toList ++ ("path".toList ++ ['=']) := by decide
  have hsrc : "&src=".toList = '&' :: ("src".toList ++ ['=']) := by decide
  have hver : "&ver=".toList = '&' :: ("ver".toList ++ ['=']) := by decide
  have hfirst : "&startl=".toList = '&' :: ("startl".toList ++ ['=']) := by decide
  have hlast : "&endl=".toList = '&' :: ("endl".toList ++ ['=']) := by decide
  unfold definitionLink
  simp only [String.toList_append, hpath, hsrc, hver, hfirst, hlast, List.append_assoc, List.cons_append,
    List.nil_append]

/-- The reader gets the path, the address and the lines, and between them whatever parameters the version makes. -/
theorem parameters?_definitionLink_eq (l : Locator) (path : String) (line : Nat) :
    parameters? (l.definitionLink path line) =
      ((("ver".toList ++ '=' :: l.version.toList).splitOn '&').mapM parameter?).map fun version =>
        [("path", path), ("src", l.addressOf path)] ++ version ++
          [("startl", Nat.repr line), ("endl", Nat.repr line)] := by
  have hpath : parameter? ("path".toList ++ '=' :: (Text.Percent.encode path).toList) = some ("path", path) :=
    parameter?_encode (by decide) path
  have hsrc : parameter? ("src".toList ++ '=' :: (Text.Percent.encode (l.addressOf path)).toList) =
      some ("src", l.addressOf path) := parameter?_encode (by decide) (l.addressOf path)
  have hdigits : '&' ∉ (Nat.repr line).toList := Decimal.not_mem_repr (by decide) line
  have hfirst : parameter? ("startl".toList ++ '=' :: (Nat.repr line).toList) = some ("startl", Nat.repr line) :=
    parameter?_repr (by decide) line
  have hlast : parameter? ("endl".toList ++ '=' :: (Nat.repr line).toList) = some ("endl", Nat.repr line) :=
    parameter?_repr (by decide) line
  rw [parameters?, toList_definitionLink, after?_append, Option.bind_some,
    List.splitOn_append_cons_self_of_not_mem (amp_not_mem_part (by decide) (amp_not_mem_encode path)),
    List.splitOn_append_cons_self_of_not_mem (amp_not_mem_part (by decide) (amp_not_mem_encode _)),
    List.splitOn_append_cons_self,
    List.splitOn_append_cons_self_of_not_mem (amp_not_mem_part (by decide) hdigits),
    List.splitOn_eq_singleton (amp_not_mem_part (by decide) hdigits)]
  simp only [List.mapM_cons, List.mapM_append, List.mapM_nil, hpath, hsrc, hfirst, hlast]
  cases (("ver".toList ++ '=' :: l.version.toList).splitOn '&').mapM parameter? <;> rfl

/-- **The link to a line is read back unless its version spoils it.** The reader gets the path, the address of the
file, the version and twice the line exactly where the version has neither a `&` nor an escape: the link carries the
path and the address encoded, but the version as it is. -/
theorem parameters?_definitionLink (l : Locator) (path : String) (line : Nat) :
    parameters? (l.definitionLink path line) =
        some [("path", path), ("src", l.addressOf path), ("ver", l.version), ("startl", Nat.repr line),
          ("endl", Nat.repr line)] ↔
      '&' ∉ l.version.toList ∧ ¬Text.Percent.HasEscape l.version.toList := by
  have hequal : '=' ∉ "ver".toList := by decide
  have hplain : '&' ∉ "ver".toList := by decide
  rw [parameters?_definitionLink_eq, ← mapM_parameter?_plain_iff hequal hplain]
  constructor
  · intro h
    obtain ⟨version, hread, h⟩ := Option.map_eq_some_iff.1 h
    have hone : version ++ [("startl", Nat.repr line), ("endl", Nat.repr line)] =
        [("ver", l.version)] ++ [("startl", Nat.repr line), ("endl", Nat.repr line)] := by simpa using h
    rw [hread, List.append_cancel_right hone]
  · intro h
    rw [h]
    rfl

/-- A version with a `&` makes a parameter of its own, and the reader gets another version and two first lines. -/
theorem parameters?_definitionLink_two_firsts :
    parameters? ((directory "demo" "v1&startl=9").definitionLink "f" 7) =
        some [("path", "f"), ("src", "projects/demo/v1&startl=9/f"), ("ver", "v1"), ("startl", "9"),
          ("startl", "7"), ("endl", "7")] ∧
      parameters? ((directory "demo" "v1&startl=9").definitionLink "f" 7) ≠
        some [("path", "f"), ("src", "projects/demo/v1&startl=9/f"), ("ver", "v1&startl=9"), ("startl", "7"),
          ("endl", "7")] := by
  have hparts : ("ver".toList ++ '=' :: "v1&startl=9".toList).splitOn '&' =
      ["ver".toList ++ '=' :: "v1".toList, "startl".toList ++ '=' :: "9".toList] := by decide
  have hversion : parameter? ("ver".toList ++ '=' :: "v1".toList) = some ("ver", "v1") :=
    parameter?_plain (by decide) (by decide)
  have hfirst : parameter? ("startl".toList ++ '=' :: "9".toList) = some ("startl", "9") :=
    parameter?_plain (by decide) (by decide)
  have hread : parameters? ((directory "demo" "v1&startl=9").definitionLink "f" 7) =
      some [("path", "f"), ("src", "projects/demo/v1&startl=9/f"), ("ver", "v1"), ("startl", "9"),
        ("startl", "7"), ("endl", "7")] := by
    rw [parameters?_definitionLink_eq, version, hparts, List.mapM_cons, List.mapM_cons, hversion, hfirst]
    rfl
  rw [hread]
  exact ⟨rfl, by decide⟩

end Locator
end LoopSurvey
