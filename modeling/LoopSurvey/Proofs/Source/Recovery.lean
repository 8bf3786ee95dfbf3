import LoopSurvey.Source.View
import Mathlib.Data.List.Infix
/-!
# Locators are found again in addresses

An address of a source file leads back to the locator that it was made with. The name of a repository ends at
the first semicolon, and its revision begins after the last `;hb=`, whatever the path says
(`Locator.ofAddress?_repository`); the project and the version end at the first two slashes
(`Locator.ofAddress?_directory`). So a view has the same marks whether its request carries the locator or only
the address (`LinkContext.ofAddress?_sourceAddress`).
-/

namespace LoopSurvey

namespace Locator

/-! ## Cutting texts -/

theorem after?_append (beginning cs : List Char) : after? beginning (beginning ++ cs) = some cs := by
  induction beginning with
  | nil => rfl
  | cons c rest ih => rw [List.cons_append, after?, if_pos rfl, ih]

theorem eq_append_of_after? {beginning cs rest : List Char} (h : after? beginning cs = some rest) :
    cs = beginning ++ rest := by
  induction beginning generalizing cs with
  | nil => exact Option.some.inj h
  | cons p ps ih =>
    cases cs with
    | nil => cases h
    | cons c cs =>
      rw [after?] at h
      split at h
      · next hpc => rw [hpc, ih h, List.cons_append]
      · cases h

/-- A text up to its first stop. -/
theorem upTo?_append {stop : Char} {cs : List Char} (hne : cs ≠ []) (h : stop ∉ cs) (rest : List Char) :
    upTo? stop (cs ++ stop :: rest) = some (cs, stop :: rest) := by
  have hall : ∀ c ∈ cs, (decide (c ≠ stop)) = true := by
    intro c hc
    exact decide_eq_true fun he => h (he ▸ hc)
  have htake : (cs ++ stop :: rest).takeWhile (· ≠ stop) = cs := by
    rw [List.takeWhile_append_of_pos hall]
    simp
  have hdrop : (cs ++ stop :: rest).dropWhile (· ≠ stop) = stop :: rest := by
    rw [List.dropWhile_append_of_pos hall]
    simp
  obtain ⟨c, cs, rfl⟩ := List.exists_cons_of_ne_nil hne
  rw [upTo?, htake, hdrop]

/-- There is no cut where the separator does not occur after the first character. -/
theorem cutAtLast?_eq_none {separator cs : List Char} (h : ¬separator <:+: cs.tail) :
    cutAtLast? separator cs = none := by
  induction cs with
  | nil => rfl
  | cons c rest ih =>
    have hrest : cutAtLast? separator rest = none :=
      ih fun hin => h (hin.trans (List.tail_suffix rest).isInfix)
    have hafter : after? separator rest = none := by
      cases ha : after? separator rest with
      | none => rfl
      | some behind => exact absurd ⟨[], behind, (eq_append_of_after? ha).symm⟩ h
    rw [cutAtLast?, hrest, hafter]

/-- The last cut is the one that no other follows. -/
theorem cutAtLast?_append {separator before behind : List Char} (hbefore : before ≠ []) (hbehind : behind ≠ [])
    (h : ¬separator <:+: (separator ++ behind).tail) :
    cutAtLast? separator (before ++ (separator ++ behind)) = some (before, behind) := by
  induction before with
  | nil => exact absurd rfl hbefore
  | cons c before ih =>
    cases before with
    | nil =>
      obtain ⟨d, behind, rfl⟩ := List.exists_cons_of_ne_nil hbehind
      rw [List.singleton_append, cutAtLast?, cutAtLast?_eq_none h, after?_append]
    | cons b before => rw [List.cons_append, cutAtLast?, ih (List.cons_ne_nil _ _)]

/-- A separator whose first character does not come back in it occurs no earlier than in what follows. -/
theorem not_infix_append {s : Char} {separator front cs : List Char} (hfront : s ∉ front)
    (h : ¬s :: separator <:+: cs) : ¬s :: separator <:+: front ++ cs := by
  induction front with
  | nil => exact h
  | cons c front ih =>
    obtain ⟨hc, hrest⟩ := not_or.1 (mt List.mem_cons.2 hfront)
    rw [List.cons_append, List.infix_cons_iff]
    rintro (hhere | hlater)
    · exact hc (List.cons_prefix_cons.1 hhere).1
    · exact ih hrest hlater

theorem firstMatch?_of_match {matchAt? : List Char → Option Locator} {cs : List Char} {l : Locator}
    (h : matchAt? cs = some l) : firstMatch? matchAt? cs = some l := by
  cases cs with
  | nil => exact h
  | cons c rest => rw [firstMatch?, h, Option.some_or]

/-! ## Addresses of the two forms -/

/-- A name without semicolons, then something on one line, and a revision on that line that goes on to its end
without another `;hb=`. -/
theorem repositoryAt?_append {name middle revision : List Char} (hname : name ≠ []) (hstop : ';' ∉ name)
    (hmiddle : middle ≠ []) (hrevision : revision ≠ []) (hline : '\n' ∉ middle ++ revision)
    (hlast : ¬";hb=".toList <:+: revision) :
    repositoryAt? ("/gitweb/?p=".toList ++ (name ++ (";a=blob_plain;".toList ++
      (middle ++ (";hb=".toList ++ revision))))) =
      some (repository (String.ofList name) (String.ofList revision)) := by
  have hname' : upTo? ';' (name ++ (";a=blob_plain;".toList ++ (middle ++ (";hb=".toList ++ revision)))) =
      some (name, ";a=blob_plain;".toList ++ (middle ++ (";hb=".toList ++ revision))) :=
    upTo?_append hname hstop ("a=blob_plain;".toList ++ (middle ++ (";hb=".toList ++ revision)))
  have hline' : (middle ++ (";hb=".toList ++ revision)).contains '\n' = false := by
    simp only [List.mem_append, not_or] at hline
    simp [hline]
  have hnext : ¬";hb=".toList <:+: "hb=".toList ++ revision := not_infix_append (by decide) hlast
  have hcut : cutAtLast? ";hb=".toList (middle ++ (";hb=".toList ++ revision)) = some (middle, revision) :=
    cutAtLast?_append hmiddle hrevision hnext
  simp only [repositoryAt?, after?_append, hname', hline', hcut, Option.bind_eq_bind, Option.bind_some,
    Bool.false_eq_true, if_false]
  rfl

/-- A project and a version without slashes, and a path on one line. -/
theorem directoryAt?_append {project version path : List Char} (hproject : project ≠ []) (hstop : '/' ∉ project)
    (hversion : version ≠ []) (hstop' : '/' ∉ version) (hpath : path ≠ []) (hline : '\n' ∉ path) :
    directoryAt? ("projects/".toList ++ (project ++ '/' :: (version ++ '/' :: path))) =
      some (directory (String.ofList project) (String.ofList version)) := by
  have hproject' := upTo?_append hproject hstop (version ++ '/' :: path)
  have hversion' := upTo?_append hversion hstop' path
  have hslash : ∀ cs : List Char, after? ['/'] ('/' :: cs) = some cs := after?_append ['/']
  have hline' : ¬(path.isEmpty ∨ path.contains '\n') := by simp [hpath, hline]
  simp only [directoryAt?, after?_append, hproject', hversion', hslash, if_neg hline', Option.bind_eq_bind,
    Option.bind_some]
  rfl

theorem ofAddress?_of_repositoryAt? {address : String} {rest : List Char} {l : Locator}
    (haddress : address.toList = "/gitweb/?p=".toList ++ rest) (h : repositoryAt? address.toList = some l) :
    ofAddress? address = some l := by
  have hbegins : (after? "/gitweb".toList address.toList).isSome = true := by
    rw [haddress]
    exact congrArg Option.isSome (after?_append "/gitweb".toList ("/?p=".toList ++ rest))
  rw [ofAddress?, if_pos hbegins]
  exact firstMatch?_of_match h

theorem ofAddress?_of_directoryAt? {address : String} {rest : List Char} {l : Locator}
    (haddress : address.toList = "projects/".toList ++ rest) (h : directoryAt? address.toList = some l) :
    ofAddress? address = some l := by
  have hother : ¬(after? "/gitweb".toList address.toList).isSome = true := by
    rw [haddress]
    exact Bool.false_ne_true
  have hbegins : (after? "projects".toList address.toList).isSome = true := by
    rw [haddress]
    exact congrArg Option.isSome (after?_append "projects".toList ('/' :: rest))
  rw [ofAddress?, if_neg hother, if_pos hbegins]
  exact firstMatch?_of_match h

theorem addressOf_repository (path name revision : String) :
    addressOf path (.repository name revision) =
      "/gitweb/?p=" ++ name ++ ";a=blob_plain;" ++ ("f=" ++ path) ++ ";hb=" ++ revision := by
  have hblob : ";a=blob_plain;f=" = ";a=blob_plain;" ++ "f=" := rfl
  unfold addressOf
  simp only [hblob, String.append_assoc]

end Locator

/-! ## Links -/

/-- A source file that is known by a path on one line. -/
structure Payload.OnOneLine (p : Payload) : Prop where
  exists_path : ∃ path ∈ p.path, path ≠ "" ∧ '\n' ∉ path.toList
  fileId_line : ∀ fileId ∈ p.fileId, '\n' ∉ fileId.toList

namespace LinkContext

/-- What names the sources of a survey can be told apart in an address. -/
structure Traceable (c : LinkContext) : Prop where
  viewId_ne : c.viewId ≠ ""
  viewId_line : '\n' ∉ c.viewId.toList
  of_revision : c.kind = .revision → c.repositoryName ≠ "" ∧ ';' ∉ c.repositoryName.toList ∧
    ¬";hb=".toList <:+: c.viewId.toList
  of_release : c.kind = .release → c.project ≠ "" ∧ '/' ∉ c.project.toList ∧ '/' ∉ c.viewId.toList

variable {c : LinkContext}

/-- Whatever stands on one line between the name of the repository and the revision. -/
theorem Traceable.ofAddress?_repository (h : c.Traceable) (hkind : c.kind = .revision) {middle : String}
    (hmiddle : middle ≠ "") (hline : '\n' ∉ middle.toList) :
    Locator.ofAddress? ("/gitweb/?p=" ++ c.repositoryName ++ ";a=blob_plain;" ++ middle ++ ";hb=" ++ c.viewId) =
      some (.repository c.repositoryName c.viewId) := by
  obtain ⟨hname, hstop, hlast⟩ := h.of_revision hkind
  have haddress : ("/gitweb/?p=" ++ c.repositoryName ++ ";a=blob_plain;" ++ middle ++ ";hb=" ++ c.viewId).toList =
      "/gitweb/?p=".toList ++ (c.repositoryName.toList ++ (";a=blob_plain;".toList ++
        (middle.toList ++ (";hb=".toList ++ c.viewId.toList)))) := by
    simp only [String.toList_append, List.append_assoc]
  have hline' : '\n' ∉ middle.toList ++ c.viewId.toList := by
    rw [List.mem_append, not_or]
    exact ⟨hline, h.viewId_line⟩
  have hmatch := Locator.repositoryAt?_append (mt String.toList_eq_nil_iff.1 hname) hstop
    (mt String.toList_eq_nil_iff.1 hmiddle) (mt String.toList_eq_nil_iff.1 h.viewId_ne) hline' hlast
  rw [← haddress, String.ofList_toList, String.ofList_toList] at hmatch
  exact Locator.ofAddress?_of_repositoryAt? haddress hmatch

/-- The address of a path, whatever it is. -/
theorem Traceable.ofAddress?_directory (h : c.Traceable) (hkind : c.kind = .release) {path : String}
    (hpath : path ≠ "") (hline : '\n' ∉ path.toList) :
    Locator.ofAddress? ("projects/" ++ c.project ++ "/" ++ c.viewId ++ "/" ++ path) =
      some (.directory c.project c.viewId) := by
  obtain ⟨hproject, hstop, hstop'⟩ := h.of_release hkind
  have haddress : ("projects/" ++ c.project ++ "/" ++ c.viewId ++ "/" ++ path).toList =
      "projects/".toList ++ (c.project.toList ++ '/' :: (c.viewId.toList ++ '/' :: path.toList)) := by
    have hslash : "/".toList = ['/'] := rfl
    simp only [String.toList_append, List.append_assoc, hslash, List.cons_append, List.nil_append]
  have hmatch := Locator.directoryAt?_append (mt String.toList_eq_nil_iff.1 hproject) hstop
    (mt String.toList_eq_nil_iff.1 h.viewId_ne) hstop' (mt String.toList_eq_nil_iff.1 hpath) hline
  rw [← haddress, String.ofList_toList, String.ofList_toList] at hmatch
  exact Locator.ofAddress?_of_directoryAt? haddress hmatch

theorem sourceAddress_of_revision (hkind : c.kind = .revision) (p : Payload) :
    c.sourceAddress p = "/gitweb/?p=" ++ c.repositoryName ++ ";a=blob_plain;" ++
      ("f=" ++ p.path.getD "" ++ ";h=" ++ p.fileId.getD "") ++ ";hb=" ++ c.viewId := by
  have hblob : ";a=blob_plain;f=" = ";a=blob_plain;" ++ "f=" := rfl
  unfold sourceAddress
  rw [hkind]
  simp only [hblob, String.append_assoc]

/-- The address of a node's source file leads back to the sources of the survey. -/
theorem Traceable.ofAddress?_of_payload (h : c.Traceable) {p : Payload} (hp : p.OnOneLine) :
    Locator.ofAddress? (c.sourceAddress p) = some c.locator := by
  obtain ⟨path, hpath, hne, hline⟩ := hp.exists_path
  have hpath' : p.path.getD "" = path := by
    rw [Option.mem_def.1 hpath]
    rfl
  cases hkind : c.kind with
  | revision =>
    have hfile : '\n' ∉ (p.fileId.getD "").toList := by
      cases hf : p.fileId with
      | none => exact List.not_mem_nil
      | some fileId => exact hp.fileId_line fileId hf
    rw [sourceAddress_of_revision hkind, hpath', locator, hkind]
    exact h.ofAddress?_repository hkind (by simp [String.append_eq_empty_iff]) (by simp [hline, hfile])
  | release =>
    rw [sourceAddress, hpath', locator, hkind]
    exact h.ofAddress?_directory hkind hne hline

/-- The address of any file among the sources of the survey leads back to them. -/
theorem Traceable.ofAddress?_of_path (h : c.Traceable) {path : String} (hne : path ≠ "")
    (hline : '\n' ∉ path.toList) : Locator.ofAddress? (c.locator.addressOf path) = some c.locator := by
  cases hkind : c.kind with
  | revision =>
    rw [locator, hkind, Locator.addressOf_repository]
    exact h.ofAddress?_repository hkind (by simp [String.append_eq_empty_iff]) (by simp [hline])
  | release =>
    rw [locator, hkind]
    exact h.ofAddress?_directory hkind hne hline

/-- A view looks for the locator in the address if the request carries none. -/
theorem build_of_ofAddress? {text : String} {r : SourceRequest} {l : Locator}
    (h : Locator.ofAddress? r.address = some l) :
    SourceView.build text { r with locator := none } = SourceView.build text { r with locator := some l } := by
  unfold SourceView.build
  dsimp only [SourceView.rangesOf]
  rw [h]
  rfl

/-- **Locators are found again in addresses.** Where what names the sources of a survey can be told apart, the
address of the source file of a node leads back to them, and so does the address of any file among them. A
source is viewed the same, then, whether its request carries the locator or only such an address. -/
theorem ofAddress?_sourceAddress (h : c.Traceable) :
    (∀ p : Payload, p.OnOneLine → Locator.ofAddress? (c.sourceAddress p) = some c.locator) ∧
    (∀ path : String, path ≠ "" → '\n' ∉ path.toList →
      Locator.ofAddress? (c.locator.addressOf path) = some c.locator) ∧
    (∀ (text : String) (r : SourceRequest),
      (∃ p : Payload, p.OnOneLine ∧ r.address = c.sourceAddress p) ∨
        (∃ path, path ≠ "" ∧ '\n' ∉ path.toList ∧ r.address = c.locator.addressOf path) →
      SourceView.build text { r with locator := none } =
        SourceView.build text { r with locator := some c.locator }) := by
  refine ⟨fun p hp => h.ofAddress?_of_payload hp, fun path hne hline => h.ofAddress?_of_path hne hline,
    fun text r haddress => ?_⟩
  apply build_of_ofAddress?
  rcases haddress with ⟨p, hp, he⟩ | ⟨path, hne, hline, he⟩
  · rw [he]
    exact h.ofAddress?_of_payload hp
  · rw [he]
    exact h.ofAddress?_of_path hne hline

/-- A repository at a revision, and a path that looks like the end of an address itself. -/
theorem ofAddress?_sourceAddress_nested :
    let c : LinkContext := { project := "demo_git", kind := .revision, viewId := "v2" }
    let p : Payload := { path := some "projects/a/b;hb=v1", fileId := some "deadbeef" }
    c.Traceable ∧ p.OnOneLine ∧
    Locator.ofAddress? (c.sourceAddress p) = some (.repository "demo.git" "v2") := by
  intro c p
  have hc : c.Traceable := by
    refine ⟨by decide, by decide, fun _ => ⟨by decide, by decide, by decide⟩, fun hkind => ?_⟩
    cases hkind
  have hp : p.OnOneLine := ⟨⟨_, rfl, by decide, by decide⟩, by decide⟩
  have hlocator : c.locator = .repository "demo.git" "v2" := by decide
  exact ⟨hc, hp, hlocator ▸ (ofAddress?_sourceAddress hc).1 p hp⟩

end LinkContext
end LoopSurvey
