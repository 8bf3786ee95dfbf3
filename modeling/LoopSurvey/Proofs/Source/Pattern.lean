import LoopSurvey.Proofs.Source.Recovery
/-!
# The forms of addresses as patterns

A pattern consists of fixed texts and of runs of characters of a class. It is matched up to the end of a text, and
each run takes as many characters as it can: it gives one back only where what follows would not match otherwise
(`Pattern.longest?`, `Pattern.match?`). The two forms of addresses are patterns, and the locator that an address is
found to be made with is read off the runs of the first match, from the beginning of the address to its end
(`Locator.ofAddress?_eq_match?`).
-/

namespace LoopSurvey

/-- A piece of a pattern. -/
inductive Piece
  | text (cs : List Char)
  /-- One or more characters of a class. -/
  | run (p : Char → Bool)

/-- Pieces that follow one another. -/
abbrev Pattern := List Piece

namespace Pattern

/-- The most characters of a class, at least one, that a text begins with and that leave behind what has to follow. -/
def longest? (p : Char → Bool) (following? : List Char → Option β) : List Char → Option (List Char × β)
  | [] => none
  | c :: rest =>
    if p c then
      ((longest? p following? rest).map fun found => (c :: found.1, found.2)).or
        ((following? rest).map fun b => ([c], b))
    else none

/-- What the runs of a pattern take where it matches a text up to its end. -/
def match? : Pattern → List Char → Option (List (List Char))
  | [], cs => if cs = [] then some [] else none
  | .text t :: pieces, cs => (Locator.after? t cs).bind (match? pieces)
  | .run p :: pieces, cs => (longest? p (match? pieces) cs).map fun found => found.1 :: found.2

/-! ## Runs up to a stop -/

variable {following? : List Char → Option β} {stop : Char}

/-- Nothing is given back where what follows has to begin with the stop. -/
theorem longest?_cons_of_stop (hnil : following? [] = none)
    (hcons : ∀ c rest, c ≠ stop → following? (c :: rest) = none) {c : Char} (hc : c ≠ stop) (rest : List Char) :
    longest? (· ≠ stop) following? (c :: rest) =
      (following? (rest.dropWhile (· ≠ stop))).map fun b => (c :: rest.takeWhile (· ≠ stop), b) := by
  induction rest generalizing c with
  | nil => simp [longest?, hc, hnil]
  | cons d rest ih =>
    rw [longest?, if_pos (by simpa using hc)]
    by_cases hd : d = stop
    · simp [longest?, hd]
    · rw [ih hd, hcons d rest hd]
      simp [hd, Function.comp_def]

theorem longest?_eq_upTo? (hnil : following? [] = none)
    (hcons : ∀ c rest, c ≠ stop → following? (c :: rest) = none) (cs : List Char) :
    longest? (· ≠ stop) following? cs =
      (Locator.upTo? stop cs).bind fun cut => (following? cut.2).map fun b => (cut.1, b) := by
  cases cs with
  | nil => rfl
  | cons c rest =>
    by_cases hc : c = stop
    · simp [longest?, Locator.upTo?, hc]
    · rw [longest?_cons_of_stop hnil hcons hc]
      simp [Locator.upTo?, hc]

/-- A text that begins with the stop has to follow. -/
theorem longest?_text_eq_upTo? {text : List Char} (h : text.head? = some stop) (pieces : Pattern) (cs : List Char) :
    longest? (· ≠ stop) (match? (.text text :: pieces)) cs =
      (Locator.upTo? stop cs).bind fun cut => (match? (.text text :: pieces) cut.2).map fun runs => (cut.1, runs) := by
  obtain ⟨text, rfl⟩ : ∃ rest, text = stop :: rest := ⟨text.tail, List.eq_cons_of_mem_head? h⟩
  refine longest?_eq_upTo? rfl (fun c rest hc => ?_) cs
  rw [match?, Locator.after?, if_neg (Ne.symm hc)]
  rfl

/-! ## Runs on one line -/

/-- A run up to the end takes all there is, if that is one line. -/
theorem match?_line (cs : List Char) :
    match? [.run (· ≠ '\n')] cs = if cs = [] ∨ '\n' ∈ cs then none else some [cs] := by
  have hlongest : longest? (· ≠ '\n') (match? []) cs =
      if cs = [] ∨ '\n' ∈ cs then none else some (cs, []) := by
    induction cs with
    | nil => rfl
    | cons c rest ih =>
      by_cases hc : c = '\n'
      · simp [longest?, hc]
      · rw [longest?, if_pos (by simpa using hc), ih]
        cases rest with
        | nil => simp [match?, Ne.symm hc]
        | cons d rest => by_cases hline : '\n' ∈ d :: rest <;> simp [match?, hline, Ne.symm hc]
  rw [match?, hlongest]
  split <;> rfl

/-- A run on one line that leaves a separator and another run behind takes all up to the last separator. -/
theorem longest?_eq_cutAtLast? {separator : List Char} (h : '\n' ∉ separator) (cs : List Char) :
    longest? (· ≠ '\n') (match? [.text separator, .run (· ≠ '\n')]) cs =
      if '\n' ∈ cs then none
      else (Locator.cutAtLast? separator cs).map fun cut => (cut.1, [cut.2]) := by
  induction cs with
  | nil => rfl
  | cons c rest ih =>
    by_cases hc : c = '\n'
    · simp [longest?, hc]
    · have hfollowing : match? [.text separator, .run (· ≠ '\n')] rest =
          (Locator.after? separator rest).bind fun behind =>
            if behind = [] ∨ '\n' ∈ behind then none else some [behind] := by
        rw [match?]
        exact congrArg _ (funext match?_line)
      rw [longest?, if_pos (by simpa using hc), ih, hfollowing]
      by_cases hline : '\n' ∈ rest
      · -- what is behind the separator has the end of the line, too
        have hnone : ((Locator.after? separator rest).bind fun behind =>
            if behind = [] ∨ '\n' ∈ behind then none else some [behind]) = none := by
          cases hafter : Locator.after? separator rest with
          | none => rfl
          | some behind =>
            rw [Locator.eq_append_of_after? hafter, List.mem_append] at hline
            simp [hline.resolve_left h]
        simp [hline, hnone]
      · rw [if_neg hline, if_neg (by simp [hline, Ne.symm hc]), Locator.cutAtLast?]
        cases hcut : Locator.cutAtLast? separator rest with
        | some cut => rfl
        | none =>
          cases hafter : Locator.after? separator rest with
          | none => rfl
          | some behind =>
            rw [Locator.eq_append_of_after? hafter, List.mem_append, not_or] at hline
            cases behind with
            | nil => rfl
            | cons d behind => simp [hline.2]

end Pattern

/-! ## The two forms -/

namespace Locator

open Pattern

/-- The form of addresses of repositories: the name, what is before the revision, and the revision. -/
def repositoryForm : Pattern :=
  [.text "/gitweb/?p=".toList, .run (· ≠ ';'), .text ";a=blob_plain;".toList, .run (· ≠ '\n'),
    .text ";hb=".toList, .run (· ≠ '\n')]

/-- The form of addresses of directories: the project, the version, and the path. -/
def directoryForm : Pattern :=
  [.text "projects/".toList, .run (· ≠ '/'), .text ['/'], .run (· ≠ '/'), .text ['/'], .run (· ≠ '\n')]

/-- The repository that the runs of its form name. -/
def repositoryOf? : List (List Char) → Option Locator
  | [name, _, revision] => some (repository (String.ofList name) (String.ofList revision))
  | _ => none

/-- The directory that the runs of its form name. -/
def directoryOf? : List (List Char) → Option Locator
  | [project, version, _] => some (directory (String.ofList project) (String.ofList version))
  | _ => none

/-- Matching the form of repositories cuts a text where its parts are looked for. -/
theorem repositoryAt?_eq_match? (cs : List Char) : repositoryAt? cs = (match? repositoryForm cs).bind repositoryOf? := by
  unfold repositoryAt? repositoryForm
  rw [match?]
  cases after? "/gitweb/?p=".toList cs with
  | none => rfl
  | some rest =>
    simp only [Option.bind_eq_bind, Option.bind_some]
    rw [match?, longest?_text_eq_upTo? rfl]
    cases upTo? ';' rest with
    | none => rfl
    | some cut =>
      simp only [Option.bind_some]
      rw [match?]
      cases after? ";a=blob_plain;".toList cut.2 with
      | none => rfl
      | some rest =>
        simp only [Option.bind_some]
        rw [match?, longest?_eq_cutAtLast? (by decide)]
        by_cases hline : '\n' ∈ rest
        · simp [hline]
        · simp only [if_neg hline, List.contains_iff_mem]
          cases cutAtLast? ";hb=".toList rest <;> rfl

/-- Matching the form of directories cuts a text where its parts are looked for. -/
theorem directoryAt?_eq_match? (cs : List Char) : directoryAt? cs = (match? directoryForm cs).bind directoryOf? := by
  unfold directoryAt? directoryForm
  rw [match?]
  cases after? "projects/".toList cs with
  | none => rfl
  | some rest =>
    simp only [Option.bind_eq_bind, Option.bind_some]
    rw [match?, longest?_text_eq_upTo? rfl]
    cases upTo? '/' rest with
    | none => rfl
    | some cut =>
      simp only [Option.bind_some]
      rw [match?]
      cases after? ['/'] cut.2 with
      | none => rfl
      | some rest =>
        simp only [Option.bind_some]
        rw [match?, longest?_text_eq_upTo? rfl]
        cases upTo? '/' rest with
        | none => rfl
        | some cut =>
          simp only [Option.bind_some]
          rw [match?]
          cases after? ['/'] cut.2 with
          | none => rfl
          | some rest =>
            simp only [Option.bind_some, match?_line, List.isEmpty_iff, List.contains_iff_mem]
            split <;> rfl

/-- **Locators are read off matches.** The locator that an address is found to be made with is read off the first
match of the form that its beginning tells. -/
theorem ofAddress?_eq_match? (address : String) : ofAddress? address =
    if "/gitweb".toList <+: address.toList then
      firstMatch? (fun cs => (match? repositoryForm cs).bind repositoryOf?) address.toList
    else if "projects".toList <+: address.toList then
      firstMatch? (fun cs => (match? directoryForm cs).bind directoryOf?) address.toList
    else none := by
  have hbegins : ∀ beginning cs : List Char, (after? beginning cs).isSome = true ↔ beginning <+: cs := by
    intro beginning cs
    constructor
    · intro h
      obtain ⟨rest, hrest⟩ := Option.isSome_iff_exists.1 h
      exact ⟨rest, (eq_append_of_after? hrest).symm⟩
    · rintro ⟨rest, rfl⟩
      rw [after?_append]
      rfl
  have hrepository : repositoryAt? = fun cs => (match? repositoryForm cs).bind repositoryOf? :=
    funext repositoryAt?_eq_match?
  have hdirectory : directoryAt? = fun cs => (match? directoryForm cs).bind directoryOf? :=
    funext directoryAt?_eq_match?
  simp only [ofAddress?, hbegins, hrepository, hdirectory]

end Locator

end LoopSurvey
