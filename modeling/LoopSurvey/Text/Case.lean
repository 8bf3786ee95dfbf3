import LoopSurvey.Text.CaseTable
/-!
# Letter case

The full lower-case form of a text and the full upper-case form of a character. Lower case depends
on the neighbours at one place only: a capital sigma that ends a word becomes the final sigma.
-/

namespace LoopSurvey.Text

/-- The lower-case form of a character that is not a capital sigma. -/
def lowerChar (c : Char) : List Char :=
  if c.toNat < 128 then [c.toLower]
  else if c.toNat = 0x130 then ['i', Char.ofNat 0x307]
  else match lowerRuns.findSome? (·.partner? c.toNat) with
    | some n => [Char.ofNat n]
    | none => [c]

/-- The upper-case form of a character. -/
def upperChar (c : Char) : List Char :=
  if c.toNat < 128 then [c.toUpper]
  else match upperExpansions.lookup c.toNat with
    | some ns => ns.map Char.ofNat
    | none => match upperRuns.findSome? (·.partner? c.toNat) with
      | some n => [Char.ofNat n]
      | none => [c]

/-- Whether the first character that counts for case is a cased one. -/
def startsCased (cs : List Char) : Bool :=
  match cs.dropWhile fun c => inRanges caseIgnorableRanges c.toNat with
  | [] => false
  | c :: _ => inRanges casedRanges c.toNat

/-- Lower case of what follows `before`, the characters already passed, last one first. A capital
sigma is final when a cased character stands before it and none after it. -/
def lowerAfter (before : List Char) : List Char → List Char
  | [] => []
  | c :: rest =>
    (if c = 'Σ' then [if startsCased before && !startsCased rest then 'ς' else 'σ'] else lowerChar c)
      ++ lowerAfter (c :: before) rest

/-- The full lower-case form of a text. -/
def lower (s : String) : String :=
  String.ofList (lowerAfter [] s.toList)

/-- The text in lower case but for its first character, which is in upper case. -/
def capitalized (s : String) : String :=
  match (lower s).toList with
  | [] => ""
  | c :: rest => String.ofList (upperChar c ++ rest)

end LoopSurvey.Text
