import LoopSurvey.Text.Case
/-!
# Colours and styles

The colours of a terminal, by name, by index or by components, and the styles of pieces of text.
-/

namespace LoopSurvey

/-- A colour of the terminal. -/
inductive Color
  | reset | black | red | green | yellow | blue | magenta | cyan | gray | darkGray
  | lightRed | lightGreen | lightYellow | lightBlue | lightMagenta | lightCyan | white
  | indexed (index : Nat)
  | rgb (red green blue : Nat)
deriving DecidableEq, Repr

namespace Color

/-- The colours that have a name, with the word they are read by and the name they are written by. -/
def named : List (Color × String × String) :=
  [(reset, "reset", "Reset"), (black, "black", "Black"), (red, "red", "Red"),
    (green, "green", "Green"), (yellow, "yellow", "Yellow"), (blue, "blue", "Blue"),
    (magenta, "magenta", "Magenta"), (cyan, "cyan", "Cyan"), (gray, "gray", "Gray"),
    (darkGray, "darkgray", "DarkGray"), (lightRed, "lightred", "LightRed"),
    (lightGreen, "lightgreen", "LightGreen"), (lightYellow, "lightyellow", "LightYellow"),
    (lightBlue, "lightblue", "LightBlue"), (lightMagenta, "lightmagenta", "LightMagenta"),
    (lightCyan, "lightcyan", "LightCyan"), (white, "white", "White")]

/-- Two upper-case hexadecimal digits. -/
def hexByte (n : Nat) : String :=
  let digit (n : Nat) : Char := if n < 10 then Char.ofNat (48 + n) else Char.ofNat (55 + n)
  String.ofList [digit (n / 16 % 16), digit (n % 16)]

/-- The written form of a colour. -/
def name (c : Color) : String :=
  match c with
  | indexed n => Nat.repr n
  | rgb r g b => "#" ++ hexByte r ++ hexByte g ++ hexByte b
  | c => ((named.find? (·.1 = c)).map (·.2.2)).getD ""

/-- The rest of a text behind something it begins with. -/
def behind? : List Char → List Char → Option (List Char)
  | [], cs => some cs
  | _ :: _, [] => none
  | p :: ps, c :: cs => if p = c then behind? ps cs else none

/-- Replaces a text wherever it occurs, from left to right. The first argument bounds the steps. -/
def replaceFrom (fuel : Nat) (old new cs : List Char) : List Char :=
  match fuel, cs with
  | 0, cs => cs
  | _, [] => []
  | fuel + 1, c :: rest =>
    match behind? old (c :: rest) with
    | some after => new ++ replaceFrom fuel old new after
    | none => c :: replaceFrom fuel old new rest

/-- Other words for the words of colours, in the order in which they are replaced. -/
def synonyms : List (String × String) :=
  [("bright", "light"), ("grey", "gray"), ("silver", "gray"), ("lightblack", "darkgray"),
    ("lightwhite", "white"), ("lightgray", "white")]

/-- The word for a colour: lower case, without blanks, hyphens and low lines, and without
synonyms. -/
def word (text : String) : String :=
  let bare := (Text.lower text).toList.filter fun c => c ≠ ' ' ∧ c ≠ '-' ∧ c ≠ '_'
  String.ofList (synonyms.foldl (fun cs s => replaceFrom cs.length s.1.toList s.2.toList cs) bare)

/-- The number below 256 that a text stands for; a plus sign may stand before its digits. -/
def index? (text : List Char) : Option Nat :=
  let ds : List Char := match text with
    | '+' :: rest => rest
    | cs => cs
  let n := ds.foldl (fun n c => n * 10 + (c.toNat - 48)) 0
  if ds ≠ [] ∧ ds.all Char.isDigit ∧ n < 256 then some n else none

/-- The value of a hexadecimal digit. -/
def hexDigit? (c : Char) : Option Nat :=
  if c.isDigit then some (c.toNat - 48)
  else if 'a' ≤ c ∧ c ≤ 'f' then some (c.toNat - 87)
  else if 'A' ≤ c ∧ c ≤ 'F' then some (c.toNat - 55)
  else none

/-- A component of two hexadecimal digits; a plus sign may stand for a first digit of zero. -/
def component? (a b : Char) : Option Nat := do
  let low ← hexDigit? b
  if a = '+' then pure low else pure ((← hexDigit? a) * 16 + low)

/-- The colour with given components, three times two digits behind a number sign. -/
def components? : List Char → Option Color
  | ['#', a, b, c, d, e, f] => do
    pure (rgb (← component? a b) (← component? c d) (← component? e f))
  | _ => none

/-- The colour that a text stands for. -/
def ofText? (text : String) : Option Color :=
  match named.find? (·.2.1 = word text) with
  | some entry => some entry.1
  | none => ((index? text.toList).map indexed).or (components? text.toList)

end Color

/-- The look of a piece of text. What is not given is left as it was. -/
structure Style where
  foreground : Option Color := none
  background : Option Color := none
  bold : Bool := false
  underlined : Bool := false
  reversed : Bool := false
deriving DecidableEq, Repr

namespace Style

/-- A style with a foreground colour only. -/
def colored (c : Color) : Style := { foreground := some c }

/-- A style over another one: what it gives counts, and attributes add up. -/
def atop (upper lower : Style) : Style where
  foreground := upper.foreground.or lower.foreground
  background := upper.background.or lower.background
  bold := upper.bold || lower.bold
  underlined := upper.underlined || lower.underlined
  reversed := upper.reversed || lower.reversed

end Style

/-- A piece of text in one style. -/
structure Span where
  text : String
  style : Style := {}
deriving DecidableEq, Repr

/-- A line of styled text. -/
abbrev Line := List Span

/-- The characters of a line. -/
def Line.chars (l : Line) : List Char := l.flatMap (·.text.toList)

end LoopSurvey
