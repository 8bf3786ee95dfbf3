/-!
# Blanks, trimming and lines

The blanks of the Unicode property White_Space, what is left of a text without the blanks at its
ends, and the lines of a text.
-/

namespace LoopSurvey.Text

/-- Whether a character has the Unicode property White_Space. -/
def isBlank (c : Char) : Bool :=
  let n := c.toNat
  (9 ≤ n && n ≤ 13) || n == 0x20 || n == 0x85 || n == 0xA0 || n == 0x1680 ||
    (0x2000 ≤ n && n ≤ 0x200A) || n == 0x2028 || n == 0x2029 || n == 0x202F || n == 0x205F ||
    n == 0x3000

/-- The text without the blanks it begins with. -/
def trimStart (s : String) : String :=
  String.ofList (s.toList.dropWhile isBlank)

/-- The text without the blanks at both its ends. -/
def trim (s : String) : String :=
  String.ofList (((s.toList.dropWhile isBlank).reverse.dropWhile isBlank).reverse)

/-- Puts a character in front of the first line. -/
def consFirst (c : Char) : List (List Char) → List (List Char)
  | [] => [[c]]
  | line :: rest => (c :: line) :: rest

/-- The lines of a text. A line ends at a line feed, which takes one carriage return before it along;
what follows the last line feed is a line only if it is not empty. -/
def linesOf : List Char → List (List Char)
  | [] => []
  | '\r' :: '\n' :: rest => [] :: linesOf rest
  | c :: rest => if c = '\n' then [] :: linesOf rest else consFirst c (linesOf rest)

/-- The lines of a text, without their ends. -/
def lines (s : String) : List String :=
  (linesOf s.toList).map String.ofList

/-- Cuts a text at the first occurrence of a character, which belongs to neither part. -/
def cutAt? (c : Char) (s : String) : Option (String × String) :=
  match s.toList.span (· != c) with
  | (_, []) => none
  | (before, _ :: after) => some (String.ofList before, String.ofList after)

/-- The pieces of a text between the occurrences of a character. -/
def piecesOf (c : Char) : List Char → List (List Char)
  | [] => [[]]
  | x :: rest => if x = c then [] :: piecesOf c rest else consFirst x (piecesOf c rest)

/-- The number of characters of a text. -/
def width (s : String) : Nat := s.toList.length

/-- The text cut to at most `room` characters, with an ellipsis for its last character where it had
to be shortened. -/
def clip (s : String) (room : Nat) : String :=
  if width s ≤ room then s
  else match room with
    | 0 => ""
    | n + 1 => String.ofList (s.toList.take n ++ ['…'])

end LoopSurvey.Text
