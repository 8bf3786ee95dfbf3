import LoopSurvey.Toml.Value
/-!
# Reading TOML

The grammar of TOML 1.0 documents: statements on lines of their own, with keys, the four kinds of
strings, arrays that may go over several lines, and in-line tables that may not.
-/

namespace LoopSurvey.Toml

/-- Takes something from the front of a text. -/
abbrev Reader (α : Type) := StateT (List Char) Option α

namespace Reader

/-- Refuses the text. -/
def refuse : Reader α := fun _ => none

/-- Takes a character if it comes next, and tells whether it did. -/
def accept (c : Char) : Reader Bool := fun cs =>
  match cs with
  | d :: rest => if d = c then some (true, rest) else some (false, cs)
  | [] => some (false, [])

/-- Takes a character that has to come next. -/
def expect (c : Char) : Reader Unit := do
  if ← accept c then pure () else refuse

/-- The characters with a property that come next. -/
def takeWhile (p : Char → Bool) : Reader (List Char) := fun cs =>
  some (cs.takeWhile p, cs.dropWhile p)

/-- The next character, left in place. -/
def peek : Reader (Option Char) := fun cs => some (cs.head?, cs)

/-- Passes over blanks within a line. -/
def blanks : Reader Unit := do
  let _ ← takeWhile fun c => c == ' ' || c == '\t'

/-- Whether a character may stand in a comment or in a string that keeps to its line. -/
def isPlain (c : Char) : Bool := c == '\t' || (32 ≤ c.toNat && c.toNat ≠ 127)

/-- Passes over a comment, if there is one. -/
def comment : Reader Unit := do
  if ← accept '#' then
    let _ ← takeWhile isPlain

/-- Takes the end of a line, if it comes next. -/
def newline : Reader Bool := fun cs =>
  match cs with
  | '\n' :: rest => some (true, rest)
  | '\r' :: '\n' :: rest => some (true, rest)
  | cs => some (false, cs)

/-- Passes over blanks, comments and ends of lines. -/
def gaps : Nat → Reader Unit
  | 0 => pure ()
  | fuel + 1 => do
    blanks
    comment
    if ← newline then gaps fuel

/-- Passes over all blanks, comments and ends of lines that follow. -/
def allGaps : Reader Unit := do
  gaps (← get).length

/-! ## Strings -/

/-- The quotation mark of strings without escapes. -/
def apostrophe : Char := Char.ofNat 39

/-- The value of a number of hexadecimal digits, and the text after them. -/
def hexNumber? : Nat → Nat → List Char → Option (Nat × List Char)
  | 0, n, cs => some (n, cs)
  | count + 1, n, c :: rest => (digitValue? c).bind fun d => hexNumber? count (n * 16 + d) rest
  | _ + 1, _, [] => none

/-- The character with a code point, and the text after it, unless it is no character. -/
def scalarValue? (r : Nat × List Char) : Option (Char × List Char) :=
  if r.1 < 0xD800 ∨ (0xDFFF < r.1 ∧ r.1 < 0x110000) then some (Char.ofNat r.1, r.2) else none

/-- The character of an escape, its backslash taken, and the text after it. -/
def escape? : List Char → Option (Char × List Char)
  | 'b' :: rest => some (Char.ofNat 8, rest)
  | 't' :: rest => some ('\t', rest)
  | 'n' :: rest => some ('\n', rest)
  | 'f' :: rest => some (Char.ofNat 12, rest)
  | 'r' :: rest => some ('\r', rest)
  | '"' :: rest => some ('"', rest)
  | '\\' :: rest => some ('\\', rest)
  | 'u' :: rest => (hexNumber? 4 0 rest).bind scalarValue?
  | 'U' :: rest => (hexNumber? 8 0 rest).bind scalarValue?
  | _ => none

/-- A string up to its closing quote, on one line. -/
def lineString (quote : Char) (escapes : Bool) : Nat → List Char → Option (List Char × List Char)
  | 0, _ => none
  | _ + 1, [] => none
  | fuel + 1, c :: rest =>
    if c = quote then some ([], rest)
    else if c = '\\' ∧ escapes then do
      let (x, rest) ← escape? rest
      let (xs, rest) ← lineString quote escapes fuel rest
      pure (x :: xs, rest)
    else if isPlain c then (lineString quote escapes fuel rest).map fun r => (c :: r.1, r.2)
    else none

/-- Whether a character is passed over after a backslash at the end of a line. -/
def isGap (c : Char) : Bool := c == ' ' || c == '\t' || c == '\n' || c == '\r'

/-- The text after a backslash that ends its line: the blanks and lines that follow are left out. -/
def afterLineEnd? (cs : List Char) : Option (List Char) :=
  match cs.dropWhile (fun c => c == ' ' || c == '\t') with
  | '\n' :: rest => some (rest.dropWhile isGap)
  | '\r' :: '\n' :: rest => some (rest.dropWhile isGap)
  | _ => none

/-- A string up to three closing quotes, over several lines. One or two quotes more belong to the
string. -/
def blockString (quote : Char) (escapes : Bool) : Nat → List Char → Option (List Char × List Char)
  | 0, _ => none
  | _ + 1, [] => none
  | fuel + 1, c :: rest =>
    if c = quote then
      let quotes := (c :: rest).takeWhile (· == quote)
      let after := (c :: rest).dropWhile (· == quote)
      if 5 < quotes.length then none
      else if 3 ≤ quotes.length then some (quotes.drop 3, after)
      else (blockString quote escapes fuel after).map fun r => (quotes ++ r.1, r.2)
    else if c = '\\' ∧ escapes then
      match afterLineEnd? rest with
      | some rest => blockString quote escapes fuel rest
      | none => do
        let (x, rest) ← escape? rest
        let (xs, rest) ← blockString quote escapes fuel rest
        pure (x :: xs, rest)
    else if c = '\r' then
      match rest with
      | '\n' :: rest => (blockString quote escapes fuel rest).map fun r => ('\n' :: r.1, r.2)
      | _ => none
    else if c = '\n' ∨ isPlain c then
      (blockString quote escapes fuel rest).map fun r => (c :: r.1, r.2)
    else none

/-- The text without an end of line that it begins with. -/
def withoutNewline : List Char → List Char
  | '\n' :: rest => rest
  | '\r' :: '\n' :: rest => rest
  | cs => cs

/-- A string of one line, its opening quote taken. -/
def lineStringBody (quote : Char) : Reader String := fun cs =>
  (lineString quote (quote == '"') (cs.length + 1) cs).map fun r => (String.ofList r.1, r.2)

/-- A string of any of the four kinds, its opening quote taken. -/
def stringBody (quote : Char) : Reader String := fun cs =>
  match cs with
  | a :: b :: rest =>
    if a = quote ∧ b = quote then
      let rest := withoutNewline rest
      (blockString quote (quote == '"') (rest.length + 1) rest).map fun r => (String.ofList r.1, r.2)
    else lineStringBody quote cs
  | cs => lineStringBody quote cs

/-! ## Keys -/

/-- Whether a character may stand in a key without quotes. -/
def isKeyChar (c : Char) : Bool := c.isAlphanum || c == '-' || c == '_'

/-- A key without dots. -/
def simpleKey : Reader String := do
  if ← accept '"' then lineStringBody '"'
  else if ← accept apostrophe then lineStringBody apostrophe
  else
    match ← takeWhile isKeyChar with
    | [] => refuse
    | cs => pure (String.ofList cs)

/-- The parts of a dotted key after its first one, with the blanks behind the key. -/
def moreKeys : Nat → Reader (List String)
  | 0 => refuse
  | fuel + 1 => do
    blanks
    if ← accept '.' then
      blanks
      let key ← simpleKey
      pure (key :: (← moreKeys fuel))
    else pure []

/-- The parts of a dotted key. -/
def keyPath : Reader (List String) := do
  let key ← simpleKey
  pure (key :: (← moreKeys ((← get).length + 1)))

/-! ## Values -/

/-- Whether a character may stand in a value without quotes and brackets. -/
def isBareChar (c : Char) : Bool :=
  c.isAlphanum || c == '+' || c == '-' || c == '_' || c == '.' || c == ':'

/-- A value without quotes and brackets. One blank may stand between a date and a time. -/
def bare : Reader Value := do
  let cs ← takeWhile isBareChar
  let cs ← (fun rest =>
    match rest with
    | ' ' :: d :: more =>
      if isDate cs ∧ d.isDigit then
        some (cs ++ ' ' :: (d :: more).takeWhile isBareChar, (d :: more).dropWhile isBareChar)
      else some (cs, rest)
    | _ => some (cs, rest) : Reader (List Char))
  match Bare.ofText? cs with
  | some b => pure (.bare b)
  | none => refuse

/-- The items of an array up to its closing bracket. -/
def arrayItems (item : Reader Value) : Nat → Reader (List Value)
  | 0 => refuse
  | fuel + 1 => do
    allGaps
    if ← accept ']' then pure []
    else
      let first ← item
      allGaps
      if ← accept ',' then pure (first :: (← arrayItems item fuel))
      else
        expect ']'
        pure [first]

/-- A pair of a dotted key and a value, the path and the last part of the key apart. -/
def pair (value : Reader Value) : Reader (List String × String × Value) := do
  let keys ← keyPath
  expect '='
  blanks
  let v ← value
  match keys.getLast? with
  | some key => pure (keys.dropLast, key, v)
  | none => refuse

/-- The pairs of an in-line table up to its closing brace, at least one. -/
def inlinePairs (value : Reader Value) : Nat → Reader (List (List String × String × Value))
  | 0 => refuse
  | fuel + 1 => do
    blanks
    let first ← pair value
    blanks
    if ← accept ',' then pure (first :: (← inlinePairs value fuel))
    else
      expect '\x7d'
      pure [first]

/-- A value with at most `depth` nested arrays and in-line tables. -/
def value : Nat → Reader Value
  | 0 => refuse
  | depth + 1 => do
    match ← peek with
    | some '[' =>
      expect '['
      pure (.array (← arrayItems (value depth) (← get).length))
    | some '\x7b' =>
      expect '\x7b'
      blanks
      if ← accept '\x7d' then pure (.table .inline [])
      else
        let pairs ← inlinePairs (value depth) (← get).length
        match inlineEntries? pairs with
        | some entries => pure (.table .inline entries)
        | none => refuse
    | some c =>
      if c = '"' ∨ c = apostrophe then
        expect c
        pure (.string (← stringBody c))
      else bare
    | none => refuse

/-! ## Statements -/

/-- Arrays and in-line tables are read up to this depth. -/
def maxDepth : Nat := 80

/-- The end of a statement: a comment may stand on its line. -/
def lineEnd : Reader Unit := do
  blanks
  comment
  if ← newline then pure ()
  else if (← get).isEmpty then pure ()
  else refuse

/-- A statement. -/
def statement : Reader Statement := do
  if ← accept '[' then
    if ← accept '[' then
      blanks
      let path ← keyPath
      expect ']'
      expect ']'
      pure (.item path)
    else
      blanks
      let path ← keyPath
      expect ']'
      pure (.table path)
  else
    let (path, key, v) ← pair (value maxDepth)
    pure (.pair path key v)

/-- The statements of a document. -/
def statements : Nat → Reader (List Statement)
  | 0 => refuse
  | fuel + 1 => do
    allGaps
    if (← get).isEmpty then pure []
    else
      let first ← statement
      lineEnd
      pure (first :: (← statements fuel))

end Reader

/-- The text without a byte order mark in front. -/
def withoutMark : List Char → List Char
  | [] => []
  | c :: rest => if c.toNat = 0xFEFF then rest else c :: rest

/-- The tables of a document. -/
def parse? (text : String) : Option Entries := do
  let cs := withoutMark text.toList
  let (statements, _) ← Reader.statements (cs.length + 1) cs
  build? statements

end LoopSurvey.Toml
