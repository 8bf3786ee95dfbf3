import LoopSurvey.Json.Number
/-!
# Reading JSON text

Readers take a text from its front. The grammar is strict: no comments, no trailing commas, no
leading zeros, and at most as many nested arrays and objects as the reader is given. A reader for a
certain shape stops at the first place where the text is no JSON (`malformed`) or is JSON of another
shape (`misshapen`), whichever comes first.
-/

namespace LoopSurvey.Json

/-- Why a text was refused. -/
inductive Fault
  /-- The text is no JSON. -/
  | malformed
  /-- The text is JSON of another shape than asked for. -/
  | misshapen
deriving DecidableEq, Repr

/-- Takes a value from the front of a text. -/
abbrev Reader (α : Type) := StateT (List Char) (Except Fault) α

namespace Reader

/-- Refuses the text. -/
def refuse (f : Fault) : Reader α := fun _ => .error f

/-- The next character, left in place. -/
def peek : Reader (Option Char) := fun cs => .ok (cs.head?, cs)

/-- The white space of the format. -/
def isSpace (c : Char) : Bool := c == ' ' || c == '\n' || c == '\t' || c == '\r'

/-- Passes over white space. -/
def blanks : Reader Unit := fun cs => .ok ((), cs.dropWhile isSpace)

/-- Takes a character if it comes next, and tells whether it did. -/
def accept (c : Char) : Reader Bool := fun cs =>
  match cs with
  | d :: rest => if d = c then .ok (true, rest) else .ok (false, cs)
  | [] => .ok (false, [])

/-- Takes a character that has to come next. -/
def expect (c : Char) : Reader Unit := do
  if ← accept c then pure () else refuse .malformed

/-- Takes the characters of a word. -/
def word : List Char → Reader Unit
  | [] => pure ()
  | c :: rest => do expect c; word rest

/-- Nothing but white space may follow. -/
def finish : Reader Unit := fun cs =>
  match cs.dropWhile isSpace with
  | [] => .ok ((), [])
  | _ => .error .malformed

/-! ## Numbers -/

/-- The digits that come next. -/
def digits : Reader (List Char) := fun cs =>
  .ok (cs.takeWhile Char.isDigit, cs.dropWhile Char.isDigit)

/-- The digits that come next, at least one. -/
def someDigits : Reader (List Char) := do
  let ds ← digits
  if ds.isEmpty then refuse .malformed else pure ds

/-- The mark that begins an exponent, in either case. -/
def exponentMark : Reader Bool := do
  if ← accept 'e' then pure true else accept 'E'

/-- The exponent of a number, if there is one. -/
def exponent : Reader (Option Int) := do
  if ← exponentMark then
    if ← accept '-' then pure (some (-(digitsValue (← someDigits) : Int)))
    else
      let _ ← accept '+'
      pure (some (digitsValue (← someDigits)))
  else pure none

/-- A number as it is written. -/
def numeral : Reader Numeral := do
  let negative ← accept '-'
  let whole ← someDigits
  if whole.head? = some '0' ∧ 1 < whole.length then refuse .malformed
  let fraction ← if ← accept '.' then someDigits else pure []
  pure ⟨negative, whole, fraction, ← exponent⟩

/-- A number. -/
def number : Reader Json := do
  match (← numeral).value? with
  | some n => pure n
  | none => refuse .malformed

/-! ## Strings -/

/-- The value of a hexadecimal digit. -/
def hexDigit? (c : Char) : Option Nat :=
  if c.isDigit then some (c.toNat - 48)
  else if 'a' ≤ c ∧ c ≤ 'f' then some (c.toNat - 87)
  else if 'A' ≤ c ∧ c ≤ 'F' then some (c.toNat - 55)
  else none

/-- The value of four hexadecimal digits and the text after them. -/
def fourHex? : List Char → Option (Nat × List Char)
  | a :: b :: c :: d :: rest => do
    let a ← hexDigit? a
    let b ← hexDigit? b
    let c ← hexDigit? c
    let d ← hexDigit? d
    pure (((a * 16 + b) * 16 + c) * 16 + d, rest)
  | _ => none

/-- The character that a letter after a backslash stands for. -/
def shortEscape? (c : Char) : Option Char :=
  match c with
  | '"' => some '"'
  | '\\' => some '\\'
  | '/' => some '/'
  | 'b' => some (Char.ofNat 8)
  | 'f' => some (Char.ofNat 12)
  | 'n' => some '\n'
  | 'r' => some '\r'
  | 't' => some '\t'
  | _ => none

/-- The character of a UTF-16 escape, its four digits read. A high surrogate needs a low one after
it, and a low one needs a high one before it. -/
def ofUnits? (unit : Nat) (rest : List Char) : Option (Char × List Char) :=
  if 0xDC00 ≤ unit ∧ unit ≤ 0xDFFF then none
  else if 0xD800 ≤ unit ∧ unit ≤ 0xDBFF then
    match rest with
    | '\\' :: 'u' :: rest =>
      match fourHex? rest with
      | some (low, rest) =>
        if 0xDC00 ≤ low ∧ low ≤ 0xDFFF then
          some (Char.ofNat (0x10000 + (unit - 0xD800) * 1024 + (low - 0xDC00)), rest)
        else none
      | none => none
    | _ => none
  else some (Char.ofNat unit, rest)

/-- The next character of a string and the text after it. With `paired` unset, surrogates may stand
alone. -/
def character? (paired : Bool) : List Char → Option (Char × List Char)
  | '\\' :: 'u' :: rest => do
    let (unit, rest) ← fourHex? rest
    if paired then ofUnits? unit rest else pure (Char.ofNat unit, rest)
  | '\\' :: c :: rest => (shortEscape? c).map (·, rest)
  | c :: rest => if c = '\\' ∨ c.toNat < 32 then none else some (c, rest)
  | [] => none

/-- The characters of a string up to its closing quote. -/
def stringBody (paired : Bool) : Nat → List Char → Except Fault (List Char × List Char)
  | 0, _ => .error .malformed
  | _ + 1, '"' :: rest => .ok ([], rest)
  | fuel + 1, cs =>
    match character? paired cs with
    | none => .error .malformed
    | some (c, rest) => (stringBody paired fuel rest).map fun r => (c :: r.1, r.2)

/-- A string, its opening quote already taken. -/
def afterQuote (paired : Bool) : Reader String := fun cs =>
  (stringBody paired (cs.length + 1) cs).map fun r => (String.ofList r.1, r.2)

/-! ## Arrays and objects -/

/-- Takes items, separated by commas, up to a closing bracket, at least one. Each item changes the
result of those before it. -/
def foldSome (close : Char) (item : σ → Reader σ) : Nat → σ → Reader σ
  | 0, _ => refuse .malformed
  | fuel + 1, result => do
    let result ← item result
    blanks
    if ← accept ',' then foldSome close item fuel result
    else
      expect close
      pure result

/-- Takes items, separated by commas, up to a closing bracket. -/
def foldItems (close : Char) (item : σ → Reader σ) (start : σ) : Reader σ := do
  blanks
  if ← accept close then pure start
  else foldSome close item (← get).length start

/-- The items of an array, its opening bracket already taken. -/
def items (item : Reader α) : Reader (List α) := do
  let reversed ← foldItems ']' (fun xs => do pure ((← item) :: xs)) []
  pure reversed.reverse

/-- The key of a member. -/
def key : Reader String := do
  blanks
  expect '"'
  afterQuote true

/-- The colon between a key and its value. -/
def colon : Reader Unit := do
  blanks
  expect ':'

/-- How numbers and strings inside a value are read. -/
structure Scalars where
  number : Reader Json
  string : Reader String

/-- A value with at most `depth` nested arrays and objects. -/
def valueWith (scalars : Scalars) (depth : Nat) : Reader Json := do
  blanks
  match ← peek with
  | some 'n' => word "null".toList; pure .null
  | some 't' => word "true".toList; pure (.bool true)
  | some 'f' => word "false".toList; pure (.bool false)
  | some '"' => expect '"'; pure (.str (← scalars.string))
  | some '[' =>
    match depth with
    | 0 => refuse .malformed
    | inner + 1 =>
      expect '['
      pure (.arr (← items (valueWith scalars inner)))
  | some '\x7b' =>
    match depth with
    | 0 => refuse .malformed
    | inner + 1 =>
      expect '\x7b'
      let reversed ← foldItems '\x7d' (fun ms => do
        blanks
        expect '"'
        let name ← scalars.string
        colon
        pure ((name, ← valueWith scalars inner) :: ms)) []
      pure (.obj reversed.reverse)
  | some c => if c = '-' ∨ c.isDigit then scalars.number else refuse .malformed
  | none => refuse .malformed
termination_by structural depth

/-- A value whose numbers are in range and whose surrogates are paired. -/
def value (depth : Nat) : Reader Json :=
  valueWith ⟨number, afterQuote true⟩ depth

/-- A value that nobody looks at: only its grammar counts, and it may be nested to any depth. -/
def ignored : Reader Unit := do
  let _ ← valueWith ⟨do let _ ← numeral; pure .null, afterQuote false⟩ (← get).length

/-! ## Shapes -/

/-- Refuses the value that comes next for its shape, or for its text if that is no JSON. -/
def wrongShape : Reader α := do
  match ← peek with
  | some '[' => refuse .misshapen
  | some '\x7b' => refuse .misshapen
  | _ =>
    let _ ← value 0
    refuse .misshapen

/-- A string. -/
def string : Reader String := do
  blanks
  if ← accept '"' then afterQuote true else wrongShape

/-- A whole number from 0 to `max`. -/
def unsigned (max : Nat) : Reader Nat := do
  blanks
  match ← peek with
  | some c =>
    if c = '-' ∨ c.isDigit then
      match ← number with
      | .int n => if 0 ≤ n ∧ n ≤ max then pure n.toNat else refuse .misshapen
      | _ => refuse .misshapen
    else wrongShape
  | none => wrongShape

/-- A value or null. -/
def optional (reader : Reader α) : Reader (Option α) := do
  blanks
  if (← peek) = some 'n' then
    word "null".toList
    pure none
  else some <$> reader

/-- An array of values of one shape. -/
def list (item : Reader α) : Reader (List α) := do
  blanks
  if ← accept '[' then items item else wrongShape

/-- An object, taken member by member: once its key is known, a member is refused or says how its
value changes the result. -/
def record (member : String → σ → Except Fault (Reader σ)) (start : σ) : Reader σ := do
  blanks
  if ← accept '\x7b' then
    foldItems '\x7d' (fun result => do
      match member (← key) result with
      | .error f => refuse f
      | .ok reader => colon; reader) start
  else wrongShape

/-- Reads a field that has not been there before, and puts it into the result. -/
def once (known : Option α) (reader : Reader α) (set : α → σ) : Except Fault (Reader σ) :=
  if known.isSome then .error .misshapen else .ok (set <$> reader)

/-- Takes the values of the named fields, in this order, up to a closing bracket. Fields may be missing at
the end; after the last one nothing may follow. -/
def valuesOf (member : String → σ → Except Fault (Reader σ)) (first : Bool) : List String → σ → Reader σ
  | [], result => do
    blanks
    expect ']'
    pure result
  | field :: fields, result => do
    blanks
    if ← accept ']' then pure result
    else
      if !first then expect ','
      match member field result with
      | .error f => refuse f
      | .ok reader => valuesOf member false fields (← reader)

/-- The fields of an object, or of an array with their values in order. -/
def fields (names : List String) (member : String → σ → Except Fault (Reader σ)) (start : σ) : Reader σ := do
  blanks
  if ← accept '[' then valuesOf member true names start else record member start

/-- Reads the fields of an object or an array, which must be complete in the end. -/
def complete (names : List String) (member : String → σ → Except Fault (Reader σ)) (start : σ)
    (finished : σ → Option α) : Reader α := do
  match finished (← fields names member start) with
  | some x => pure x
  | none => refuse .misshapen

/-- Reads a whole text. -/
def run (reader : Reader α) (text : String) : Except Fault α :=
  (StateT.run' (do let x ← reader; finish; pure x) text.toList)

end Reader

/-- Nested arrays and objects are read up to this depth. -/
def maxDepth : Nat := 127

end LoopSurvey.Json
