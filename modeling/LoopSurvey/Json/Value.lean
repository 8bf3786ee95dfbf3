import LoopSurvey.Decimal.Shortest
/-!
# JSON values and their compact text

A JSON value keeps whole numbers apart from floating-point ones and keeps the members of an object
in the order of the text, repeated keys included. The compact text has no spaces; it sorts the
members of an object by key and writes the last of those that share one.
-/

namespace LoopSurvey

/-- A JSON value. -/
inductive Json
  | null
  | bool (value : Bool)
  | int (value : Int)
  | float (value : Float)
  | str (value : String)
  | arr (items : List Json)
  | obj (members : List (String × Json))

namespace Json

/-- The lower-case hexadecimal digit of a value below 16. -/
def hexDigit (n : Nat) : Char :=
  if n < 10 then Char.ofNat (48 + n) else Char.ofNat (87 + n)

/-- A character inside a string: quotes, backslashes and control characters are escaped. -/
def escapeChar (c : Char) : List Char :=
  if c = '"' then ['\\', '"']
  else if c = '\\' then ['\\', '\\']
  else if c = '\n' then ['\\', 'n']
  else if c = '\r' then ['\\', 'r']
  else if c = '\t' then ['\\', 't']
  else if c.toNat = 8 then ['\\', 'b']
  else if c.toNat = 12 then ['\\', 'f']
  else if c.toNat < 32 then ['\\', 'u', '0', '0', hexDigit (c.toNat / 16), hexDigit (c.toNat % 16)]
  else [c]

/-- A text as a JSON string. -/
def quote (s : String) : String :=
  String.ofList ('"' :: s.toList.flatMap escapeChar ++ ['"'])

/-- An object from its keys and the texts of their values, in this order. -/
def objectText (members : List (String × String)) : String :=
  "\x7b" ++ String.intercalate "," (members.map fun m => quote m.1 ++ ":" ++ m.2) ++ "\x7d"

/-- An array from the texts of its items. -/
def arrayText (items : List String) : String :=
  "[" ++ String.intercalate "," items ++ "]"

/-- Puts a member into a list sorted by key, in place of one with the same key. -/
def insertSorted (key : String) (value : α) : List (String × α) → List (String × α)
  | [] => [(key, value)]
  | (k, v) :: rest =>
    if key < k then (key, value) :: (k, v) :: rest
    else if key = k then (key, value) :: rest
    else (k, v) :: insertSorted key value rest

/-- The members sorted by key, the last one of each key. -/
def sortMembers (members : List (String × α)) : List (String × α) :=
  members.foldl (fun sorted m => insertSorted m.1 m.2 sorted) []

mutual

/-- The compact text of a value. -/
def compact : Json → String
  | .null => "null"
  | .bool b => if b then "true" else "false"
  | .int n => toString n
  | .float x => Decimal.inJson x
  | .str s => quote s
  | .arr items => arrayText (compactItems items)
  | .obj members => objectText (sortMembers (compactMembers members))

/-- The compact texts of the items of an array. -/
def compactItems : List Json → List String
  | [] => []
  | item :: rest => compact item :: compactItems rest

/-- The compact texts of the values of an object, with their keys. -/
def compactMembers : List (String × Json) → List (String × String)
  | [] => []
  | (key, value) :: rest => (key, compact value) :: compactMembers rest

end

/-- The members of which no later one has the same key. -/
def lastOfEach [DecidableEq κ] : List (κ × α) → List (κ × α)
  | [] => []
  | m :: rest => if rest.any (·.1 = m.1) then lastOfEach rest else m :: lastOfEach rest

end Json

end LoopSurvey
