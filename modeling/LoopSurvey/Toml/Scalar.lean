/-!
# Bare scalars of TOML

The values of TOML that are written without quotes and brackets: integers in four bases, floats,
truth values, and dates with times. Of floats and dates only the form and the range are checked:
no setting is one, so their values are not kept.
-/

namespace LoopSurvey.Toml

/-- A value written without quotes and brackets. -/
inductive Bare
  | integer (value : Int)
  | boolean (value : Bool)
  | float
  | moment
deriving DecidableEq, Repr

/-- Removes the low lines from a run of digits; each must stand between two digits. -/
def ungroup? (isDigit : Char → Bool) : List Char → Option (List Char)
  | [] => none
  | [c] => if isDigit c then some [c] else none
  | c :: '_' :: rest => if isDigit c then (ungroup? isDigit rest).map (c :: ·) else none
  | c :: rest => if isDigit c then (ungroup? isDigit rest).map (c :: ·) else none

/-- The value of a digit of any base up to sixteen. -/
def digitValue? (c : Char) : Option Nat :=
  if c.isDigit then some (c.toNat - 48)
  else if 'a' ≤ c ∧ c ≤ 'f' then some (c.toNat - 87)
  else if 'A' ≤ c ∧ c ≤ 'F' then some (c.toNat - 55)
  else none

/-- The number with the given digits in a base. -/
def inBase? (base : Nat) (text : List Char) : Option Nat := do
  let ds ← ungroup? (fun c => (digitValue? c).any (· < base)) text
  pure (ds.foldl (fun n c => n * base + (digitValue? c).getD 0) 0)

/-- Decimal digits without a zero in front. -/
def decimal? (text : List Char) : Option Nat := do
  if text.head? = some '0' ∧ 1 < text.length then none
  inBase? 10 text

/-- A sign, if there is one, and the text after it. -/
def splitSign : List Char → Bool × List Char
  | '-' :: rest => (true, rest)
  | '+' :: rest => (false, rest)
  | cs => (false, cs)

/-- A number within 64 signed bits. -/
def inRange? (n : Int) : Option Int :=
  if -9223372036854775808 ≤ n ∧ n ≤ 9223372036854775807 then some n else none

/-- An integer. Only decimal ones have a sign. -/
def integer? : List Char → Option Int
  | '0' :: 'x' :: rest => (inBase? 16 rest).bind fun n => inRange? n
  | '0' :: 'o' :: rest => (inBase? 8 rest).bind fun n => inRange? n
  | '0' :: 'b' :: rest => (inBase? 2 rest).bind fun n => inRange? n
  | cs =>
    let (negative, rest) := splitSign cs
    (decimal? rest).bind fun n => inRange? (if negative then -n else n)

/-- The text before the first character with a property, and the text after that character, if there
is one. -/
def cutWhere (p : Char → Bool) (cs : List Char) : List Char × Option (List Char) :=
  match cs.dropWhile (!p ·) with
  | [] => (cs, none)
  | _ :: rest => (cs.takeWhile (!p ·), some rest)

/-- The value of a run of digits, which may begin with zeros, and the number of its digits. -/
def digits? (text : List Char) : Option (Nat × Nat) := do
  let n ← inBase? 10 text
  pure (n, (text.filter Char.isDigit).length)

/-- An exponent with its sign. -/
def exponent? (text : List Char) : Option Int := do
  let (negative, ds) := splitSign text
  let (n, _) ← digits? ds
  pure (if negative then -n else n)

/-- The number that a decimal integer with a fraction, an exponent, or both stands for: a whole
number and the power of ten that it is taken by. -/
def scientific? (unsigned : List Char) : Option (Nat × Int) := do
  let (mantissa, exponent) := cutWhere (fun c => c == 'e' || c == 'E') unsigned
  let (whole, fraction) := cutWhere (· == '.') mantissa
  let n ← decimal? whole
  let power ← match exponent with
    | some text => exponent? text
    | none => some 0
  match fraction with
  | some text => do
    let (m, places) ← digits? text
    pure (n * Nat.pow 10 places + m, power - places)
  | none => if exponent.isSome then some (n, power) else none

/-- Whether a whole number taken by a power of ten is beyond the doubles. -/
def isBeyondDoubles (n : Nat) (power : Int) : Bool :=
  let magnitude := (Nat.repr n).length + power
  n ≠ 0 && 308 < magnitude &&
    (309 < magnitude ||
      (Nat.pow 2 1024 - Nat.pow 2 970) * Nat.pow 10 (-power).toNat ≤ n * Nat.pow 10 power.toNat)

/-- Whether a text is a float. One beyond the doubles is none, unless it is negative. -/
def isFloat (cs : List Char) : Bool :=
  let (negative, unsigned) := splitSign cs
  unsigned = "inf".toList || unsigned = "nan".toList ||
    (scientific? unsigned).any fun x => negative || !isBeyondDoubles x.1 x.2

/-- The numbers written with exactly the given widths, separated by a character. -/
def fixedNumbers? (separator : Char) : List Nat → List Char → Option (List Nat)
  | [], [] => some []
  | [], _ :: _ => none
  | width :: widths, cs =>
    let ds := cs.take width
    let n := ds.foldl (fun n c => n * 10 + (c.toNat - 48)) 0
    if ds.length = width ∧ ds.all Char.isDigit then
      match widths, cs.drop width with
      | [], [] => some [n]
      | _ :: _, c :: rest =>
        if c = separator then (fixedNumbers? separator widths rest).map (n :: ·) else none
      | _, _ => none
    else none

/-- The number of days of a month. -/
def daysIn (year month : Nat) : Nat :=
  if month = 2 then
    if year % 4 = 0 ∧ (year % 100 ≠ 0 ∨ year % 400 = 0) then 29 else 28
  else if month = 4 ∨ month = 6 ∨ month = 9 ∨ month = 11 then 30
  else 31

/-- Whether a text is a date of the calendar. -/
def isDate (cs : List Char) : Bool :=
  match fixedNumbers? '-' [4, 2, 2] cs with
  | some [year, month, day] =>
    1 ≤ month && month ≤ 12 && 1 ≤ day && day ≤ daysIn year month
  | _ => false

/-- Whether a text is a time of the day; seconds may have a fraction. -/
def isTime (cs : List Char) : Bool :=
  let (clock, fraction) := cutWhere (· == '.') cs
  fraction.all (fun ds => !ds.isEmpty && ds.all Char.isDigit) &&
    match fixedNumbers? ':' [2, 2, 2] clock with
    | some [hour, minute, second] => hour < 24 && minute < 60 && second ≤ 60
    | _ => false

/-- Whether a text is a difference from universal time. -/
def isOffset (cs : List Char) : Bool :=
  match fixedNumbers? ':' [2, 2] cs with
  | some [hour, minute] => hour < 24 && minute < 60
  | _ => false

/-- Whether a text is a time with or without a difference from universal time. -/
def isZonedTime (cs : List Char) : Bool :=
  match cs.getLast? with
  | some 'Z' | some 'z' => isTime cs.dropLast
  | _ =>
    match cutWhere (fun c => c == '+' || c == '-') cs with
    | (time, some offset) => isTime time && isOffset offset
    | (time, none) => isTime time

/-- Whether a text is a date, a time, or both. -/
def isMoment (cs : List Char) : Bool :=
  isDate cs || isTime cs ||
    match cutWhere (fun c => c == 'T' || c == 't' || c == ' ') cs with
    | (date, some time) => isDate date && isZonedTime time
    | (_, none) => false

/-- The value that a text without quotes and brackets stands for. -/
def Bare.ofText? (cs : List Char) : Option Bare :=
  if cs = "true".toList then some (.boolean true)
  else if cs = "false".toList then some (.boolean false)
  else
    match integer? cs with
    | some n => some (.integer n)
    | none => if isFloat cs then some .float else if isMoment cs then some .moment else none

end LoopSurvey.Toml
