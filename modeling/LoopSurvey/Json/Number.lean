import LoopSurvey.Json.Value
/-!
# JSON numbers

A number without fraction and exponent is whole as long as it fits 64 bits, signed or unsigned; any
other number is a double. Its digits go into a 64-bit significand as long as they fit; the ones that
do not only move the decimal point. The double is the significand times or divided by one power of
ten, and a number beyond the doubles is refused.
-/

namespace LoopSurvey.Json

/-- Whole numbers are read up to this one, which has 64 bits, and no significand is greater. -/
def maxUnsigned : Nat := 18446744073709551615

/-- The value of a decimal digit. -/
def digitValue (c : Char) : Nat := c.toNat - '0'.toNat

/-- Takes digits into a significand as long as it fits, and returns the digits left over. -/
def absorb (significand : Nat) : List Char → Nat × List Char
  | [] => (significand, [])
  | c :: rest =>
    let next := significand * 10 + digitValue c
    if next ≤ maxUnsigned then absorb next rest else (significand, c :: rest)

/-- The number that a run of digits stands for. -/
def digitsValue (ds : List Char) : Nat :=
  ds.foldl (fun n c => n * 10 + digitValue c) 0

/-- The power of ten with an exponent up to 308. -/
def tenTo (e : Nat) : Float := Float.ofScientific 1 false e

/-- Divides by ten to the `n`, at most 308 places at a time. -/
def shrink (x : Float) (n : Nat) : Float :=
  if n ≤ 308 then x / tenTo n
  else if x == 0.0 then x
  else shrink (x / tenTo 308) (n - 308)
termination_by n

/-- A significand times a power of ten, unless it is beyond the doubles. -/
def scale? (significand : Nat) (e : Int) : Option Float :=
  let x := (UInt64.ofNat significand).toFloat
  if e < 0 then some (shrink x (-e).toNat)
  else if e ≤ 308 then
    let y := x * tenTo e.toNat
    if y.isInf then none else some y
  else if x == 0.0 then some x
  else none

/-- A number as it is written: sign, digits before and after the point, exponent. -/
structure Numeral where
  negative : Bool
  whole : List Char
  fraction : List Char
  exponent : Option Int

/-- The value of a number that is written without point and exponent. -/
def Numeral.ofWhole? (negative : Bool) (whole : List Char) : Option Json :=
  match absorb 0 whole with
  | (n, []) =>
    if !negative then some (.int n)
    else if 0 < n ∧ n ≤ 9223372036854775808 then some (.int (-n))
    else some (.float (-(UInt64.ofNat n).toFloat))
  | (n, dropped) => (scale? n dropped.length).map fun x => .float (if negative then -x else x)

/-- The value of a number; none if it is beyond the doubles. -/
def Numeral.value? (t : Numeral) : Option Json :=
  if t.fraction.isEmpty ∧ t.exponent.isNone then Numeral.ofWhole? t.negative t.whole
  else
    let (n, droppedWhole) := absorb 0 t.whole
    let (m, droppedFraction) := absorb n t.fraction
    let places : Int := droppedWhole.length - (t.fraction.length - droppedFraction.length : Nat)
    (scale? m (places + t.exponent.getD 0)).map fun x => .float (if t.negative then -x else x)

/-- A whole number as a double. -/
def intToFloat (n : Int) : Float :=
  if n < 0 then -(UInt64.ofNat n.natAbs).toFloat else (UInt64.ofNat n.natAbs).toFloat

end LoopSurvey.Json
