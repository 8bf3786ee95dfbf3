import LoopSurvey.Json.Number
import LoopSurvey.Text.Blank
/-!
# Scalars

Identifiers, paths and line numbers come as numbers or as texts; a scalar is either. Written as a
text, a whole number and its decimal text are the same.
-/

namespace LoopSurvey

/-- A number or a text. -/
inductive Scalar
  | int (value : Int)
  | float (value : Float)
  | text (value : String)

/-- Line numbers and counts are at most this one, which has 32 bits. -/
def maxCount : Nat := 4294967295

/-- The number that a text begins with, after blanks: its digits, if there are any and their number
is no more than `maxCount`. -/
def leadingNumber? (s : String) : Option Nat :=
  match (s.toList.dropWhile Text.isBlank).takeWhile Char.isDigit with
  | [] => none
  | ds => if Json.digitsValue ds ≤ maxCount then some (Json.digitsValue ds) else none

namespace Scalar

/-- The scalar that a JSON value is, if it is one. Whole numbers beyond 64 signed bits become
floating-point ones. -/
def ofJson? : Json → Option Scalar
  | .int n =>
    if -9223372036854775808 ≤ n ∧ n ≤ 9223372036854775807 then some (int n)
    else some (float (Json.intToFloat n))
  | .float x => some (float x)
  | .str s => some (text s)
  | _ => none

/-- The scalar as a text. -/
def toText : Scalar → String
  | int n => toString n
  | float x => Decimal.plain x
  | text s => s

/-- The scalar as a line number. Fractions are cut off, and numbers beyond `maxCount` are no lines
unless they are floating-point ones, which saturate. -/
def line? : Scalar → Option Nat
  | int n => if 0 ≤ n ∧ n ≤ maxCount then some n.toNat else none
  | float x => if 0.0 ≤ x then some x.toUInt32.toNat else none
  | text s => leadingNumber? s

end Scalar

end LoopSurvey
