/-!
# Shortest decimals of floating-point numbers

A finite double is `m * 2 ^ q`. Among the decimals that are nearer to it than to any other double,
the shortest are those with the fewest digits, and of these the one nearest to the number is taken.
All of it is exact arithmetic on natural numbers.
-/

namespace LoopSurvey.Decimal

/-- The magnitude of a finite double: `mantissa * 2 ^ exponent`, with `narrow` set where the next
smaller double is only half as far away as the next larger one. -/
structure Binary where
  mantissa : Nat
  exponent : Int
  narrow : Bool

/-- A positive decimal `digits * 10 ^ exponent`. -/
structure Scientific where
  digits : Nat
  exponent : Int
deriving DecidableEq, Repr

/-- The sign bit, the biased exponent and the fraction of a double. -/
def fieldsOf (x : Float) : Bool × Nat × Nat :=
  let bits := x.toBits.toNat
  (bits / Nat.pow 2 63 = 1, bits / Nat.pow 2 52 % 2048, bits % Nat.pow 2 52)

/-- The magnitude with a biased exponent and a fraction; denormal numbers have biased exponent 0. -/
def Binary.ofFields (biased fraction : Nat) : Binary :=
  if biased = 0 then ⟨fraction, -1074, false⟩
  else ⟨Nat.pow 2 52 + fraction, biased - 1075, fraction = 0 ∧ 1 < biased⟩

/-- Numerators over a common denominator: the number itself and the two ends of the interval of
reals nearest to it. -/
structure Rounding where
  value : Nat
  low : Nat
  high : Nat
  den : Nat
  closed : Bool

/-- The rounding interval of a number. Its ends lie half way to the neighbours and belong to it
when the mantissa is even. -/
def Binary.rounding (b : Binary) : Rounding :=
  let down := if b.narrow then 1 else 2
  let q := b.exponent - 2
  let scale := Nat.pow 2 q.toNat
  { value := 4 * b.mantissa * scale
    low := (4 * b.mantissa - down) * scale
    high := (4 * b.mantissa + 2) * scale
    den := Nat.pow 2 (-q).toNat
    closed := b.mantissa % 2 = 0 }

/-- Whether the decimal `n * 10 ^ e` lies in the interval. -/
def Rounding.contains (r : Rounding) (n : Nat) (e : Int) : Bool :=
  let x := n * Nat.pow 10 e.toNat * r.den
  let unit := Nat.pow 10 (-e).toNat
  if r.closed then r.low * unit ≤ x && x ≤ r.high * unit
  else r.low * unit < x && x < r.high * unit

/-- The decimals next below and next above the number on the grid `10 ^ e`, as multiples of it. -/
def Rounding.neighbours (r : Rounding) (e : Int) : Nat × Nat :=
  let n := r.value * Nat.pow 10 (-e).toNat / (r.den * Nat.pow 10 e.toNat)
  (n, n + 1)

/-- Which of two equally near decimals is taken. -/
inductive Tie
  | up
  | even

/-- Of the two neighbours on the grid `10 ^ e`, the one that is nearer to the number. -/
def Rounding.nearer (r : Rounding) (tie : Tie) (e : Int) : Nat :=
  let (n, n') := r.neighbours e
  let x := 2 * r.value * Nat.pow 10 (-e).toNat
  let middle := (2 * n + 1) * r.den * Nat.pow 10 e.toNat
  if x < middle then n
  else if middle < x then n'
  else match tie with
    | .up => n'
    | .even => if n % 2 = 0 then n else n'

/-- The point of the grid `10 ^ e` that stands for the number, if one lies in the interval. -/
def Rounding.onGrid? (r : Rounding) (tie : Tie) (e : Int) : Option Nat :=
  let (n, n') := r.neighbours e
  match r.contains n e, r.contains n' e with
  | true, true => some (r.nearer tie e)
  | true, false => some n
  | false, true => some n'
  | false, false => none

/-- The least `k` with the number below `10 ^ k`, looked for upwards from `start`. -/
def Rounding.magnitudeFrom (r : Rounding) (start : Int) : Nat → Int
  | 0 => start
  | fuel + 1 =>
    if r.value * Nat.pow 10 (-start).toNat < r.den * Nat.pow 10 start.toNat then start
    else r.magnitudeFrom (start + 1) fuel

/-- The first grid with a point in the interval, from the coarsest that can hold one to finer ones. -/
def Rounding.search (r : Rounding) (tie : Tie) (e : Int) : Nat → Scientific
  | 0 => ⟨r.value / r.den, 0⟩
  | fuel + 1 =>
    match r.onGrid? tie e with
    | some n => ⟨n, e⟩
    | none => r.search tie (e - 1) fuel

/-- Moves the zeros at the end of the digits into the exponent. -/
def Scientific.strip (s : Scientific) : Nat → Scientific
  | 0 => s
  | fuel + 1 => if s.digits % 10 = 0 then Scientific.strip ⟨s.digits / 10, s.exponent + 1⟩ fuel else s

/-- The shortest decimal of a positive magnitude. Seventeen digits always suffice. -/
def Binary.shortest (b : Binary) (tie : Tie) : Scientific :=
  let r := b.rounding
  let k := r.magnitudeFrom (-330) 660
  (r.search tie (k - 1) 18).strip 20

/-- The decimal digits of a number, most significant first. -/
def digitsOf (n : Nat) : List Char := (Nat.repr n).toList

/-- Positional notation: no exponent, and no point where there is no fraction. -/
def Scientific.positional (s : Scientific) : List Char :=
  let ds := digitsOf s.digits
  if 0 ≤ s.exponent then ds ++ List.replicate s.exponent.toNat '0'
  else
    let places := (-s.exponent).toNat
    if ds.length ≤ places then '0' :: '.' :: List.replicate (places - ds.length) '0' ++ ds
    else ds.take (ds.length - places) ++ '.' :: ds.drop (ds.length - places)

/-- Scientific notation from the exponents `-6` down and `16` up, and positional notation between
them, where a point and a zero follow a whole number. -/
def Scientific.compact (s : Scientific) : List Char :=
  let ds := digitsOf s.digits
  let point := ds.length + s.exponent
  if 0 ≤ s.exponent ∧ point ≤ 16 then s.positional ++ ['.', '0']
  else if -5 < point ∧ point ≤ 16 then s.positional
  else
    let exponent := 'e' :: (toString (point - 1)).toList
    match ds with
    | [d] => d :: exponent
    | d :: rest => d :: '.' :: rest ++ exponent
    | [] => exponent

/-- A sign and the text of the magnitude, with a text of its own for zero. -/
def write (zero : String) (layout : Scientific → List Char) (tie : Tie) (x : Float) : String :=
  let (negative, biased, fraction) := fieldsOf x
  let magnitude :=
    if biased = 2047 then (if fraction = 0 then "inf".toList else "NaN".toList)
    else if biased = 0 ∧ fraction = 0 then zero.toList
    else layout ((Binary.ofFields biased fraction).shortest tie)
  String.ofList (if negative then '-' :: magnitude else magnitude)

/-- Metrics and numeric identifiers are written without exponent; whole numbers have no point. -/
def plain (x : Float) : String :=
  write "0" Scientific.positional .up x

/-- Numbers inside JSON text always show that they are no integers: by a point or by an exponent. -/
def inJson (x : Float) : String :=
  write "0.0" Scientific.compact .even x

end LoopSurvey.Decimal
