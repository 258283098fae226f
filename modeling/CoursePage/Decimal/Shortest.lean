/-!
The shortest decimal digits of a binary fraction. Among the decimals that round to the same
fraction the one with the fewest digits is taken, and of two of these the nearer. A rule decides
between two that are equally near.
-/

namespace CoursePage.Decimal

/-- A positive binary fraction `mantissa * 2 ^ exponent` in a format whose neighbours lie one
mantissa step away, the lower one half a step where `tightBelow` holds. -/
structure Fraction where
  mantissa : Nat
  exponent : Int
  tightBelow : Bool
  deriving DecidableEq, Repr

/-- `digits * 10 ^ exponent`. -/
structure Digits where
  digits : Nat
  exponent : Int
  deriving DecidableEq, Repr

/-- Which of two neighbours on a decimal grid is taken halfway between them. -/
inductive Tie where
  | even
  | upper
  deriving DecidableEq, Repr

/-- Halfway between `n` and `n + 1` the upper one is taken. -/
def Tie.takesUpper : Tie → Nat → Bool
  | .even, n => n % 2 == 1
  | .upper, _ => true

namespace Fraction

/-- The fraction and the bounds of what rounds to it, over one denominator. -/
structure Interval where
  low : Nat
  value : Nat
  high : Nat
  denominator : Nat
  closed : Bool

def interval (f : Fraction) : Interval :=
  let up := Nat.pow 2 f.exponent.toNat
  let down := 4 * Nat.pow 2 (-f.exponent).toNat
  { low := (4 * f.mantissa - if f.tightBelow then 1 else 2) * up
    value := 4 * f.mantissa * up
    high := (4 * f.mantissa + 2) * up
    denominator := down
    closed := f.mantissa % 2 == 0 }

/-- `n * 10 ^ e`, compared over the denominator of the interval, lies inside. -/
def Interval.holds (r : Interval) (n : Nat) (e : Int) : Bool :=
  let scaled := n * r.denominator * Nat.pow 10 e.toNat
  let one := Nat.pow 10 (-e).toNat
  if r.closed then r.low * one ≤ scaled && scaled ≤ r.high * one
  else r.low * one < scaled && scaled < r.high * one

/-- How far `n * 10 ^ e` is from the value, in units that depend on `e` alone. -/
def Interval.distance (r : Interval) (n : Nat) (e : Int) : Nat :=
  let scaled := n * r.denominator * Nat.pow 10 e.toNat
  let value := r.value * Nat.pow 10 (-e).toNat
  if scaled ≤ value then value - scaled else scaled - value

/-- The value in whole units of `10 ^ e`. -/
def Interval.floorAt (r : Interval) (e : Int) : Nat :=
  r.value * Nat.pow 10 (-e).toNat / (r.denominator * Nat.pow 10 e.toNat)

/-- The nearer of `n` and `n + 1` in units of `10 ^ e`. -/
def Interval.nearer (r : Interval) (tie : Tie) (n : Nat) (e : Int) : Nat :=
  let below := r.distance n e
  let above := r.distance (n + 1) e
  if above < below || (above == below && tie.takesUpper n) then n + 1 else n

/-- Tries ever finer decimal grids, starting with units of `10 ^ e`. -/
def Interval.search (r : Interval) (tie : Tie) : Nat → Int → Digits
  | 0, e => ⟨r.floorAt e, e⟩
  | fuel + 1, e =>
    let n := r.floorAt e
    match n != 0 && r.holds n e, r.holds (n + 1) e with
    | true, true => ⟨r.nearer tie n e, e⟩
    | true, false => ⟨n, e⟩
    | false, true => ⟨n + 1, e⟩
    | false, false => r.search tie fuel (e - 1)

/-- Drops trailing zeros. -/
def strip : Nat → Digits → Digits
  | 0, d => d
  | fuel + 1, d =>
    if d.digits != 0 && d.digits % 10 == 0 then strip fuel ⟨d.digits / 10, d.exponent + 1⟩ else d

/-- Units of `10 ^ 310` are too coarse for every double, those of `10 ^ (-350)` fine enough. -/
def shortest (f : Fraction) (tie : Tie) : Digits := strip 400 (f.interval.search tie 660 310)

end Fraction

end CoursePage.Decimal
