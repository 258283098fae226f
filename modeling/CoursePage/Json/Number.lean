import CoursePage.Decimal.Double
import CoursePage.Json.Cursor

/-!
Numbers in JSON, which settings never want: a number is read to say what stands in the wrong
place, or it is skipped.
-/

namespace CoursePage.Json

def isDigit (b : UInt8) : Bool := 48 ≤ b && b ≤ 57

def digitsHere : Read (List Nat) := do
  return ((← get).rest.takeWhile isDigit).map fun b => b.toNat - 48

/-- The next byte, or the character of number zero at the end. -/
def peekOrNull : Read Char := do return (← peek?).getD '\x00'

/-- Skips the digits of an exponent and all before them. -/
def skipExponent : Read Unit := do
  skip
  let c ← peekOrNull
  if c == '+' || c == '-' then skip
  match ← next? with
  | some d => if d.isDigit then skipWhile isDigit else failHere .badNumber
  | none => failHere .badNumber

def skipPlaces : Read Unit := do
  skip
  if (← digitsHere).isEmpty then failNext .badNumber
  skipWhile isDigit
  let c ← peekOrNull
  if c == 'e' || c == 'E' then skipExponent

/-- Skips a number behind its sign. -/
def skipNumber : Read Unit := do
  match ← next? with
  | some '0' =>
    if (← peekOrNull).isDigit then failNext .badNumber
  | some c => if c.isDigit then skipWhile isDigit else failHere .badNumber
  | none => failHere .badNumber
  let c ← peekOrNull
  if c == '.' then skipPlaces
  else if c == 'e' || c == 'E' then skipExponent

/-- The greatest 64-bit number. -/
def wordLimit : Nat := 18446744073709551615

/-- Takes digits for as long as the number they form fits a word; returns the number, how many
digits were taken and how many were left. -/
def takeDigits : Nat → List Nat → Nat × Nat × Nat
  | n, [] => (n, 0, 0)
  | n, d :: ds =>
    if 10 * n + d ≤ wordLimit then
      let r := takeDigits (10 * n + d) ds
      (r.1, r.2.1 + 1, r.2.2)
    else (n, 0, ds.length + 1)

/-- Scales a word by a power of ten, in steps that the format can hold. -/
def scale : Nat → Float → Int → Option Float
  | 0, f, _ => some f
  | fuel + 1, f, e =>
    if e.natAbs ≤ 308 then
      let power := Float.ofScientific 1 false e.natAbs
      if e ≥ 0 then
        let g := f * power
        if g.isInf then none else some g
      else some (f / power)
    else if f == 0.0 then some f
    else if e ≥ 0 then none
    else scale fuel (f / Float.ofScientific 1 false 308) (e + 308)

def floatOf (significand : Nat) (e : Int) : Read Float := do
  match scale 100 significand.toUInt64.toFloat e with
  | some f => return f
  | none => failHere .numberTooLarge

/-- The greatest exponent that is looked at. -/
def exponentLimit : Nat := 2147483647

/-- How many digits it takes to pass the greatest exponent, if they do. -/
def passesLimit? : Nat → Nat → List Nat → Option Nat
  | _, _, [] => none
  | count, n, d :: ds =>
    if 10 * n + d > exponentLimit then some (count + 1)
    else passesLimit? (count + 1) (10 * n + d) ds

/-- Reads an exponent and scales by it, starting from `e`. -/
def readExponent (significand : Nat) (e : Int) : Read Float := do
  skip
  let mark ← peekOrNull
  if mark == '+' || mark == '-' then skip
  match ← peek? with
  | none => failHere .eofInValue
  | some d =>
    unless d.isDigit do
      skip
      failHere .badNumber
    let ds ← digitsHere
    match passesLimit? 0 0 ds with
    | some count =>
      if significand != 0 && mark != '-' then
        modify (Cursor.advanceBy count)
        failHere .numberTooLarge
      skipWhile isDigit
      return 0.0
    | none =>
      let value : Int := (ds.foldl (fun n d => 10 * n + d) 0 : Nat)
      skipWhile isDigit
      floatOf significand (if mark == '-' then e - value else e + value)

/-- Reads decimal places. Digits that no longer fit a word are dropped. -/
def readPlaces (significand : Nat) (e : Int) : Read Float := do
  skip
  let ds ← digitsHere
  if ds.isEmpty then
    match ← peek? with
    | some _ => failNext .badNumber
    | none => failNext .eofInValue
  let (n, taken, _) := takeDigits significand ds
  skipWhile isDigit
  let e := e - taken
  let c ← peekOrNull
  if c == 'e' || c == 'E' then readExponent n e else floatOf n e

/-- Describes a number that is not wanted, read behind its sign. -/
def describeNumber (negative : Bool) : Read String := do
  let sign (f : Float) : Float := if negative then -f else f
  let float (f : Float) : String :=
    "floating point `" ++ Decimal.doubleText (sign f).toBits ++ "`"
  match ← peek? with
  | none => failHere .eofInValue
  | some first =>
    let ds ← digitsHere
    match first.isDigit, first == '0' && ds.length > 1 with
    | false, _ =>
      skip
      failHere .badNumber
    | true, true =>
      skip
      failNext .badNumber
    | true, false =>
      let (n, _, left) := takeDigits 0 ds
      skipWhile isDigit
      let c ← peekOrNull
      if c == '.' then return float (← readPlaces n left)
      else if c == 'e' || c == 'E' then return float (← readExponent n left)
      else if left != 0 then return float (← floatOf n left)
      else if !negative then return "integer `" ++ toString n ++ "`"
      else if n == 0 || n > 9223372036854775808 then return float n.toUInt64.toFloat
      else return "integer `-" ++ toString n ++ "`"

end CoursePage.Json
