import CoursePage.Decimal.Shortest

/-!
Single precision numbers as text: the shortest digits that read back, with a point from one
ten-thousandth up to ten to the sixteenth and with an exponent outside that range.
-/

namespace CoursePage.Decimal

/-- A whole number of at least one digit, a point, and at least one digit. -/
def pointText (d : Digits) : String :=
  let ds := Nat.toDigits 10 d.digits
  if d.exponent ≥ 0 then
    String.ofList (ds ++ List.replicate d.exponent.toNat '0') ++ ".0"
  else
    let places := (-d.exponent).toNat
    let ds := List.replicate (places + 1 - ds.length) '0' ++ ds
    String.ofList (ds.take (ds.length - places)) ++ "." ++
      String.ofList (ds.drop (ds.length - places))

/-- One digit before the point, no point without digits behind it. An exponent that is not
negative has the given sign. -/
def exponentText (plus : String) (d : Digits) : String :=
  let ds := Nat.toDigits 10 d.digits
  let exponent := d.exponent + (ds.length - 1 : Nat)
  String.ofList (ds.take 1) ++ (if ds.length > 1 then "." ++ String.ofList (ds.drop 1) else "") ++
    "e" ++ (if exponent < 0 then "" else plus) ++ toString exponent

/-- The value of a positive finite number by its bits. -/
def Fraction.ofSingleBits (bits : Nat) : Fraction :=
  let field : Nat := bits / 0x800000 % 0x100
  let rest : Nat := bits % 0x800000
  if field == 0 then ⟨rest, -149, false⟩
  else ⟨rest + 0x800000, (field : Int) - 150, rest == 0 && field > 1⟩

/-- From the number nearest to 0.0001 up to the one nearest to 10^16, by the bits of both. -/
def isPlain (bits : Nat) : Bool := 0x38D1B717 ≤ bits && bits < 0x5A0E1BCA

def singleText (bits : UInt32) : String :=
  let n := bits.toNat
  let sign := if n ≥ 0x80000000 then "-" else ""
  let n := n % 0x80000000
  if n > 0x7F800000 then "NaN"
  else if n == 0x7F800000 then sign ++ "inf"
  else if n == 0 then sign ++ "0.0"
  else
    let d := (Fraction.ofSingleBits n).shortest .upper
    sign ++ if isPlain n then pointText d else exponentText "" d

end CoursePage.Decimal
