import CoursePage.Decimal.Single

/-!
Double precision numbers as text: the shortest digits that read back, with a point from one
hundred-thousandth up to ten to the sixteenth and with a signed exponent outside that range.
-/

namespace CoursePage.Decimal

/-- The value of a positive finite number by its bits. -/
def Fraction.ofDoubleBits (bits : Nat) : Fraction :=
  let field : Nat := bits / 0x10000000000000 % 0x800
  let rest : Nat := bits % 0x10000000000000
  if field == 0 then ⟨rest, -1074, false⟩
  else ⟨rest + 0x10000000000000, (field : Int) - 1075, rest == 0 && field > 1⟩

/-- The place of the point, counted from in front of the first digit. -/
def Digits.point (d : Digits) : Int := (Nat.toDigits 10 d.digits).length + d.exponent

def doubleText (bits : UInt64) : String :=
  let n := bits.toNat
  let sign := if n ≥ 0x8000000000000000 then "-" else ""
  let n := n % 0x8000000000000000
  if n > 0x7FF0000000000000 then "NaN"
  else if n == 0x7FF0000000000000 then sign ++ "inf"
  else if n == 0 then sign ++ "0.0"
  else
    let d := (Fraction.ofDoubleBits n).shortest .even
    sign ++ if -5 < d.point && d.point ≤ 16 then pointText d else exponentText "+" d

end CoursePage.Decimal
