import PolygonRenderer.Decimal.Binary

/-!
# Decimals

A decimal is a sign, an integer and a power of ten. Its text is positional: it
never has an exponent, and always a fraction.
-/

namespace PolygonRenderer

/-- The number `digits * 10 ^ exponent` with a sign. -/
structure Decimal where
  negative : Bool
  digits : Nat
  exponent : Int
deriving DecidableEq, Repr

namespace Decimal

/-- The magnitude as a quotient. -/
def ratio (d : Decimal) : Nat × Nat :=
  (d.digits * tenPow d.exponent.toNat, tenPow (-d.exponent).toNat)

/-- The digits of a magnitude before and after the point, of which there are
`places`. -/
def positional (digits places : Nat) : String :=
  let all := Nat.toDigits 10 digits
  let padded := List.replicate (places + 1 - all.length) '0' ++ all
  let whole := padded.length - places
  String.ofList (padded.take whole ++ '.' :: padded.drop whole)

def text (d : Decimal) : String :=
  let magnitude :=
    if d.exponent < 0 then positional d.digits (-d.exponent).toNat
    else positional (d.digits * tenPow (d.exponent.toNat + 1)) 1
  if d.negative then "-" ++ magnitude else magnitude

/-- The text of `num / den` with a fixed number of places after the point. -/
def fixedText (places num den : Nat) : String :=
  positional (roundDiv (num * tenPow places) den) places

/-- Whether the decimal is so large that it lies beyond every binary64 number. -/
def isHuge (d : Decimal) : Bool :=
  d.digits != 0 && 309 < d.exponent

/-- Whether the decimal is so small that no binary64 number but zero is near,
because `10 ^ n` is larger than `8 ^ n`. -/
def isTiny (d : Decimal) : Bool :=
  d.digits == 0 || decide ((d.digits.log2 + 1 + 1100 : Int) < 3 * -d.exponent)

/-- The magnitude of the nearest binary64 number, unless it is beyond all. -/
def toBinary64 (d : Decimal) : Option Binary :=
  if d.isHuge then none
  else if d.isTiny then some ⟨0, BinaryFormat.binary64.minExponent⟩
  else Binary.round .binary64 d.ratio.1 d.ratio.2

/-- The binary32 number nearest to the binary64 number nearest to a decimal.
There is none where the decimal lies beyond every binary64 number. -/
def toFloat32 (d : Decimal) : Option Float32 :=
  d.toBinary64.map fun b => nearest32 d.negative b.ratio.1 b.ratio.2

end Decimal

end PolygonRenderer
