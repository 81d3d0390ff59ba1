import PolygonRenderer.Decimal.Rounding

/-!
# Binary floating point

A nonnegative finite binary number is `mantissa * 2 ^ exponent`. Rounding a
quotient to a format picks the finest exponent at which the mantissa fits, but
none below the least exponent of the format. `Binary.ofFloat32` and
`Binary.toFloat32` lead from the bits of a binary32 number to this form and back.
-/

namespace PolygonRenderer

/-- A format of binary floating point numbers. -/
structure BinaryFormat where
  /-- The number of bits of a mantissa. -/
  precision : Nat
  /-- The exponent of the smallest positive number. -/
  minExponent : Int
  /-- The exponent of the largest numbers. -/
  maxExponent : Int
deriving DecidableEq, Repr

namespace BinaryFormat

def binary32 : BinaryFormat :=
  ⟨24, -149, 104⟩

def binary64 : BinaryFormat :=
  ⟨53, -1074, 971⟩

end BinaryFormat

/-- The number `mantissa * 2 ^ exponent`. -/
structure Binary where
  mantissa : Nat
  exponent : Int
deriving DecidableEq, Repr

namespace Binary

/-- The number as a quotient. -/
def ratio (b : Binary) : Nat × Nat :=
  (b.mantissa * twoPow b.exponent.toNat, twoPow (-b.exponent).toNat)

/-- The exponent of the power of two at or below `num / den`, which is positive. -/
def log2Ratio (num den : Nat) : Int :=
  let k : Int := num.log2 - den.log2
  if num * twoPow (-k).toNat < den * twoPow k.toNat then k - 1 else k

/-- The number of a format nearest to `num / den`, with the even mantissa where
two are equally near. There is none where the quotient lies beyond the largest
number. -/
def round (f : BinaryFormat) (num den : Nat) : Option Binary :=
  if num = 0 then some ⟨0, f.minExponent⟩
  else
    let e := max f.minExponent (log2Ratio num den - (f.precision - 1))
    let m := roundDiv (num * twoPow (-e).toNat) (den * twoPow e.toNat)
    let b : Binary :=
      if m = twoPow f.precision then ⟨twoPow (f.precision - 1), e + 1⟩ else ⟨m, e⟩
    if b.exponent ≤ f.maxExponent then some b else none

/-- The magnitude of a finite binary32 number. -/
def ofFloat32 (x : Float32) : Binary :=
  let bits := x.toBits.toNat
  let exponent : Nat := bits / twoPow 23 % twoPow 8
  let fraction := bits % twoPow 23
  if exponent = 0 then ⟨fraction, -149⟩ else ⟨twoPow 23 + fraction, (exponent : Int) - 150⟩

/-- The binary32 number with the given sign and magnitude. The leading bit of a
full mantissa adds one to the exponent field. -/
def toFloat32 (negative : Bool) (b : Binary) : Float32 :=
  let magnitude := b.mantissa + (b.exponent + 149).toNat * twoPow 23
  .ofBits (UInt32.ofNat (magnitude + if negative then twoPow 31 else 0))

end Binary

/-- The infinite binary32 number with the given sign. -/
def infinity32 (negative : Bool) : Float32 :=
  .ofBits (if negative then 0xFF800000 else 0x7F800000)

/-- The binary32 number nearest to `num / den`. -/
def nearest32 (negative : Bool) (num den : Nat) : Float32 :=
  match Binary.round .binary32 num den with
  | some b => b.toFloat32 negative
  | none => infinity32 negative

end PolygonRenderer
