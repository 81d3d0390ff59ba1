import PolygonRenderer.Decimal.Basic

/-!
# Shortest decimals

The decimals that round to a given binary number form an interval around it,
which reaches half-way to the numbers next to it. `Decimal.shortest` is a decimal
of that interval with the fewest digits: a multiple of the largest power of ten
that has a multiple there at all.
-/

namespace PolygonRenderer

/-- The reals that round to a binary32 number, in quarters of the distance to
the next larger number. -/
structure RoundingInterval where
  low : Nat
  value : Nat
  high : Nat
  /-- Whether the ends belong to the interval. -/
  closed : Bool
  /-- The exponent of two of a quarter. -/
  exponent : Int
deriving DecidableEq, Repr

namespace RoundingInterval

/-- The interval of a positive binary32 number. Below a power of two the numbers
are twice as dense, unless it is among the smallest. Ties go to the even
mantissa, so the ends belong to an even one. -/
def ofBinary (b : Binary) : RoundingInterval :=
  let m := b.mantissa
  { low := if m = twoPow 23 ∧ -149 < b.exponent then 4 * m - 1 else 4 * m - 2
    value := 4 * m
    high := 4 * m + 2
    closed := m % 2 == 0
    exponent := b.exponent - 2 }

/-- The quotient of a quarter by `10 ^ k`. -/
def quarter (r : RoundingInterval) (k : Int) : Nat × Nat :=
  (twoPow r.exponent.toNat * tenPow (-k).toNat, twoPow (-r.exponent).toNat * tenPow k.toNat)

/-- Whether `n * 10 ^ k` belongs to the interval. -/
def contains (r : RoundingInterval) (k : Int) (n : Nat) : Bool :=
  let (num, den) := r.quarter k
  if r.closed then r.low * num ≤ n * den && n * den ≤ r.high * num
  else r.low * num < n * den && n * den < r.high * num

/-- The multiple of `10 ^ k` in the interval that is nearest to its value, the
larger one of two. -/
def hit (r : RoundingInterval) (k : Int) : Option Nat :=
  let (num, den) := r.quarter k
  let below := r.value * num / den
  let above := below + 1
  let preferAbove : Bool := (2 * below + 1) * den ≤ 2 * (r.value * num)
  match r.contains k below, r.contains k above with
  | true, true => some (if preferAbove then above else below)
  | true, false => some below
  | false, true => some above
  | false, false => none

/-- The first hit among `10 ^ k`, `10 ^ (k - 1)` and so on, for `fuel` steps. -/
def search (r : RoundingInterval) (negative : Bool) (k : Int) : Nat → Option Decimal
  | 0 => none
  | fuel + 1 =>
    match r.hit k with
    | some n => some ⟨negative, n, k⟩
    | none => r.search negative (k - 1) fuel

end RoundingInterval

namespace Decimal

/-- The shortest decimal of a finite binary32 number. All numbers are below
`10 ^ 39`, and all are multiples of `10 ^ -149`. -/
def shortest (x : Float32) : Decimal :=
  let negative := x.toBits.toNat.testBit 31
  let b := Binary.ofFloat32 x
  if b.mantissa = 0 then ⟨negative, 0, 0⟩
  else ((RoundingInterval.ofBinary b).search negative 39 189).getD ⟨negative, 0, 0⟩

end Decimal

/-- A decimal, or one of the values without digits. -/
inductive ExtendedDecimal where
  | undefined
  | infinite (negative : Bool)
  | finite (decimal : Decimal)
deriving DecidableEq, Repr

namespace ExtendedDecimal

/-- The shortest decimal of a binary32 number. -/
def ofFloat32 (x : Float32) : ExtendedDecimal :=
  if x.isNaN then undefined
  else if x.isInf then infinite (decide (x < 0))
  else finite (Decimal.shortest x)

/-- The binary32 number, unless the decimal lies beyond every binary64 number. -/
def toFloat32 : ExtendedDecimal → Option Float32
  | undefined => some (.ofBits 0x7FC00000)
  | infinite negative => some (infinity32 negative)
  | finite d => d.toFloat32

end ExtendedDecimal

end PolygonRenderer
