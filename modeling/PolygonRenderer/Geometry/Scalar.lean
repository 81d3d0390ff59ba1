/-!
# Scalars

The geometry of winding is written once for any kind of number that has the
operations below. The renderer computes with binary32 numbers; the laws of the
same definitions can be stated over the rationals.
-/

namespace PolygonRenderer

/-- Numbers with the arithmetic and the tests that winding needs. -/
class Scalar (α : Type) extends
    Add α, Sub α, Mul α, Div α, Neg α, Zero α, One α, LT α, LE α, BEq α where
  /-- The order is decided by computation. -/
  decLt : DecidableLT α
  /-- The weak order is decided by computation. -/
  decLe : DecidableLE α
  /-- Neither infinite nor undefined. -/
  isFinite : α → Bool

instance Scalar.decidableLT {α : Type} [Scalar α] : DecidableLT α := Scalar.decLt

instance Scalar.decidableLE {α : Type} [Scalar α] : DecidableLE α := Scalar.decLe

instance : Scalar Float32 where
  decLt := inferInstance
  decLe := inferInstance
  isFinite := Float32.isFinite

/-- The sign of a number as -1, 0 or 1. A value that is not comparable with
zero has sign 0. -/
def sign {α : Type} [Scalar α] (x : α) : α :=
  if 0 < x then 1 else if x < 0 then -1 else 0

end PolygonRenderer
