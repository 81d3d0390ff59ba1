import PolygonRenderer.Geometry.Scalar

/-!
# Vectors of three components

Sums are taken from left to right, which matters where the scalars round.
-/

namespace PolygonRenderer

structure Vec3 (α : Type) where
  x : α
  y : α
  z : α
deriving DecidableEq, Repr

namespace Vec3

variable {α : Type}

def map {β : Type} (f : α → β) (v : Vec3 α) : Vec3 β :=
  ⟨f v.x, f v.y, f v.z⟩

/-- The components in order. -/
def toList (v : Vec3 α) : List α :=
  [v.x, v.y, v.z]

instance [Zero α] : Zero (Vec3 α) where
  zero := ⟨0, 0, 0⟩

instance [Add α] : Add (Vec3 α) where
  add a b := ⟨a.x + b.x, a.y + b.y, a.z + b.z⟩

instance [Sub α] : Sub (Vec3 α) where
  sub a b := ⟨a.x - b.x, a.y - b.y, a.z - b.z⟩

instance [Neg α] : Neg (Vec3 α) where
  neg a := ⟨-a.x, -a.y, -a.z⟩

def cross [Sub α] [Mul α] (a b : Vec3 α) : Vec3 α :=
  ⟨a.y * b.z - a.z * b.y, a.z * b.x - a.x * b.z, a.x * b.y - a.y * b.x⟩

/-- The scalar product. -/
def dot [Add α] [Mul α] (a b : Vec3 α) : α :=
  a.x * b.x + a.y * b.y + a.z * b.z

/-- The vector scaled to unit length. A vector whose length is zero, infinite
or undefined is left as it is. -/
def normalize (v : Vec3 Float32) : Vec3 Float32 :=
  let length := (v.dot v).sqrt
  if length == 0 || !length.isFinite then v else v.map (· / length)

end Vec3

end PolygonRenderer
