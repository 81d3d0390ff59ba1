import PolygonRenderer.Geometry.Vector

/-!
# Matrices

`Mat4` is a transform of the scene, held by columns. Only its upper left part,
a `Mat3` held by rows, turns and scales directions. `Mat3.inverseTranspose` is
the matrix that carries normals along.
-/

namespace PolygonRenderer

/-- A matrix of three rows. -/
structure Mat3 (α : Type) where
  row0 : Vec3 α
  row1 : Vec3 α
  row2 : Vec3 α
deriving DecidableEq, Repr

/-- A column of a `Mat4`. -/
structure Vec4 (α : Type) where
  x : α
  y : α
  z : α
  w : α
deriving DecidableEq, Repr

/-- A matrix of four columns. -/
structure Mat4 (α : Type) where
  col0 : Vec4 α
  col1 : Vec4 α
  col2 : Vec4 α
  col3 : Vec4 α
deriving DecidableEq, Repr

namespace Mat3

variable {α : Type} [Scalar α]

def mulVec (m : Mat3 α) (v : Vec3 α) : Vec3 α :=
  ⟨m.row0.dot v, m.row1.dot v, m.row2.dot v⟩

/-- The determinant, expanded along the first column. -/
def det (m : Mat3 α) : α :=
  m.row0.x * (m.row2.z * m.row1.y - m.row2.y * m.row1.z)
    - m.row1.x * (m.row2.z * m.row0.y - m.row2.y * m.row0.z)
    + m.row2.x * (m.row1.z * m.row0.y - m.row1.y * m.row0.z)

/-- The transpose of the inverse: the cofactors divided by the determinant.
There is none when the determinant is zero or not finite. -/
def inverseTranspose (m : Mat3 α) : Option (Mat3 α) :=
  let d := m.det
  if d == 0 || !Scalar.isFinite d then none
  else
    let i : α := 1 / d
    let ⟨⟨a00, a01, a02⟩, ⟨a10, a11, a12⟩, ⟨a20, a21, a22⟩⟩ := m
    some
      ⟨⟨i * (a22 * a11 - a21 * a12), -i * (a22 * a10 - a20 * a12), i * (a21 * a10 - a20 * a11)⟩,
       ⟨-i * (a22 * a01 - a21 * a02), i * (a22 * a00 - a20 * a02), -i * (a21 * a00 - a20 * a01)⟩,
       ⟨i * (a12 * a01 - a11 * a02), -i * (a12 * a00 - a10 * a02), i * (a11 * a00 - a10 * a01)⟩⟩

end Mat3

namespace Vec4

/-- The components in order. -/
def toList {α : Type} (v : Vec4 α) : List α :=
  [v.x, v.y, v.z, v.w]

end Vec4

namespace Mat4

variable {α : Type}

/-- The matrix with the given entries, column by column. -/
def ofVector (e : Vector α 16) : Mat4 α :=
  ⟨⟨e[0], e[1], e[2], e[3]⟩, ⟨e[4], e[5], e[6], e[7]⟩,
   ⟨e[8], e[9], e[10], e[11]⟩, ⟨e[12], e[13], e[14], e[15]⟩⟩

/-- The entries, column by column. -/
def toList (m : Mat4 α) : List α :=
  m.col0.toList ++ m.col1.toList ++ m.col2.toList ++ m.col3.toList

/-- The part that acts on directions, by rows. -/
def upper (m : Mat4 α) : Mat3 α :=
  ⟨⟨m.col0.x, m.col1.x, m.col2.x⟩,
   ⟨m.col0.y, m.col1.y, m.col2.y⟩,
   ⟨m.col0.z, m.col1.z, m.col2.z⟩⟩

/-- The transform that scales the axes. -/
def scale [Zero α] [One α] (x y z : α) : Mat4 α :=
  ⟨⟨x, 0, 0, 0⟩, ⟨0, y, 0, 0⟩, ⟨0, 0, z, 0⟩, ⟨0, 0, 0, 1⟩⟩

def identity [Zero α] [One α] : Mat4 α :=
  scale 1 1 1

end Mat4

end PolygonRenderer
