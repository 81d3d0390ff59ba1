import PolygonRenderer.Geometry.Matrix

/-!
# Winding

The display hardware culls by the normal of a polygon, a host by the order in
which its vertices appear. A transform that mirrors one axis reverses the order
and leaves the normal, so each drawn instance carries the winding that faces the
viewer (`Winding.ofTransform`). Within a model, `runsClockwise` tells whether
the vertices of a polygon already agree with its normal.
-/

namespace PolygonRenderer

/-- The order of vertices that faces the viewer. -/
inductive Winding where
  | clockwise
  | counterClockwise
  /-- No order can be trusted, so nothing is culled. -/
  | noCull
deriving DecidableEq, Repr

/-- What a host culls. -/
inductive CullState where
  /-- Both sides are drawn. -/
  | off
  /-- Faces in clockwise order are drawn. -/
  | keepClockwise
  /-- Faces in counter-clockwise order are drawn. -/
  | keepCounterClockwise
deriving DecidableEq, Repr

namespace Winding

/-- The cull state that keeps the faces of this winding. -/
def cullState : Winding → CullState
  | clockwise => .keepClockwise
  | counterClockwise => .keepCounterClockwise
  | noCull => .off

/-- The winding of an instance drawn with `modelView`.

A made-up polygon with edges along X and Y and its normal along `-zSign` Z is
transformed, the edges by the matrix and the normal by its inverse transpose.
The cross product of the edges is the normal the host culls by. Where it agrees
with the transformed normal in the sign of Z, clockwise order is kept; where it
disagrees, the order is reversed; a zero product turns culling off. -/
def ofTransform {α : Type} [Scalar α] (modelView : Mat4 α) (zSign : α) : Winding :=
  let m := modelView.upper
  match m.inverseTranspose with
  | none => noCull
  | some n =>
    let x := m.mulVec ⟨1, 0, 0⟩
    let y := m.mulVec ⟨0, 1, 0⟩
    let z := n.mulVec ⟨0, 0, -zSign⟩
    let s := sign (z.z * (x.cross y).z)
    if s < 0 then counterClockwise
    else if 0 < s then clockwise
    else noCull

end Winding

/-- Whether the vertices `v0`, `v1`, `v2` already run clockwise as seen along
`normal`. The edges out of `v1` are crossed and compared with the normal; the
product is scaled by `-zSign` because the Z axis of a scene may point either
way. -/
def runsClockwise {α : Type} [Scalar α] (v0 v1 v2 normal : Vec3 α) (zSign : α) : Bool :=
  decide (0 ≤ -zSign * ((v0 - v1).cross (v2 - v1)).dot normal)

end PolygonRenderer
