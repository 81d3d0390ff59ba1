import PolygonRenderer.Geometry.Matrix

/-!
# Snapshots of the scene

Whoever walks the scene accumulates transforms, lights and fog on the way down.
What a model instance or a viewport change needs of it is passed on by value.
-/

namespace PolygonRenderer

/-- Where a model instance stands. -/
structure Transform where
  modelView : Mat4 Float32
  /-- The direction of the Z axis, -1 where it points into the screen. -/
  zSign : Float32
deriving Repr

namespace Transform

def identity : Transform :=
  ⟨Mat4.identity, -1⟩

end Transform

/-- Viewport, lights and fog of all models that follow in a display list. -/
structure Viewport where
  x : Int
  y : Int
  width : Int
  height : Int
  /-- Direction of the sun, its intensity, ambient intensity, and one unused. -/
  lighting : Vector Float32 6
  /-- Colour, density and start. -/
  fog : Vector Float32 5
  /-- Centre of the spotlight and its inverse half-extents. -/
  spotEllipse : Vector Float32 4
  /-- Near and far end of the spotlight. -/
  spotRange : Vector Float32 2
  spotColor : Vec3 Float32
  projection : Mat4 Float32
deriving Repr

namespace Viewport

/-- The whole screen, lit from the front, without fog or spotlight. -/
def screen : Viewport where
  x := 0
  y := 0
  width := 496
  height := 384
  lighting := #v[0, 0, 1, 1, 0, 0]
  fog := Vector.replicate 5 0
  spotEllipse := Vector.replicate 4 0
  spotRange := Vector.replicate 2 0
  spotColor := 0
  projection := Mat4.identity

end Viewport

end PolygonRenderer
