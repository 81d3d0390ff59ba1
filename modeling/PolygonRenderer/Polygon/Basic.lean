import PolygonRenderer.Geometry.Winding
import PolygonRenderer.Polygon.Record

/-!
# Polygons

A decoded polygon has four vertex slots, of which three or four are its own
vertices. Slots that a polygon does not fill keep the vertices of the polygon
before it, which is what a later polygon may take over.

`Polygon.corners` cuts a polygon into triangles. The vertices of a triangle run
clockwise as seen along the normal, whatever the order of the polygon; a quad is
cut along its 0-2 diagonal; a double-sided polygon has a second triangle behind
each, in the opposite order.
-/

namespace PolygonRenderer

/-- The vertices of a polygon, as a later polygon may take them over. -/
abbrev Slots (α : Type) := Vector (Vertex α) 4

namespace Slots

variable {α : Type}

/-- Fill the lowest slots with the given vertices, keeping the others. -/
def fill (slots : Slots α) (vertices : List (Vertex α)) : Slots α :=
  Vector.ofFn fun i => (vertices[i]?).getD slots[i]

theorem getElem_fill (slots : Slots α) (vertices : List (Vertex α)) (i : Nat) (h : i < 4) :
    (slots.fill vertices)[i] = (vertices[i]?).getD slots[i] := by
  simp [fill]

/-- The slots before any polygon. -/
def zero : Slots Float32 :=
  Vector.replicate 4 Vertex.zero

end Slots

structure Polygon (α : Type) where
  header : Header
  /-- All slots; the first `vertexCount` are the vertices of the polygon. -/
  slots : Slots α
  vertexCount : Nat
  normal : Vec3 α
  pass : Pass

/-- One corner of a triangle of a polygon. -/
structure Corner where
  /-- The vertex of the polygon. -/
  slot : Fin 4
  /-- Whether the triangle is seen from behind. -/
  back : Bool
deriving DecidableEq, Repr

namespace Polygon

def vertices {α : Type} (p : Polygon α) : List (Vertex α) :=
  p.slots.toList.take p.vertexCount

/-- Decode the polygon of a record. The vertices taken over from `history` fill
the lowest slots, the vertices of the record the slots after them. -/
def ofRecord (factor : Float32) (history : Slots Float32) (r : Record) : Polygon Float32 :=
  let h := r.header
  let kept := h.reusedSlots.map fun i => history[i]
  let own := r.vertices.map fun w => Vertex.decode w h.normal factor h.textureScale
  { header := h
    slots := history.fill (kept ++ own)
    vertexCount := h.vertexCount
    normal := h.normal
    pass := h.pass }

/-- The first triangle of a polygon, in the order of its vertices or against it. -/
def firstTriangle (forward back : Bool) : List Corner :=
  if forward then [⟨0, back⟩, ⟨1, back⟩, ⟨2, back⟩] else [⟨2, back⟩, ⟨1, back⟩, ⟨0, back⟩]

/-- The second triangle of a quad, in the order of its vertices or against it. -/
def secondTriangle (forward back : Bool) : List Corner :=
  if forward then [⟨0, back⟩, ⟨2, back⟩, ⟨3, back⟩] else [⟨0, back⟩, ⟨3, back⟩, ⟨2, back⟩]

@[simp] theorem length_firstTriangle (forward back : Bool) :
    (firstTriangle forward back).length = 3 := by
  cases forward <;> rfl

@[simp] theorem length_secondTriangle (forward back : Bool) :
    (secondTriangle forward back).length = 3 := by
  cases forward <;> rfl

/-- The number of corners: three for each triangle. -/
def cornerCount {α : Type} (p : Polygon α) : Nat :=
  (if p.vertexCount = 4 then 6 else 3) * (if p.header.isDoubleSided then 2 else 1)

theorem cornerCount_le {α : Type} (p : Polygon α) : p.cornerCount ≤ 12 := by
  unfold cornerCount
  split <;> split <;> decide

/-- Whether the order of the vertices already is clockwise. -/
def isClockwise {α : Type} [Scalar α] (p : Polygon α) (zSign : α) : Bool :=
  runsClockwise p.slots[0].position p.slots[1].position p.slots[2].position p.normal zSign

/-- The corners of the triangles that a polygon is drawn as. -/
def corners {α : Type} [Scalar α] (p : Polygon α) (zSign : α) : List Corner :=
  let forward := p.isClockwise zSign
  let sides (triangle : Bool → Bool → List Corner) : List Corner :=
    triangle forward false ++ if p.header.isDoubleSided then triangle (!forward) true else []
  sides firstTriangle ++ if p.vertexCount = 4 then sides secondTriangle else []

@[simp] theorem length_corners {α : Type} [Scalar α] (p : Polygon α) (zSign : α) :
    (p.corners zSign).length = p.cornerCount := by
  unfold corners cornerCount
  cases p.header.isDoubleSided <;> by_cases h : p.vertexCount = 4 <;> simp [h]

end Polygon

end PolygonRenderer
