import PolygonRenderer.Polygon.Basic
import PolygonRenderer.Scene.Material

/-!
# Buffer vertices

A vertex in the vertex buffer carries the whole material of its polygon, so that
a model is drawn in one go. It is stored as 25 binary32 numbers, each with its
lowest byte first.
-/

namespace PolygonRenderer

/-- A vertex as it is stored in the vertex buffer. -/
structure BufferVertex where
  position : Vec3 Float32
  normal : Vec3 Float32
  color : Vec3 Float32
  /-- From 0 for transparent to 1. -/
  translucence : Float32
  /-- 0 for luminous, 1 for lit. -/
  lightEnable : Float32
  /-- Negative without specular lighting. -/
  shininess : Float32
  /-- How much of the fog applies, from 0 to 1. -/
  fog : Float32
  u : Float32
  v : Float32
  /-- Left, top, width and height of the texture in the host texture map. -/
  textureLeft : Float32
  textureTop : Float32
  textureWidth : Float32
  textureHeight : Float32
  textureEnable : Float32
  /-- Negative if the contour is not processed. -/
  contour : Float32
  mirrorU : Float32
  mirrorV : Float32
  textureFormat : Float32
  textureMap : Float32
deriving DecidableEq, Repr

namespace BufferVertex

def floatCount : Nat :=
  25

def byteCount : Nat :=
  4 * floatCount

/-- The numbers of a vertex in storage order. -/
def toList (b : BufferVertex) : List Float32 :=
  b.position.toList ++ b.normal.toList ++ b.color.toList ++
    [b.translucence, b.lightEnable, b.shininess, b.fog, b.u, b.v,
      b.textureLeft, b.textureTop, b.textureWidth, b.textureHeight,
      b.textureEnable, b.contour, b.mirrorU, b.mirrorV, b.textureFormat, b.textureMap]

/-- The four bytes of a word, the lowest first. -/
def wordBytes (w : UInt32) : List UInt8 :=
  [w.toUInt8, (w >>> 8).toUInt8, (w >>> 16).toUInt8, (w >>> 24).toUInt8]

def encode (b : BufferVertex) : List UInt8 :=
  b.toList.flatMap fun x => wordBytes x.toBits

/-- The bytes of a list of vertices, one after the other. -/
def encodeAll (vertices : List BufferVertex) : List UInt8 :=
  vertices.flatMap encode

@[simp] theorem length_encode (b : BufferVertex) : b.encode.length = byteCount := rfl

@[simp] theorem length_encodeAll (vertices : List BufferVertex) :
    (encodeAll vertices).length = byteCount * vertices.length := by
  induction vertices with
  | nil => rfl
  | cons b bs ih =>
    simp only [encodeAll, List.flatMap_cons, List.length_append, length_encode,
      List.length_cons] at ih ⊢
    rw [ih, Nat.mul_add, Nat.mul_one, Nat.add_comm]

/-- The number 1 for a flag that is set and 0 for one that is not. -/
def ofFlag (flag : Bool) : Float32 :=
  if flag then 1 else 0

/-- The buffer vertex for a vertex of a polygon. The normal is multiplied by
`normalFlip`, which is -1 for the back of a double-sided polygon. Only a
luminous polygon has a fog level of its own; a lit one takes the fog in full. -/
def ofPolygon (ctx : DecodeContext) (p : Polygon Float32) (vertex : Vertex Float32)
    (normalFlip : Float32) : BufferVertex :=
  let h := p.header
  let texture := ctx.textureRef h
  let sheet := ctx.sheets.sheet texture.format
  { position := vertex.position
    normal := vertex.normal.map (· * normalFlip)
    color := ctx.materialColor h
    translucence := if h.isSolid then 1 else h.translucency.toFloat32 * (1 / 31)
    lightEnable := ofFlag (!h.isLuminous)
    shininess := (h.shininess?.map UInt32.toFloat32).getD (-1)
    fog := if h.isLuminous then h.fogLevel.toFloat32 * (1 / 31) else 1
    u := vertex.u
    v := vertex.v
    textureLeft := (sheet.left + texture.x).toFloat32
    textureTop := (sheet.top + texture.y).toFloat32
    textureWidth := texture.width.toFloat32
    textureHeight := texture.height.toFloat32
    textureEnable := ofFlag h.isTextured
    contour := if h.hasContour then 1 else -1
    mirrorU := ofFlag h.isMirroredU
    mirrorV := ofFlag h.isMirroredV
    textureFormat := h.textureFormat.toFloat32
    textureMap := sheet.map.toFloat32 }

/-- The buffer vertex for a corner of a polygon. -/
def ofCorner (ctx : DecodeContext) (p : Polygon Float32) (c : Corner) : BufferVertex :=
  ofPolygon ctx p p.slots[c.slot] (if c.back then -1 else 1)

end BufferVertex

end PolygonRenderer
