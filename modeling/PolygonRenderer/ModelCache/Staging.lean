import PolygonRenderer.Graphics.Backend
import PolygonRenderer.ModelCache.Basic

/-!
# Staging of models

A model enters a cache in three steps: it is begun, its polygons are inserted and
their textures requested, and it is ended. Only then is it uploaded, the solid
vertices first and the blended ones right behind them. A model that is abandoned
leaves nothing behind.

A polygon is inserted only if there would be room for the largest one, which has
`ModelCache.maxCorners` corners, and at least one vertex more.
-/

namespace PolygonRenderer

namespace ModelCache

/-- The number of corners of a double-sided quad. -/
def maxCorners : Nat :=
  12

def beginModel (c : ModelCache) : Except RenderError (StagingHandle × ModelCache) :=
  if c.staging.slot.isSome then .error .stagingInProgress
  else if c.maxModels ≤ c.models.size then .error .modelCacheFull
  else
    let slot := c.models.size
    .ok (⟨slot, c.cursor⟩, { c with staging := { Staging.empty with slot := some slot } })

/-- Whether a handle belongs to the model that is being staged, going by its
slot. -/
def accepts (c : ModelCache) (h : StagingHandle) : Bool :=
  c.staging.slot == some h.slot

/-- Why the largest polygon would not fit, if it would not. -/
def overflow? (c : ModelCache) (p : Pass) : Option RenderError :=
  let needed := c.stagedCount p + maxCorners
  if c.stagingCapacity ≤ needed then some (.stagingBufferOverflow p needed c.stagingCapacity)
  else if c.bufferCapacity ≤ c.cursor + maxCorners then some .vertexBufferOverflow
  else none

/-- The message about a polygon that does not fit, which is given for staging
buffers only. -/
def reportOverflow (c : ModelCache) : RenderError → Logged Unit
  | .stagingBufferOverflow p _ capacity =>
    .report .warn
      (p.name ++ " staging buffer overflow (" ++ toString (c.stagedCount p) ++ " of " ++
        toString capacity ++ " vertices)")
  | _ => pure ()

/-- The vertices that a polygon is drawn with. -/
def polygonVertices (p : Polygon Float32) (ctx : DecodeContext) : List BufferVertex :=
  (p.corners ctx.zSign).map (BufferVertex.ofCorner ctx p)

/-- The cache with the vertices of a polygon staged. -/
def stage : ModelCache → Pass → List BufferVertex → ModelCache
  | ⟨source, buffer, bufferCapacity, cursor, staging, stagingCapacity, models, maxModels, lut,
      displayList, polygonsInserted⟩, pass, vertices =>
    ⟨source, buffer, bufferCapacity, cursor + vertices.length, staging.push pass vertices,
      stagingCapacity, models, maxModels, lut, displayList, polygonsInserted + 1⟩

/-- Insert a polygon into the model that is being staged. An error leaves the
cache as it is. -/
def insertPolygon (c : ModelCache) (h : StagingHandle) (p : Polygon Float32)
    (ctx : DecodeContext) : Logged (Except RenderError Unit × ModelCache) :=
  if c.accepts h then
    match c.overflow? p.pass with
    | some e => do
      c.reportOverflow e
      return (.error e, c)
    | none => pure (.ok (), c.stage p.pass (polygonVertices p ctx))
  else pure (.error .noModelInProgress, c)

/-- The cache with a texture kept for the model that is being staged. -/
def keepTexture (c : ModelCache) (texture : TextureRef) : ModelCache :=
  if texture ∈ c.staging.textures then c
  else { c with staging := { c.staging with textures := c.staging.textures ++ [texture] } }

/-- Ask for a texture of the model that is being staged. A static cache keeps
the reference if the texture manager takes it; otherwise the texture is decoded
at once. -/
def requestTexture {τ : Type} [TextureManager τ] (c : ModelCache) (h : StagingHandle)
    (texture : TextureRef) (textures : τ) : Except RenderError (ModelCache × τ) :=
  if c.accepts h then
    match c.source with
    | .dynamic => .ok (c, TextureManager.decode textures texture)
    | .static =>
      match TextureManager.addRef textures texture with
      | (true, textures) => .ok (c.keepTexture texture, textures)
      | (false, textures) => .ok (c, TextureManager.decode textures texture)
  else .error .noModelInProgress

/-- Drop the model that is being staged. Nothing happens if the handle does not
belong to it. -/
def abandon (c : ModelCache) (h : StagingHandle) : ModelCache :=
  if c.accepts h then { c with cursor := h.firstVertex, staging := .empty } else c

/-- Where the staged vertices go in the vertex buffer. -/
def stagedRanges (c : ModelCache) (h : StagingHandle) : PerPass VertexRange :=
  { solid := ⟨h.firstVertex, c.stagedCount .solid⟩
    blended := ⟨h.firstVertex + c.stagedCount .solid, c.stagedCount .blended⟩ }

/-- Upload the staged vertices of a pass, if there are any. -/
def uploadPass {β : Type} [Backend β] (c : ModelCache) (h : StagingHandle) (backend : β)
    (p : Pass) : Logged β :=
  let range := (c.stagedRanges h).get p
  if range.count = 0 then pure backend
  else
    Backend.upload backend c.buffer (BufferVertex.byteCount * range.first)
      (BufferVertex.encodeAll (c.staging.vertices.get p).toList).toArray

/-- The cache with the staged model entered under an index and a texture
offset, as the newest model of the index. -/
def commit (c : ModelCache) (h : StagingHandle) (index : UInt32) (offset : UInt16) : ModelCache :=
  let model : CachedModel :=
    { ranges := c.stagedRanges h
      textures := c.staging.textures
      lutIndex := index
      textureOffset := offset
      nextVariant := c.lut.get? index }
  { c with
    models := c.models.push model
    lut := c.lut.set index ⟨h.slot⟩
    staging := { c.staging with textures := [], slot := none } }

/-- The message about a model that has entered the cache. -/
def reportCommit (c : ModelCache) (index : UInt32) (offset : UInt16) : Logged Unit :=
  .report .trace
    ("Cached model 0x" ++ upperHex index.toNat ++ "/" ++ upperHexWord offset ++ ": " ++
      toString (c.stagedCount .solid) ++ " opaque, " ++
      toString (c.stagedCount .blended) ++ " alpha vertices")

/-- End the model that is being staged: upload it, and enter it into the lookup
table. Outside the table the model is abandoned. -/
def endModel {β : Type} [Backend β] (c : ModelCache) (backend : β) (h : StagingHandle)
    (index : UInt32) (offset : UInt16) : Logged (Except RenderError ModelId × ModelCache × β) :=
  if c.accepts h then
    if index.toNat < c.lut.size then do
      let backend ← Pass.all.foldlM (c.uploadPass h) backend
      c.reportCommit index offset
      return (.ok ⟨h.slot⟩, c.commit h index offset, backend)
    else return (.error (.lutIndexOutOfRange index c.lut.size), c.abandon h, backend)
  else return (.error .noModelInProgress, c, backend)

end ModelCache

end PolygonRenderer
