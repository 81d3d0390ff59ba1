import PolygonRenderer.Host
import PolygonRenderer.ModelCache.Staging
import PolygonRenderer.Polygon.Decoder

/-!
# Caching of whole models

`ModelCache.cacheModel` decodes a stream and stages what it finds, polygon by
polygon. The first thing that goes wrong ends it, and the model is abandoned.
-/

namespace PolygonRenderer

namespace ModelCache

variable {β τ : Type} [TextureManager τ]

/-- Stage a polygon after asking for its texture. -/
def stagePolygon (c : ModelCache) (textures : τ) (h : StagingHandle) (ctx : DecodeContext)
    (p : Polygon Float32) : Logged (Except RenderError Unit × ModelCache × τ) := do
  let requested :=
    if p.header.isTextured then c.requestTexture h (ctx.textureRef p.header) textures
    else .ok (c, textures)
  match requested with
  | .error e => return (.error e, c, textures)
  | .ok (c, textures) =>
    let (result, c) ← c.insertPolygon h p ctx
    return (result, c, textures)

/-- Stage what is found in a stream, up to the first error. -/
def stageEvents (c : ModelCache) (textures : τ) (h : StagingHandle) (ctx : DecodeContext) :
    List Decoder.Event → Logged (Except RenderError Unit × ModelCache × τ)
  | [] => return (.ok (), c, textures)
  | .skipped position :: events => do
    Decoder.skipMessage position
    stageEvents c textures h ctx events
  | .truncated t :: _ => return (.error (.truncatedModel t), c, textures)
  | .polygon p :: events => do
    match ← c.stagePolygon textures h ctx p with
    | (.ok (), c, textures) => stageEvents c textures h ctx events
    | (.error e, c, textures) => return (.error e, c, textures)

/-- Decode a model and enter it into the cache. -/
def cacheModel [Backend β] (c : ModelCache) (host : Host β τ) (ctx : DecodeContext)
    (index : UInt32) (offset : UInt16) (words : List UInt32) :
    Logged (Except RenderError ModelId × ModelCache × Host β τ) := do
  match c.beginModel with
  | .error e => return (.error e, c, host)
  | .ok (h, c) =>
    let events := (Decoder.start words ctx.vertexFactor).events
    match ← c.stageEvents host.textures h ctx events with
    | (.ok (), c, textures) =>
      let (result, c, backend) ← c.endModel host.backend h index offset
      return (result, c, ⟨backend, textures⟩)
    | (.error e, c, textures) => return (.error e, c.abandon h, { host with textures := textures })

end ModelCache

end PolygonRenderer
