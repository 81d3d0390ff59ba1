import PolygonRenderer.ModelCache.Caching
import PolygonRenderer.Renderer.Basic

/-!
# Drawing of models

To draw a model is to look it up, to cache it if it is not found, and to append
an instance of it. If the cache turns out to be full, it is cleared, and the
model is drawn once more; a second failure is final.
-/

namespace PolygonRenderer

/-- A model that is to be drawn. -/
structure ModelRequest where
  source : ModelSource
  lutIndex : UInt32
  textureOffset : UInt16
  /-- How far the textures are displaced, in texels. -/
  texelsX : Int32
  texelsY : Int32
  words : List UInt32
  /-- The polygon memory, which holds the colour table. -/
  memory : Array UInt32

/-- What drawing a model changes. -/
structure Drawing (β τ : Type) where
  cache : ModelCache
  stats : FrameStats
  host : Host β τ

namespace Drawing

variable {β τ : Type} [Backend β] [TextureManager τ]

/-- Find the model of a request in the cache, or cache it. -/
def obtain (d : Drawing β τ) (ctx : DecodeContext) (q : ModelRequest) :
    Logged (Except RenderError ModelId × Drawing β τ) := do
  match d.cache.lookUp q.lutIndex q.textureOffset with
  | some id => return (.ok id, { d with stats.cacheHits := d.stats.cacheHits + 1 })
  | none =>
    let (result, cache, host) ←
      d.cache.cacheModel d.host ctx q.lutIndex q.textureOffset q.words
    let inserted := cache.polygonsInserted - d.cache.polygonsInserted
    let stats := { d.stats with polygonsInserted := d.stats.polygonsInserted + inserted }
    match result with
    | .ok id =>
      return (.ok id, ⟨cache, { stats with modelsCached := stats.modelsCached + 1 }, host⟩)
    | .error e => return (.error e, ⟨cache, stats, host⟩)

/-- Draw the model of a request, if there is room for all it takes. -/
def attempt (d : Drawing β τ) (ctx : DecodeContext) (q : ModelRequest) (t : Transform) :
    Logged (Except RenderError ModelId × Drawing β τ) := do
  match ← d.obtain ctx q with
  | (.error e, d) => return (.error e, d)
  | (.ok id, d) =>
    match d.cache.appendModel id t with
    | .ok cache => return (.ok id, { d with cache := cache })
    | .error e => return (.error e, d)

/-- Clear the cache, which is full, and append the viewport again. -/
def makeRoom (d : Drawing β τ) (source : ModelSource) (viewport : Option Viewport) :
    Logged (Except RenderError Unit × Drawing β τ) := do
  let cache ← d.cache.clear
  let d := { d with cache := cache, stats := d.stats.countClear source }
  match viewport with
  | none => return (.ok (), d)
  | some v =>
    match d.cache.appendViewport v with
    | .ok cache => return (.ok (), { d with cache := cache })
    | .error e => return (.error e, d)

/-- Draw the model of a request, clearing the cache once if it is full. -/
def run (d : Drawing β τ) (viewport : Option Viewport) (ctx : DecodeContext) (q : ModelRequest)
    (t : Transform) : Logged (Except RenderError ModelId × Drawing β τ) := do
  match ← d.attempt ctx q t with
  | (.ok id, d) => return (.ok id, d)
  | (.error e, d) =>
    if e.isRecoverable then
      Logged.report .warn
        (q.source.title ++ " model cache: " ++ e.message ++ ", clearing and retrying")
      match ← d.makeRoom q.source viewport with
      | (.ok (), d) => d.attempt ctx q t
      | (.error e, d) => return (.error e, d)
    else return (.error e, d)

end Drawing

namespace Renderer

variable {β τ : Type} [Backend β] [TextureManager τ]

/-- The context in which the model of a request is decoded. -/
def decodeContext (r : Renderer) (textures : τ) (q : ModelRequest) (t : Transform) :
    DecodeContext :=
  DecodeContext.withSheetsFrom
    { vertexFactor := r.config.vertexFactor
      zSign := t.zSign
      texelsX := q.texelsX
      texelsY := q.texelsY
      memory := q.memory
      modulation := r.config.modulation
      sheets := .origin }
    textures

def drawModel (r : Renderer) (host : Host β τ) (q : ModelRequest) (t : Transform) :
    Logged (Except RenderError ModelId × Renderer × Host β τ) := do
  let ctx := r.decodeContext host.textures q t
  let d : Drawing β τ := ⟨r.cache q.source, r.stats, host⟩
  let (result, d) ← d.run r.viewport ctx q t
  return (result, { r.setCache q.source d.cache with stats := d.stats }, d.host)

end Renderer

end PolygonRenderer
