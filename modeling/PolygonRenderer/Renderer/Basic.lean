import PolygonRenderer.Config
import PolygonRenderer.ModelCache.Allocation
import PolygonRenderer.ModelCache.Draw

/-!
# Renderers

A renderer has two model caches. The static one keeps its models from frame to
frame, the dynamic one is cleared for every frame. Each frame fills the display
lists of both anew.
-/

namespace PolygonRenderer

/-- What happened in a frame. The counters stand for numbers of 32 bits, and agree with them in
a frame of less than `2 ^ 31` calls (`Renderer.counters_le_run`). That of the polygons stands
for a number of 64 bits. -/
structure FrameStats where
  /-- Models that entered a cache. -/
  modelsCached : Nat
  /-- Models that were found in a cache. -/
  cacheHits : Nat
  /-- Polygons that were staged, also those of models that did not enter. -/
  polygonsInserted : Nat
  /-- How often a cache was cleared because it was full. -/
  staticClears : Nat
  dynamicClears : Nat
deriving DecidableEq, Repr

namespace FrameStats

def zero : FrameStats :=
  ⟨0, 0, 0, 0, 0⟩

/-- Count a clear of the cache for a source. -/
def countClear (s : FrameStats) : ModelSource → FrameStats
  | .static => { s with staticClears := s.staticClears + 1 }
  | .dynamic => { s with dynamicClears := s.dynamicClears + 1 }

end FrameStats

/-- The model caches, and what a frame has brought so far. -/
structure Renderer where
  config : Config
  staticCache : ModelCache
  dynamicCache : ModelCache
  /-- The last viewport of the frame. -/
  viewport : Option Viewport
  stats : FrameStats

namespace Renderer

def cache (r : Renderer) : ModelSource → ModelCache
  | .static => r.staticCache
  | .dynamic => r.dynamicCache

def setCache (r : Renderer) (source : ModelSource) (c : ModelCache) : Renderer :=
  match source with
  | .static => { r with staticCache := c }
  | .dynamic => { r with dynamicCache := c }

@[simp] theorem cache_setCache_self (r : Renderer) (source : ModelSource) (c : ModelCache) :
    (r.setCache source c).cache source = c := by
  cases source <;> rfl

theorem cache_setCache_of_ne (r : Renderer) {source other : ModelSource} (c : ModelCache)
    (h : other ≠ source) : (r.setCache source c).cache other = r.cache other := by
  cases source <;> cases other <;> first | rfl | exact absurd rfl h

@[simp] theorem viewport_setCache (r : Renderer) (source : ModelSource) (c : ModelCache) :
    (r.setCache source c).viewport = r.viewport := by
  cases source <;> rfl

@[simp] theorem config_setCache (r : Renderer) (source : ModelSource) (c : ModelCache) :
    (r.setCache source c).config = r.config := by
  cases source <;> rfl

variable {β : Type} [Backend β]

/-- Create both caches. If the dynamic one cannot be created, the buffer of the
static one is given back. -/
def create (config : Config) (backend : β) : Logged (Except RenderError Renderer × β) := do
  match ← ModelCache.create config.staticCache .static backend with
  | (.error e, backend) => return (.error e, backend)
  | (.ok staticCache, backend) =>
    match ← ModelCache.create config.dynamicCache .dynamic backend with
    | (.error e, backend) => return (.error e, staticCache.destroy backend)
    | (.ok dynamicCache, backend) =>
      return (.ok ⟨config, staticCache, dynamicCache, none, .zero⟩, backend)

def destroy (r : Renderer) (backend : β) : β :=
  r.dynamicCache.destroy (r.staticCache.destroy backend)

def beginFrame (r : Renderer) : Logged Renderer := do
  let dynamicCache ← r.dynamicCache.clear
  return { r with
    staticCache := r.staticCache.clearDisplayList
    dynamicCache := dynamicCache
    viewport := none
    stats := .zero }

/-- The source whose display list has no room left, the static one first. -/
def fullList? (r : Renderer) : Option ModelSource :=
  [ModelSource.static, .dynamic].find? fun s => !(r.cache s).displayList.hasRoom

/-- Set the viewport of all models that follow. It goes to one display list after the
other, and both are looked at beforehand. What the first one has taken would stay there if
the second one refused it. -/
def setViewport (r : Renderer) (v : Viewport) : Logged (Except RenderError Unit × Renderer) :=
  match r.fullList? with
  | some source => do
    Logged.report .warn (source.name ++ " display list full, viewport dropped")
    return (.error .displayListFull, r)
  | none =>
    match r.staticCache.appendViewport v with
    | .error e => return (.error e, r)
    | .ok c =>
      let r := { r with staticCache := c }
      match r.dynamicCache.appendViewport v with
      | .error e => return (.error e, r)
      | .ok c => return (.ok (), { r with dynamicCache := c, viewport := some v })

/-- Decode the textures of all static models again. -/
def refreshTextures {τ : Type} [TextureManager τ] (r : Renderer) (textures : τ) : τ :=
  r.staticCache.modelIds.foldl (fun textures id => r.staticCache.decodeTextures id textures)
    textures

/-- The commands that draw the frame: each pass of the static models, then of the
dynamic ones. -/
def commands (r : Renderer) : List Command :=
  Pass.all.flatMap fun p => r.staticCache.commands p ++ r.dynamicCache.commands p

def render (r : Renderer) (backend : β) : β :=
  Backend.submitAll backend r.commands

end Renderer

end PolygonRenderer
