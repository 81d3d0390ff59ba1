import PolygonRenderer.DisplayList
import PolygonRenderer.Graphics.Backend
import PolygonRenderer.Message
import PolygonRenderer.ModelCache.LookupTable
import PolygonRenderer.VertexBuffer.Vertex

/-!
# Model caches

A model cache holds decoded models in one vertex buffer, each found again by the
index of the model in a lookup table and the texture offset it was decoded with.
Models of the same index but other offsets are variants of each other: the table
names the newest one, and each names the one before it.

While a model is being staged, its vertices are collected in a buffer for each
pass, and room in the vertex buffer is set aside for them. The cache never grows:
when it is full it has to be cleared.
-/

namespace PolygonRenderer

/-- The number of a model in its cache. It stands for a number of 32 bits, and agrees with it as
long as a cache holds less than `2 ^ 32` models. -/
structure ModelId where
  index : Nat
deriving DecidableEq, Repr

/-- A model that is held in a vertex buffer. -/
structure CachedModel where
  /-- The vertices of each pass. -/
  ranges : PerPass VertexRange
  /-- The textures that are to be decoded when the texture memory changes. -/
  textures : List TextureRef
  lutIndex : UInt32
  textureOffset : UInt16
  /-- The model before this one with the same index. -/
  nextVariant : Option ModelId
deriving DecidableEq, Repr

/-- What is collected of a model before it enters the cache. -/
structure Staging where
  vertices : PerPass (Array BufferVertex)
  textures : List TextureRef
  /-- The number that the model is going to have, if there is one. -/
  slot : Option Nat

namespace Staging

/-- Nothing is staged. -/
def empty : Staging :=
  ⟨.both #[], [], none⟩

/-- Add vertices to a pass. -/
def push : Staging → Pass → List BufferVertex → Staging
  | ⟨vertices, textures, slot⟩, p, new => ⟨vertices.modify p (· ++ new), textures, slot⟩

end Staging

/-- What a model that is being staged is known by. Both numbers stand for numbers of 32 bits,
and agree with them as long as the limits of the cache are below `2 ^ 32`. -/
structure StagingHandle where
  slot : Nat
  /-- Where the vertices of the model are going to start. -/
  firstVertex : Nat
deriving DecidableEq, Repr

/-- A cache of decoded models, and the display list of their instances. -/
structure ModelCache where
  /-- Where the models come from. -/
  source : ModelSource
  buffer : BufferHandle
  bufferCapacity : Nat
  /-- The number of vertices in use or set aside. -/
  cursor : Nat
  staging : Staging
  /-- How many vertices of one pass may be staged. -/
  stagingCapacity : Nat
  models : Array CachedModel
  maxModels : Nat
  /-- The newest model of each index. -/
  lut : LookupTable ModelId
  displayList : DisplayList
  /-- The number of polygons ever inserted, which stands for a number of 64 bits. -/
  polygonsInserted : Nat

namespace ModelCache

/-- The model with a number. -/
def model? (c : ModelCache) (id : ModelId) : Option CachedModel :=
  c.models[id.index]?

/-- The numbers of all models, oldest first. -/
def modelIds (c : ModelCache) : List ModelId :=
  (List.range c.models.size).map ModelId.mk

/-- The number of vertices that are staged for a pass. -/
def stagedCount (c : ModelCache) (p : Pass) : Nat :=
  (c.staging.vertices.get p).size

/-- Follow the variants from a model on until one has the texture offset, for at
most `fuel` models. -/
def findVariant (models : Array CachedModel) (offset : UInt16) :
    Nat → Option ModelId → Option ModelId
  | fuel + 1, some id =>
    match models[id.index]? with
    | some m =>
      if m.textureOffset = offset then some id
      else findVariant models offset fuel m.nextVariant
    | none => none
  | _, _ => none

/-- The newest model with an index and a texture offset. There are no more
variants than models. -/
def lookUp (c : ModelCache) (index : UInt32) (offset : UInt16) : Option ModelId :=
  findVariant c.models offset c.models.size (c.lut.get? index)

/-- Append an instance of a model to the display list. -/
def appendModel (c : ModelCache) (id : ModelId) (t : Transform) :
    Except RenderError ModelCache := do
  match c.model? id with
  | none => throw (.unknownModel id.index)
  | some m => return { c with displayList := ← c.displayList.appendModel m.ranges t }

def appendViewport (c : ModelCache) (v : Viewport) : Except RenderError ModelCache := do
  return { c with displayList := ← c.displayList.appendViewport v }

/-- Empty the display list for a new frame. -/
def clearDisplayList (c : ModelCache) : ModelCache :=
  { c with displayList := c.displayList.clear }

/-- The cache without models, instances and staged vertices. -/
def cleared (c : ModelCache) : ModelCache :=
  { c with
    cursor := 0
    staging := .empty
    models := #[]
    lut := c.models.foldl (fun lut m => lut.erase m.lutIndex) c.lut
    displayList := c.displayList.clear }

/-- Drop all models and the display list. -/
def clear (c : ModelCache) : Logged ModelCache := do
  Logged.report .debug
    ("Clearing " ++ c.source.name ++ " model cache (" ++ toString c.models.size ++
      " models, " ++ toString c.cursor ++ " vertices)")
  return c.cleared

/-- Decode the textures that a model refers to, if there is such a model. -/
def decodeTextures {τ : Type} [TextureManager τ] (c : ModelCache) (id : ModelId)
    (textures : τ) : τ :=
  match c.model? id with
  | some m => m.textures.foldl TextureManager.decode textures
  | none => textures

end ModelCache

end PolygonRenderer
