/-!
# Limits of model caches
-/

namespace PolygonRenderer

/-- The capacities of a model cache. -/
structure CacheLimits where
  /-- The size of vertex buffer to ask for. -/
  bufferVertices : Nat
  /-- How many vertices of one pass a model may have while it is staged. -/
  stagingVertices : Nat
  maxModels : Nat
  lutEntries : Nat
  displayListEntries : Nat
deriving DecidableEq, Repr

namespace CacheLimits

/-- The size of vertex buffer that is asked for first. It is the size that is
wished for, unless that is smaller than a staging buffer or nothing can be
staged. -/
def firstRequest (l : CacheLimits) : Nat :=
  if 0 < l.stagingVertices ∧ l.stagingVertices ≤ l.bufferVertices then l.bufferVertices
  else l.stagingVertices

/-- The bytes that each store of a cache takes: a staging buffer, the vertex
buffer, the models, the lookup table and the nodes of the display list. -/
def storeBytes (l : CacheLimits) : List Nat :=
  [100 * l.stagingVertices, 100 * l.firstRequest, 56 * l.maxModels, 8 * l.lutEntries,
    172 * l.displayListEntries]

/-- Whether a cache can be made of the limits: the bytes that are wished for can
be counted in 64 bits, and those of every store can be numbered by signed
integers of 64 bits. -/
def isAddressable (l : CacheLimits) : Bool :=
  100 * l.bufferVertices < 0x10000000000000000 && l.storeBytes.all (· < 0x8000000000000000)

/-- The limits for models that never change. -/
def static : CacheLimits :=
  ⟨700000, 32768, 10000, 0x400000, 10000⟩

/-- The limits for models that may change with every frame. -/
def dynamic : CacheLimits :=
  ⟨100000, 32768, 1024, 0x40000, 10000⟩

end CacheLimits

end PolygonRenderer
