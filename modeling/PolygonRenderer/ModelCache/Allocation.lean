import PolygonRenderer.Decimal.Basic
import PolygonRenderer.Graphics.Backend
import PolygonRenderer.ModelCache.Basic
import PolygonRenderer.ModelCache.Limits

/-!
# Allocation of vertex buffers

A backend may have no room for a vertex buffer of the size that is wished for.
`ModelCache.request` then asks for less and less, by one staging buffer each
time, while the size is at least that of a staging buffer. `ModelCache.create`
asks once more for that size before it gives up.
-/

namespace PolygonRenderer

namespace ModelCache

variable {β : Type} [Backend β]

/-- How often the buffer of a cache is written. -/
def bufferUsage : ModelSource → BufferUsage
  | .static => .static
  | .dynamic => .stream

/-- Ask for `size` vertices, then for `step` fewer each time. The answer has the
size that was granted, if any was. -/
def request (source : ModelSource) (step size : Nat) (backend : β) :
    Logged (Option (BufferHandle × Nat) × β) :=
  if _h : 0 < step ∧ step ≤ size then
    match Backend.allocate backend (BufferVertex.byteCount * size) (bufferUsage source) with
    | (.ok buffer, backend) => pure (some (buffer, size), backend)
    | (.error e, backend) => do
      Logged.report .debug
        (source.title ++ " vertex buffer: " ++ e.message ++ ", retrying smaller")
      request source step (size - step) backend
  else pure (none, backend)
termination_by size

/-- A number of bytes as binary32 megabytes with two places. -/
def megabytes (bytes : Nat) : String :=
  match Binary.round .binary32 bytes 1 with
  | some b => Decimal.fixedText 2 b.ratio.1 (b.ratio.2 * twoPow 20)
  | none => "inf"

/-- A cache without models, for a buffer of `capacity` vertices. -/
def empty (limits : CacheLimits) (source : ModelSource) (buffer : BufferHandle) (capacity : Nat) :
    ModelCache :=
  { source := source
    buffer := buffer
    bufferCapacity := capacity
    cursor := 0
    staging := .empty
    stagingCapacity := limits.stagingVertices
    models := #[]
    maxModels := limits.maxModels
    lut := .empty limits.lutEntries
    displayList := .empty limits.displayListEntries
    polygonsInserted := 0 }

/-- A new cache, for a buffer that was granted. -/
def announce (limits : CacheLimits) (source : ModelSource) (buffer : BufferHandle)
    (capacity : Nat) : Logged ModelCache := do
  Logged.report .info
    (source.title ++ " vertex buffer size: " ++
      megabytes (BufferVertex.byteCount * capacity) ++ " MB")
  return empty limits source buffer capacity

/-- Allocate a vertex buffer, and make a cache of it. -/
def create (limits : CacheLimits) (source : ModelSource) (backend : β) :
    Logged (Except RenderError ModelCache × β) := do
  let (granted, backend) ← request source limits.stagingVertices limits.bufferVertices backend
  match granted with
  | some (buffer, capacity) =>
    return (.ok (← announce limits source buffer capacity), backend)
  | none =>
    let bytes := BufferVertex.byteCount * limits.stagingVertices
    match Backend.allocate backend bytes (bufferUsage source) with
    | (.ok buffer, backend) =>
      return (.ok (← announce limits source buffer limits.stagingVertices), backend)
    | (.error _, backend) => return (.error (.bufferAllocation source bytes), backend)

def destroy (c : ModelCache) (backend : β) : β :=
  Backend.release backend c.buffer

end ModelCache

end PolygonRenderer
