import PolygonRenderer.Geometry.Winding
import PolygonRenderer.Message
import PolygonRenderer.Scene.Snapshot

/-!
# Graphics backends

Caching and replaying models asks little of a graphics interface: vertex
buffers, partial uploads, and a few commands that set state or draw.
-/

namespace PolygonRenderer

/-- Names a vertex buffer of a backend. It stands for a number of 32 bits, which tells up to
`2 ^ 32` buffers apart. -/
structure BufferHandle where
  index : Nat
deriving DecidableEq, Repr

namespace BufferHandle

def render (h : BufferHandle) : String :=
  "BufferHandle(" ++ toString h.index ++ ")"

end BufferHandle

/-- How often a buffer is going to be written. -/
inductive BufferUsage where
  /-- Rarely, and drawn many times. -/
  | static
  /-- In every frame. -/
  | stream
deriving DecidableEq, Repr

/-- A buffer of this size was refused. -/
structure OutOfMemory where
  bytes : Nat
deriving DecidableEq, Repr

namespace OutOfMemory

def message (e : OutOfMemory) : String :=
  "out of memory allocating " ++ toString e.bytes ++ " bytes"

end OutOfMemory

/-- A command that sets state or draws. -/
inductive Command where
  /-- Draw from this buffer from now on. -/
  | bind (buffer : BufferHandle)
  | blend (enabled : Bool)
  | cull (state : CullState)
  | viewport (x y width height : Int)
  /-- Set lights, fog, spotlight and projection. -/
  | uniforms (viewport : Viewport)
  | modelView (matrix : Mat4 Float32)
  /-- Draw `count` vertices of the bound buffer as triangles. -/
  | draw (first count : Nat)
deriving Repr

/-- What a graphics interface has to offer. -/
class Backend (β : Type) where
  /-- Ask for a vertex buffer. -/
  allocate : β → Nat → BufferUsage → Except OutOfMemory BufferHandle × β
  /-- Give a buffer back. -/
  release : β → BufferHandle → β
  /-- Copy data into a buffer, starting at a byte offset. -/
  upload : β → BufferHandle → Nat → Array UInt8 → Logged β
  submit : β → Command → β

namespace Backend

def submitAll {β : Type} [Backend β] (b : β) (commands : List Command) : β :=
  commands.foldl submit b

@[simp] theorem submitAll_nil {β : Type} [Backend β] (b : β) : submitAll b [] = b := rfl

@[simp] theorem submitAll_cons {β : Type} [Backend β] (b : β) (c : Command)
    (cs : List Command) : submitAll b (c :: cs) = submitAll (submit b c) cs := rfl

end Backend

end PolygonRenderer
