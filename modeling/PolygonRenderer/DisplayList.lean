import PolygonRenderer.Error
import PolygonRenderer.Scene.Snapshot
import PolygonRenderer.Geometry.Winding

/-!
# Display lists

A display list records model instances and viewport changes in the order in
which they are to be drawn, once for each pass. The nodes of both passes share
one array, through which each pass threads a list of its own by index. The
array never grows beyond a fixed capacity.
-/

namespace PolygonRenderer

/-- Consecutive vertices of a vertex buffer. Both numbers stand for numbers of 32 bits, which
hold any vertex of a buffer of less than `2 ^ 32` vertices. -/
structure VertexRange where
  first : Nat
  count : Nat
deriving DecidableEq, Repr

structure ModelInstance where
  range : VertexRange
  modelView : Mat4 Float32
  /-- The winding that faces the viewer under `modelView`. -/
  winding : Winding
deriving Repr

/-- What a node of a display list stands for. -/
inductive NodeContent where
  | viewport (viewport : Viewport)
  | model (model : ModelInstance)
deriving Repr

structure DisplayNode where
  content : NodeContent
  /-- Where the next node of the same pass is. It stands for a number of 32 bits, as do the ends
  of a display list, and agrees with it as long as there are no more than `2 ^ 32` nodes. -/
  next : Option Nat
deriving Repr

namespace NodeContent

end NodeContent

/-- The display lists of both passes. -/
structure DisplayList where
  nodes : Array DisplayNode
  /-- The largest number of nodes. -/
  capacity : Nat
  /-- The first node of each pass. -/
  head : PerPass (Option Nat)
  /-- The last node of each pass. -/
  tail : PerPass (Option Nat)

namespace DisplayList

/-- The number of nodes that an append may take, one for each pass. -/
def nodesPerAppend : Nat :=
  2

def empty (capacity : Nat) : DisplayList :=
  ⟨#[], capacity, .both none, .both none⟩

/-- Drop all nodes. -/
def clear (l : DisplayList) : DisplayList :=
  empty l.capacity

def length (l : DisplayList) : Nat :=
  l.nodes.size

def isEmpty (l : DisplayList) : Bool :=
  l.nodes.isEmpty

/-- Whether another append fits, which may need a node for each pass. -/
def hasRoom (l : DisplayList) : Bool :=
  l.length + nodesPerAppend ≤ l.capacity

/-- Follow the links from a node on, for at most `fuel` nodes. -/
def follow (nodes : Array DisplayNode) : Nat → Option Nat → List NodeContent
  | fuel + 1, some i =>
    match nodes[i]? with
    | some node => node.content :: follow nodes fuel node.next
    | none => []
  | _, _ => []

/-- The nodes of a pass in drawing order. A pass has no more nodes than the
array. -/
def contents (l : DisplayList) (p : Pass) : List NodeContent :=
  follow l.nodes l.nodes.size (l.head.get p)

/-- Put a node at the end of the list of a pass. -/
def push (l : DisplayList) (p : Pass) (content : NodeContent) : DisplayList :=
  let index := l.nodes.size
  let nodes := l.nodes.push ⟨content, none⟩
  match l.tail.get p with
  | some last =>
    { l with
      nodes := nodes.modify last fun node => { node with next := some index }
      tail := l.tail.set p (some index) }
  | none =>
    { l with
      nodes := nodes
      head := l.head.set p (some index)
      tail := l.tail.set p (some index) }

/-- Put a node at the end of the list of a pass for which the model has
vertices. -/
def pushInstance (l : DisplayList) (p : Pass) (model : ModelInstance) : DisplayList :=
  if model.range.count = 0 then l else l.push p (.model model)

/-- Append a model instance to the list of every pass it has vertices for. The
winding is resolved here, once for the instance. -/
def appendModel (l : DisplayList) (ranges : PerPass VertexRange) (t : Transform) :
    Except RenderError DisplayList :=
  if l.hasRoom then
    let winding := Winding.ofTransform t.modelView t.zSign
    .ok (Pass.all.foldl (fun l p => l.pushInstance p ⟨ranges.get p, t.modelView, winding⟩) l)
  else .error .displayListFull

def appendViewport (l : DisplayList) (viewport : Viewport) : Except RenderError DisplayList :=
  if l.hasRoom then .ok (Pass.all.foldl (fun l p => l.push p (.viewport viewport)) l)
  else .error .displayListFull

end DisplayList

end PolygonRenderer
