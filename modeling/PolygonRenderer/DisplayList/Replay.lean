import PolygonRenderer.DisplayList
import PolygonRenderer.Graphics.Backend

/-!
# Replay of display lists

The commands that draw a list of nodes. State is set only where it matters: a
viewport is sent only if the next node is a model, and the cull state only where
it differs from that of the model before.
-/

namespace PolygonRenderer

namespace DisplayList

/-- The commands for a viewport, which are left out unless a model follows. -/
def viewportCommands (v : Viewport) : List NodeContent → List Command
  | .model _ :: _ => [.viewport v.x v.y v.width v.height, .uniforms v]
  | _ => []

/-- The command that sets the cull state, unless it is in force already. -/
def cullCommands (current : Option CullState) (wanted : CullState) : List Command :=
  if current = some wanted then [] else [.cull wanted]

/-- The commands for a list of nodes. `cull` is the cull state that the nodes
before have set. -/
def replayNodes (cull : Option CullState) : List NodeContent → List Command
  | [] => []
  | .viewport v :: rest => viewportCommands v rest ++ replayNodes cull rest
  | .model m :: rest =>
    let wanted := m.winding.cullState
    cullCommands cull wanted ++
      [.modelView m.modelView, .draw m.range.first m.range.count] ++
      replayNodes (some wanted) rest

/-- The commands that draw one pass from a vertex buffer. An empty list takes
no command at all. -/
def replay (l : DisplayList) (buffer : BufferHandle) (p : Pass) : List Command :=
  match l.contents p with
  | [] => []
  | nodes => [.bind buffer, .blend (p == .blended)] ++ replayNodes none nodes

end DisplayList

end PolygonRenderer
