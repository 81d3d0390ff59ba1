import PolygonRenderer.DisplayList.Replay
import PolygonRenderer.Proofs.Graphics.Pictures

/-!
# Draws of a display list

The replay of a pass leaves out whatever is in force already, and yet each model
instance is drawn once, in order, from the right buffer and with its own matrix
and cull state, whatever was set before the replay.
-/

namespace PolygonRenderer

namespace NodeContent

/-- The model instance that a node stands for. -/
def model? : NodeContent → Option ModelInstance
  | viewport _ => none
  | model m => some m

end NodeContent

namespace ModelInstance

/-- The state in which an instance is to be drawn. -/
def state (m : ModelInstance) (buffer : BufferHandle) (p : Pass) : GraphicsState :=
  ⟨some buffer, some (p == .blended), some m.winding.cullState, some m.modelView⟩

end ModelInstance

namespace DisplayList

/-- The model instances of a pass in drawing order. -/
def instances (l : DisplayList) (p : Pass) : List ModelInstance :=
  (l.contents p).filterMap NodeContent.model?

/-- A viewport is not drawn and sets nothing that counts here. -/
theorem draws_viewportCommands_append (s : GraphicsState) (v : Viewport)
    (nodes : List NodeContent) (cs : List Command) :
    s.draws (viewportCommands v nodes ++ cs) = s.draws cs := by
  unfold viewportCommands
  split <;> rfl

/-- The cull state is the wanted one, be it set or in force already. -/
theorem draws_cullCommands_append {s : GraphicsState} {current : Option CullState}
    (hcurrent : ∀ state, current = some state → s.cull = some state) (wanted : CullState)
    (cs : List Command) :
    s.draws (cullCommands current wanted ++ cs) = { s with cull := some wanted }.draws cs := by
  unfold cullCommands
  split
  · rename_i h
    have hcull := hcurrent wanted h
    rw [List.nil_append, ← hcull]
  · rfl

theorem draws_replayNodes {s : GraphicsState} {buffer : BufferHandle} {p : Pass}
    {cull : Option CullState} (hbuffer : s.buffer = some buffer)
    (hblended : s.blended = some (p == .blended))
    (hcull : ∀ state, cull = some state → s.cull = some state) (nodes : List NodeContent) :
    s.draws (replayNodes cull nodes) =
      (nodes.filterMap NodeContent.model?).map fun m => (m.state buffer p, m.range) := by
  induction nodes generalizing s cull with
  | nil => rfl
  | cons node nodes ih =>
      cases node with
      | viewport v =>
          rw [replayNodes, draws_viewportCommands_append]
          exact ih hbuffer hblended hcull
      | model m =>
          have ih := @ih { s with cull := some m.winding.cullState, modelView := some m.modelView }
            (some m.winding.cullState) hbuffer hblended fun _ h => h
          have hstate : m.state buffer p =
              { s with cull := some m.winding.cullState, modelView := some m.modelView } := by
            rw [ModelInstance.state, ← hbuffer, ← hblended]
          rw [replayNodes, List.append_assoc, draws_cullCommands_append hcull]
          simp only [List.cons_append, List.nil_append, GraphicsState.draws, GraphicsState.apply]
          have hmodel : NodeContent.model? (.model m) = some m := rfl
          rw [ih, List.filterMap_cons_some hmodel, List.map_cons, hstate]

/-- Each instance of a pass is drawn once and in order. -/
theorem draws_replay (s : GraphicsState) (l : DisplayList) (buffer : BufferHandle) (p : Pass) :
    s.draws (l.replay buffer p) =
      (l.instances p).map fun m => (m.state buffer p, m.range) := by
  unfold replay instances
  split
  · rename_i hnil
    rw [hnil]
    rfl
  · refine draws_replayNodes rfl rfl ?_ _
    intro state hnone
    cases hnone

end DisplayList

end PolygonRenderer
