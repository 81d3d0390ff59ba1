import PolygonRenderer.Proofs.DisplayList.Draws
import PolygonRenderer.Proofs.DisplayList.PlainReplay

/-!
# Viewports of a display list

`DisplayList.instancesUnder` reads a list of nodes from the front and pairs each
model instance with the viewport that precedes it most closely. If there is one for
each instance, then it is in force when the instance is drawn, whatever was set
before the replay.
-/

namespace PolygonRenderer

namespace DisplayList

/-- The viewport in force behind the nodes, where `v` is in force in front of them. -/
def viewportAfter : Option Viewport → List NodeContent → Option Viewport
  | v, [] => v
  | _, .viewport w :: nodes => viewportAfter (some w) nodes
  | v, .model _ :: nodes => viewportAfter v nodes

/-- The model instances, each with the nearest viewport before it. -/
def instancesUnder : Option Viewport → List NodeContent → List (Option Viewport × ModelInstance)
  | _, [] => []
  | _, .viewport w :: nodes => instancesUnder (some w) nodes
  | v, .model m :: nodes => (v, m) :: instancesUnder v nodes

theorem viewportAfter_append (v : Option Viewport) (nodes nodes' : List NodeContent) :
    viewportAfter v (nodes ++ nodes') = viewportAfter (viewportAfter v nodes) nodes' := by
  induction nodes generalizing v with
  | nil => rfl
  | cons node nodes ih => cases node <;> exact ih _

theorem instancesUnder_append (v : Option Viewport) (nodes nodes' : List NodeContent) :
    instancesUnder v (nodes ++ nodes') =
      instancesUnder v nodes ++ instancesUnder (viewportAfter v nodes) nodes' := by
  induction nodes generalizing v with
  | nil => rfl
  | cons node nodes ih =>
      cases node with
      | viewport w => exact ih (some w)
      | model m => exact congrArg _ (ih v)

end DisplayList

namespace ModelInstance

/-- The state in which an instance is to be drawn under a viewport. -/
def stateUnder (m : ModelInstance) (buffer : BufferHandle) (p : Pass) (v : Viewport) :
    PipelineState :=
  { m.state buffer p with rectangle := some (v.x, v.y, v.width, v.height), uniforms := some v }

/-- How an instance is drawn under the viewport that precedes it, if there is one. -/
def drawUnder? (m : ModelInstance) (buffer : BufferHandle) (p : Pass) (v : Option Viewport) :
    Option (PipelineState × VertexRange) :=
  v.map fun v => (m.stateUnder buffer p v, m.range)

end ModelInstance

namespace DisplayList

theorem draws_plainCommands {s : PipelineState} {buffer : BufferHandle} {p : Pass}
    (hbuffer : s.buffer = some buffer) (hblended : s.blended = some (p == .blended))
    {v : Option Viewport} (hv : ∀ w, v = some w → s.under w = s)
    {nodes : List NodeContent} (hunder : ∀ e ∈ instancesUnder v nodes, e.1.isSome = true) :
    s.draws (nodes.flatMap plainCommands) =
      (instancesUnder v nodes).filterMap fun e => e.2.drawUnder? buffer p e.1 := by
  induction nodes generalizing s v with
  | nil => rfl
  | cons node nodes ih =>
      cases node with
      | viewport w =>
          refine @ih (s.under w) hbuffer hblended (some w) ?_ hunder
          rintro _ ⟨⟩
          rfl
      | model m =>
          rw [instancesUnder, List.forall_mem_cons] at hunder
          obtain ⟨w, rfl⟩ := Option.isSome_iff_exists.1 hunder.1
          let s₁ : PipelineState := { s with
            cull := some m.winding.cullState
            modelView := some m.modelView }
          have hforce := hv w rfl
          have hforce₁ : s₁.under w = s₁ := by
            simp only [s₁]
            rw [← hforce]
            rfl
          have hstate : s₁ = m.stateUnder buffer p w := by
            rw [← hforce₁, PipelineState.under, ModelInstance.stateUnder, ModelInstance.state,
              ← hbuffer, ← hblended]
          have hplain : s.draws ((NodeContent.model m :: nodes).flatMap plainCommands) =
              (s₁, m.range) :: s₁.draws (nodes.flatMap plainCommands) := rfl
          have ih := @ih s₁ hbuffer hblended (some w) (by rintro _ ⟨⟩; exact hforce₁) hunder.2
          rw [hplain, ih, hstate, instancesUnder]
          rfl

/-- Each instance of a pass is drawn under the viewport that precedes it. -/
theorem draws_replay_under (s : PipelineState) (l : DisplayList) (buffer : BufferHandle)
    (p : Pass) (hunder : ∀ e ∈ instancesUnder none (l.contents p), e.1.isSome = true) :
    s.draws (l.replay buffer p) =
      (instancesUnder none (l.contents p)).filterMap fun e => e.2.drawUnder? buffer p e.1 := by
  rw [draws_replay_eq_plain]
  exact draws_plainCommands (v := none) rfl rfl (by rintro _ ⟨⟩) hunder

end DisplayList

end PolygonRenderer
