import Mathlib.Data.List.Chain
import PolygonRenderer.ModelCache.Draw
import PolygonRenderer.Proofs.Graphics.Observed
import PolygonRenderer.Proofs.Graphics.Pictures

/-!
# Replay without shortcuts

`DisplayList.plainReplay` sends every viewport and every cull state, whether it
makes a difference or not. A `PipelineState` is all that commands set, so it is
what a draw depends on.

The main statement is that the draws of a replay are those of the plain one, each
in the same state, whatever was set before. A viewport that is left out would have
been set again before the next draw, and a cull state that is left out is in force
already.
-/

namespace PolygonRenderer

/-- All that commands have set so far. -/
structure PipelineState extends GraphicsState where
  rectangle : Option (Int × Int × Int × Int)
  uniforms : Option Viewport

namespace PipelineState

/-- The state after a command. -/
def apply (s : PipelineState) : Command → PipelineState
  | .viewport x y width height => { s with rectangle := some (x, y, width, height) }
  | .uniforms v => { s with uniforms := some v }
  | c => { s with toGraphicsState := s.toGraphicsState.apply c }

/-- The draws among commands, with the state that each is carried out in. -/
def draws (s : PipelineState) : List Command → List (PipelineState × VertexRange)
  | [] => []
  | .draw first count :: cs => (s, ⟨first, count⟩) :: draws s cs
  | c :: cs => draws (s.apply c) cs

theorem draws_append (s : PipelineState) (cs ds : List Command) :
    s.draws (cs ++ ds) = s.draws cs ++ (cs.foldl apply s).draws ds := by
  induction cs generalizing s with
  | nil => rfl
  | cons c cs ih =>
      rw [List.cons_append, List.foldl_cons]
      cases c with
      | draw first count => exact congrArg _ (ih s)
      | bind | blend | cull | viewport | uniforms | modelView => exact ih _

/-- The state with a viewport set. -/
def under (s : PipelineState) (v : Viewport) : PipelineState :=
  { s with rectangle := some (v.x, v.y, v.width, v.height), uniforms := some v }

end PipelineState

namespace Command

end Command

namespace DisplayList

/-- The commands for a node on its own. -/
def plainCommands : NodeContent → List Command
  | .viewport v => [.viewport v.x v.y v.width v.height, .uniforms v]
  | .model m =>
    [.cull m.winding.cullState, .modelView m.modelView, .draw m.range.first m.range.count]

/-- The commands that draw one pass, with nothing left out. -/
def plainReplay (nodes : List NodeContent) (buffer : BufferHandle) (p : Pass) : List Command :=
  [.bind buffer, .blend (p == .blended)] ++ nodes.flatMap plainCommands

/-- The states of both replays may differ in the viewport, but only where another
viewport comes before the next model. -/
theorem draws_replayNodes_eq_plain {s s' : PipelineState} {cull : Option CullState}
    {nodes : List NodeContent} (hsame : s.toGraphicsState = s'.toGraphicsState)
    (hmodel : ∀ m rest, nodes = .model m :: rest → s = s')
    (hcull : ∀ state, cull = some state → s.cull = some state) :
    s.draws (replayNodes cull nodes) = s'.draws (nodes.flatMap plainCommands) := by
  induction nodes generalizing s s' cull with
  | nil => rfl
  | cons node nodes ih =>
      cases node with
      | viewport v =>
          have hunder : s.under v = s'.under v := by
            rw [PipelineState.under, hsame, PipelineState.under]
          have hplain : s'.draws ((NodeContent.viewport v :: nodes).flatMap plainCommands) =
              (s'.under v).draws (nodes.flatMap plainCommands) := rfl
          rw [hplain, replayNodes]
          unfold viewportCommands
          split
          · have hsent := @ih (s.under v) (s'.under v) cull (congrArg _ hunder)
              (fun _ _ _ => hunder) hcull
            exact hsent
          · -- left out, so the states go on differing, but no model comes next
            rename_i hnot
            exact ih hsame (fun m rest h => absurd h (hnot m rest)) hcull
      | model m =>
          obtain rfl := hmodel m nodes rfl
          let s₁ : PipelineState := { s with
            cull := some m.winding.cullState
            modelView := some m.modelView }
          have ih := @ih s₁ s₁ (some m.winding.cullState) rfl (fun _ _ _ => rfl) fun _ h => h
          have hplain : s.draws ((NodeContent.model m :: nodes).flatMap plainCommands) =
              (s₁, m.range) :: s₁.draws (nodes.flatMap plainCommands) := rfl
          rw [hplain, ← ih, replayNodes]
          unfold cullCommands
          split
          · -- left out, because this cull state is in force already
            rename_i hforce
            have hs : s₁ = { s with modelView := some m.modelView } := by
              simp only [s₁, ← hcull _ hforce]
            rw [hs]
            rfl
          · rfl

theorem draws_replay_eq_plain (s : PipelineState) (l : DisplayList) (buffer : BufferHandle)
    (p : Pass) : s.draws (l.replay buffer p) = s.draws (plainReplay (l.contents p) buffer p) := by
  unfold replay
  split
  · rename_i hnil
    rw [hnil]
    rfl
  · exact draws_replayNodes_eq_plain rfl (fun _ _ _ => rfl) nofun

end DisplayList

namespace Observed

theorem calls_submitAll {β : Type} [Backend β] (b : Observed β) (commands : List Command) :
    (Backend.submitAll b commands).calls = b.calls ++ commands.map Call.submit := by
  induction commands generalizing b with
  | nil => exact (List.append_nil _).symm
  | cons c cs ih =>
      have hsubmit : (Backend.submit b c).calls = b.calls ++ [.submit c] := rfl
      rw [Backend.submitAll_cons, ih, hsubmit, List.map_cons, List.append_assoc]
      rfl

end Observed

namespace ModelCache

end ModelCache

end PolygonRenderer
