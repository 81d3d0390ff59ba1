import PolygonRenderer.Proofs.ModelCache.Clearing
import PolygonRenderer.Proofs.Renderer.Outcomes

/-!
# What a draw asks of its cache

A draw does nothing to its cache but make calls of it. `Drawing.runCalls` lists them in order:
an attempt caches the model if it is not found, and appends it if it is there then. Between
two attempts the cache is cleared, and the viewport is appended again.

`CacheSession.exchanges` are calls together with what they are answered.
-/

namespace PolygonRenderer

/-- What caching a model is answered in a session. -/
def CacheAnswer.ofCached : Except RenderError ModelId → CacheAnswer
  | .ok id => .cached id
  | .error e => .failed e

def CacheCall.isClear {β τ : Type} : CacheCall β τ → Bool
  | .clear => true
  | _ => false

namespace CacheSession

variable {β τ : Type} [Backend β] [TextureManager τ]

/-- Calls that are made in order, each with its answer. -/
def exchanges (s : CacheSession β τ) :
    List (CacheCall β τ) → List (CacheCall β τ × CacheAnswer)
  | [] => []
  | call :: calls => (call, (s.step call).1) :: exchanges (s.step call).2 calls

theorem run_append (s : CacheSession β τ) (calls calls' : List (CacheCall β τ)) :
    s.run (calls ++ calls') = (s.run calls).run calls' := by
  induction calls generalizing s with
  | nil => rfl
  | cons call calls ih => exact ih (s.step call).2

theorem exchanges_append (s : CacheSession β τ) (calls calls' : List (CacheCall β τ)) :
    s.exchanges (calls ++ calls') = s.exchanges calls ++ (s.run calls).exchanges calls' := by
  induction calls generalizing s with
  | nil => rfl
  | cons call calls ih =>
      rw [List.cons_append, exchanges, exchanges, ih]
      rfl

section Step

variable {s : CacheSession β τ} {c : ModelCache} {id : ModelId} {t : Transform} {v : Viewport}
  {e : RenderError}

theorem step_cacheModel {ctx : DecodeContext} {index : UInt32} {offset : UInt16}
    {words : List UInt32} {answer : Except RenderError ModelId} {host : Host β τ}
    (h : (s.cache.cacheModel s.host ctx index offset words).value = (answer, c, host)) :
    s.step (.cacheModel ctx index offset words) =
      (.ofCached answer, ⟨c, host⟩) := by
  rw [step, h]
  cases answer <;> rfl

theorem step_appendModel (h : s.cache.appendModel id t = .ok c) :
    s.step (.appendModel id t) = (.done, { s with cache := c }) := by
  rw [step, h]

theorem step_appendModel_error (h : s.cache.appendModel id t = .error e) :
    s.step (.appendModel id t) = (.failed e, s) := by
  rw [step, h]

theorem step_appendViewport (h : s.cache.appendViewport v = .ok c) :
    s.step (.appendViewport v) = (.done, { s with cache := c }) := by
  rw [step, h]

theorem step_appendViewport_error (h : s.cache.appendViewport v = .error e) :
    s.step (.appendViewport v) = (.failed e, s) := by
  rw [step, h]

end Step

/-- A model enters the cache. -/
def isCommit (x : CacheCall β τ × CacheAnswer) : Bool :=
  match x.2 with
  | .cached _ => true
  | _ => false

/-- A model is not appended as the display list is full. -/
def isRefusal : CacheCall β τ × CacheAnswer → Bool
  | (.appendModel .., .failed .displayListFull) => true
  | _ => false

end CacheSession

namespace Drawing

variable {β τ : Type}

/-- The cache with the host that it works with. -/
def session (x : Drawing β τ) : CacheSession β τ :=
  ⟨x.cache, x.host⟩

def obtainCalls (x : Drawing β τ) (ctx : DecodeContext) (q : ModelRequest) :
    List (CacheCall β τ) :=
  match x.cache.lookUp q.lutIndex q.textureOffset with
  | some _ => []
  | none => [.cacheModel ctx q.lutIndex q.textureOffset q.words]

@[simp] theorem countP_isClear_obtainCalls (x : Drawing β τ) (ctx : DecodeContext)
    (q : ModelRequest) : (x.obtainCalls ctx q).countP CacheCall.isClear = 0 := by
  unfold obtainCalls
  split <;> rfl

def roomCalls (viewport : Option Viewport) : List (CacheCall β τ) :=
  .clear :: viewport.toList.map .appendViewport

@[simp] theorem countP_isClear_roomCalls (viewport : Option Viewport) :
    (roomCalls viewport : List (CacheCall β τ)).countP CacheCall.isClear = 1 := by
  cases viewport <;> rfl

variable [Backend β] [TextureManager τ]

def attemptCalls (x : Drawing β τ) (ctx : DecodeContext) (q : ModelRequest) (t : Transform) :
    List (CacheCall β τ) :=
  x.obtainCalls ctx q ++
    match (x.obtain ctx q).value.1 with
    | .ok id => [.appendModel id t]
    | .error _ => []

/-- The calls that a draw makes of its cache. -/
def runCalls (x : Drawing β τ) (viewport : Option Viewport) (ctx : DecodeContext)
    (q : ModelRequest) (t : Transform) : List (CacheCall β τ) :=
  x.attemptCalls ctx q t ++
    match (x.attempt ctx q t).value with
    | (.ok _, _) => []
    | (.error e, y) =>
      if e.isRecoverable then
        roomCalls viewport ++
          match (y.makeRoom q.source viewport).value with
          | (.ok (), z) => z.attemptCalls ctx q t
          | (.error _, _) => []
      else []

variable {x y : Drawing β τ} {viewport : Option Viewport} {ctx : DecodeContext}
  {q : ModelRequest} {t : Transform}

theorem attemptCalls_of_ok {id : ModelId} (h : (x.obtain ctx q).value = (.ok id, y)) :
    x.attemptCalls ctx q t = x.obtainCalls ctx q ++ [.appendModel id t] := by
  rw [attemptCalls, h]

theorem attemptCalls_of_error {e : RenderError} (h : (x.obtain ctx q).value = (.error e, y)) :
    x.attemptCalls ctx q t = x.obtainCalls ctx q := by
  rw [attemptCalls, h, List.append_nil]

/-- A draw that is not tried again makes the calls of one attempt. -/
theorem runCalls_of_attempt
    (hfinal : ∀ e y, (x.attempt ctx q t).value = (.error e, y) → e.isRecoverable = false) :
    x.runCalls viewport ctx q t = x.attemptCalls ctx q t := by
  unfold runCalls
  rcases hattempt : (x.attempt ctx q t).value with ⟨answer, y⟩
  cases answer with
  | ok id => exact List.append_nil _
  | error e =>
      dsimp only
      rw [hfinal e y hattempt, if_neg (by simp), List.append_nil]

theorem runCalls_of_makeRoom {e : RenderError} {z : Drawing β τ}
    (hattempt : (x.attempt ctx q t).value = (.error e, y)) (hrecoverable : e.isRecoverable = true)
    (hroom : (y.makeRoom q.source viewport).value = (.ok (), z)) :
    x.runCalls viewport ctx q t =
      x.attemptCalls ctx q t ++ (roomCalls viewport ++ z.attemptCalls ctx q t) := by
  unfold runCalls
  rw [hattempt]
  dsimp only
  rw [if_pos hrecoverable, hroom]

/-- There may be no room for the viewport, and then there is no second attempt. -/
theorem runCalls_of_makeRoom_error {e e' : RenderError} {z : Drawing β τ}
    (hattempt : (x.attempt ctx q t).value = (.error e, y)) (hrecoverable : e.isRecoverable = true)
    (hroom : (y.makeRoom q.source viewport).value = (.error e', z)) :
    x.runCalls viewport ctx q t = x.attemptCalls ctx q t ++ roomCalls viewport := by
  unfold runCalls
  rw [hattempt]
  dsimp only
  rw [if_pos hrecoverable, hroom, List.append_nil]

/-! ## Clears -/

@[simp] theorem countP_isClear_attemptCalls (x : Drawing β τ) (ctx : DecodeContext)
    (q : ModelRequest) (t : Transform) : (x.attemptCalls ctx q t).countP CacheCall.isClear = 0 := by
  unfold attemptCalls
  split <;> simp [CacheCall.isClear]

/-- A draw clears its cache once at most. -/
theorem countP_isClear_runCalls_le (x : Drawing β τ) (viewport : Option Viewport)
    (ctx : DecodeContext) (q : ModelRequest) (t : Transform) :
    (x.runCalls viewport ctx q t).countP CacheCall.isClear ≤ 1 := by
  rcases x.run_cases viewport ctx q t with ⟨-, hfinal⟩ | ⟨e, y, hfirst, hrecoverable, hretry⟩
  · simp [runCalls_of_attempt hfinal]
  · rcases hretry with ⟨e', z, hroom, -⟩ | ⟨z, hroom, -⟩
    · simp [runCalls_of_makeRoom_error hfirst hrecoverable hroom]
    · simp [runCalls_of_makeRoom hfirst hrecoverable hroom]

end Drawing

end PolygonRenderer
