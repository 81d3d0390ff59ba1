import PolygonRenderer.Proofs.Renderer.Outcomes

/-!
# Runs of a renderer

`Renderer.run` makes any calls on a renderer, in any order and on any backend.
Each draw comes with the host as it is found then, so anything may happen to the
host between two calls.

What draws do to a cache comes down to four changes. `Drawing.Keeps` asks of a
property of caches that it outlasts these, and so it outlasts every draw. The
property may refer to a record of what has been drawn, which starts over when the
cache is cleared.
-/

namespace PolygonRenderer

namespace Drawing

variable {β τ δ : Type} [Backend β] [TextureManager τ]

/-- What an answer adds to a record of draws. -/
def noted (note : ModelId → δ) : Except RenderError ModelId → List δ
  | .ok id => [note id]
  | .error _ => []

/-- No step of a draw breaks the property: caching the model, appending it, and
clearing the cache, after which the record is empty. -/
structure Keeps (β τ : Type) [Backend β] [TextureManager τ] (P : List δ → ModelCache → Prop)
    (note : ModelId → δ) (viewport : Option Viewport) (ctx : DecodeContext) (q : ModelRequest)
    (t : Transform) : Prop where
  cacheModel : ∀ {live : List δ} {c c' : ModelCache} {host host' : Host β τ}
    {answer : Except RenderError ModelId}, P live c →
    (c.cacheModel host ctx q.lutIndex q.textureOffset q.words).value = (answer, c', host') →
    P live c'
  appendModel : ∀ {live : List δ} {c c' : ModelCache} {id : ModelId}, P live c →
    c.appendModel id t = .ok c' → P (live ++ [note id]) c'
  makeRoom : ∀ {live : List δ} {x y : Drawing β τ} {answer : Except RenderError Unit},
    P live x.cache → (x.makeRoom q.source viewport).value = (answer, y) → P [] y.cache

namespace Keeps

variable {P : List δ → ModelCache → Prop} {note : ModelId → δ} {viewport : Option Viewport}
  {ctx : DecodeContext} {q : ModelRequest} {t : Transform} {live : List δ} {x y : Drawing β τ}
  {answer : Except RenderError ModelId}

theorem obtain (hkeeps : Keeps β τ P note viewport ctx q t) (h : P live x.cache)
    (hvalue : (x.obtain ctx q).value = (answer, y)) : P live y.cache := by
  obtain ⟨stats, -, ⟨id, -, hhit⟩ | ⟨answer', c, host, hcache, hmiss⟩⟩ := x.obtain_cases ctx q
  · rw [hhit] at hvalue
    cases hvalue
    exact h
  · rw [hmiss] at hvalue
    cases hvalue
    exact hkeeps.cacheModel h hcache

theorem attempt (hkeeps : Keeps β τ P note viewport ctx q t) (h : P live x.cache)
    (hvalue : (x.attempt ctx q t).value = (answer, y)) : P (live ++ noted note answer) y.cache := by
  rcases x.attempt_cases ctx q t with
    ⟨e, z, hobtain, hattempt⟩ | ⟨id, z, hobtain, ⟨e, -, hattempt⟩ | ⟨c, happend, hattempt⟩⟩
  · rw [hattempt] at hvalue
    cases hvalue
    rw [noted, List.append_nil]
    exact hkeeps.obtain h hobtain
  · rw [hattempt] at hvalue
    cases hvalue
    rw [noted, List.append_nil]
    exact hkeeps.obtain h hobtain
  · rw [hattempt] at hvalue
    cases hvalue
    exact hkeeps.appendModel (hkeeps.obtain h hobtain) happend

/-- The record goes on for as long as the counter tells of no clear. -/
theorem run (hkeeps : Keeps β τ P note viewport ctx q t) (h : P live x.cache)
    (hvalue : (x.run viewport ctx q t).value = (answer, y)) :
    P ((if y.stats.clears q.source = x.stats.clears q.source then live else []) ++
      noted note answer) y.cache := by
  rcases x.run_cases viewport ctx q t with ⟨hrun, -⟩ | ⟨e, z, hfirst, -, hretry⟩
  · have hattempt := hrun.symm.trans hvalue
    rw [if_pos (clears_of_attempt hattempt q.source)]
    exact hkeeps.attempt h hattempt
  · have hkept := hkeeps.attempt h hfirst
    have hclears := clears_of_attempt hfirst q.source
    rcases hretry with ⟨e', w, hroom, hrun⟩ | ⟨w, hroom, hrun⟩
    · have hcleared := clears_of_makeRoom hroom
      rw [hrun] at hvalue
      cases hvalue
      rw [if_neg (by omega), noted, List.append_nil]
      exact hkeeps.makeRoom hkept hroom
    · -- attempts leave the counter alone, so it is one higher and the record starts over
      have hcleared := clears_of_makeRoom hroom
      have hattempt := hrun.symm.trans hvalue
      have hclears' := clears_of_attempt hattempt q.source
      rw [if_neg (by omega)]
      exact hkeeps.attempt (hkeeps.makeRoom hkept hroom) hattempt

end Keeps

end Drawing

inductive RendererCall (β τ : Type) where
  | beginFrame
  | setViewport (v : Viewport)
  | drawModel (host : Host β τ) (q : ModelRequest) (t : Transform)

namespace Renderer

variable {β τ : Type} [Backend β] [TextureManager τ]

def step (r : Renderer) : RendererCall β τ → Renderer
  | .beginFrame => r.beginFrame.value
  | .setViewport v => (r.setViewport v).value.2
  | .drawModel host q t => (r.drawModel host q t).value.2.1

def run (r : Renderer) : List (RendererCall β τ) → Renderer
  | [] => r
  | call :: calls => run (r.step call) calls

theorem run_append (r : Renderer) (calls calls' : List (RendererCall β τ)) :
    r.run (calls ++ calls') = (r.run calls).run calls' := by
  induction calls generalizing r with
  | nil => rfl
  | cons call calls ih => exact ih (r.step call)

theorem step_drawModel {r : Renderer} {host : Host β τ} {q : ModelRequest} {t : Transform}
    {answer : Except RenderError ModelId} {y : Drawing β τ}
    (h : (Drawing.run ⟨r.cache q.source, r.stats, host⟩ r.viewport
      (r.decodeContext host.textures q t) q t).value = (answer, y)) :
    r.step (.drawModel host q t) = { r.setCache q.source y.cache with stats := y.stats } := by
  simp only [step, drawModel_of_run h]

/-- The other cache does not notice a draw. -/
theorem cache_step_drawModel {r : Renderer} {host : Host β τ} {q : ModelRequest} {t : Transform}
    {answer : Except RenderError ModelId} {y : Drawing β τ}
    (h : (Drawing.run ⟨r.cache q.source, r.stats, host⟩ r.viewport
      (r.decodeContext host.textures q t) q t).value = (answer, y)) (source : ModelSource) :
    (r.step (.drawModel host q t)).cache source =
      if source = q.source then y.cache else r.cache source := by
  rw [step_drawModel h]
  by_cases hsource : source = q.source
  · rw [if_pos hsource, hsource]
    exact r.cache_setCache_self q.source y.cache
  · rw [if_neg hsource]
    exact r.cache_setCache_of_ne y.cache hsource

theorem buffer_ne_of_ne {r : Renderer}
    (h : (r.cache .static).buffer ≠ (r.cache .dynamic).buffer) {source other : ModelSource}
    (hne : source ≠ other) : (r.cache source).buffer ≠ (r.cache other).buffer := by
  cases source <;> cases other
  · exact absurd rfl hne
  · exact h
  · exact h.symm
  · exact absurd rfl hne

/-- No call breaks the property of caches. -/
structure Keeps (β τ : Type) [Backend β] [TextureManager τ] (P : ModelCache → Prop) : Prop where
  clearDisplayList : ∀ {c : ModelCache}, P c → P c.clearDisplayList
  cleared : ∀ {c : ModelCache}, P c → P c.cleared
  appendViewport : ∀ {c c' : ModelCache} {v : Viewport}, P c → c.appendViewport v = .ok c' → P c'
  appendModel : ∀ {c c' : ModelCache} {id : ModelId} {t : Transform}, P c →
    c.appendModel id t = .ok c' → P c'
  cacheModel : ∀ {c c' : ModelCache} {host host' : Host β τ} {ctx : DecodeContext}
    {index : UInt32} {offset : UInt16} {words : List UInt32}
    {answer : Except RenderError ModelId}, P c →
    (c.cacheModel host ctx index offset words).value = (answer, c', host') → P c'

/-- A draw does not break it. -/
theorem Keeps.moves {P : ModelCache → Prop} (h : Keeps β τ P) {viewport : Option Viewport}
    {ctx : DecodeContext} {q : ModelRequest} {t : Transform} {x y : Drawing β τ}
    (hmoves : Drawing.Moves viewport ctx q t x y) (hx : P x.cache) : P y.cache := by
  refine hmoves.keeps (P := fun z => P z.cache) hx ?_
  intro z w _ hmove hz
  cases hmove with
  | found => exact hz
  | cached _ hcache => exact h.cacheModel hz hcache
  | appendedModel happend => exact h.appendModel hz happend
  | cleared => exact h.cleared hz
  | appendedViewport happend => exact h.appendViewport hz happend

/-- What holds of both caches and is kept by every call holds after any calls. -/
theorem cache_step {P : ModelSource → ModelCache → Prop} (hkeeps : ∀ source, Keeps β τ (P source))
    {r : Renderer} (h : ∀ source, P source (r.cache source)) (call : RendererCall β τ)
    (source : ModelSource) : P source ((r.step call).cache source) := by
  cases call with
  | beginFrame =>
      cases source with
      | static => exact (hkeeps .static).clearDisplayList (h .static)
      | dynamic => exact (hkeeps .dynamic).cleared (h .dynamic)
  | setViewport v =>
      simp only [step]
      rcases r.setViewport_cases v with he | ⟨c, c', hstatic, hdynamic, hok⟩
      · rw [he]
        exact h source
      · rw [hok]
        cases source with
        | static => exact (hkeeps .static).appendViewport (h .static) hstatic
        | dynamic => exact (hkeeps .dynamic).appendViewport (h .dynamic) hdynamic
  | drawModel host q t =>
      rcases hvalue : (Drawing.run ⟨r.cache q.source, r.stats, host⟩ r.viewport
        (r.decodeContext host.textures q t) q t).value with ⟨answer, y⟩
      rw [cache_step_drawModel hvalue]
      split
      · rename_i hsource
        subst hsource
        exact (hkeeps q.source).moves (.of_run hvalue) (h q.source)
      · exact h source

theorem cache_run {P : ModelSource → ModelCache → Prop} (hkeeps : ∀ source, Keeps β τ (P source))
    {r : Renderer} (h : ∀ source, P source (r.cache source)) (calls : List (RendererCall β τ))
    (source : ModelSource) : P source ((r.run calls).cache source) := by
  induction calls generalizing r with
  | nil => exact h source
  | cons call calls ih => exact ih (cache_step hkeeps h call)

end Renderer

end PolygonRenderer
