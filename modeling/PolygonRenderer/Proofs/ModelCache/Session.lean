import PolygonRenderer.Proofs.ModelCache.Outcomes

/-!
# Runs of a model cache

A `CacheSession` is a cache and the host it works with, and `CacheSession.run`
makes any calls on it, in any order. Between two calls anything may happen to
the host.

A client sees the answers only. `CacheHistory` is what can be told from them:
which handle is current, and which models have entered the cache since it was
last cleared.
-/

namespace PolygonRenderer

/-- A call of a model cache, or something that happens to its host. -/
inductive CacheCall (β τ : Type) where
  | beginModel
  | insertPolygon (h : StagingHandle) (p : Polygon Float32) (ctx : DecodeContext)
  | requestTexture (h : StagingHandle) (texture : TextureRef)
  | endModel (h : StagingHandle) (index : UInt32) (offset : UInt16)
  | abandon (h : StagingHandle)
  | cacheModel (ctx : DecodeContext) (index : UInt32) (offset : UInt16) (words : List UInt32)
  | appendModel (id : ModelId) (t : Transform)
  | appendViewport (v : Viewport)
  | clearDisplayList
  | clear
  /-- Others leave the host like this. -/
  | elsewhere (host : Host β τ)

/-- The handle that a call is made with. -/
def CacheCall.handle? {β τ : Type} : CacheCall β τ → Option StagingHandle
  | insertPolygon h _ _ => some h
  | requestTexture h _ => some h
  | endModel h _ _ => some h
  | abandon h => some h
  | _ => none

inductive CacheAnswer where
  | begun (h : StagingHandle)
  | cached (id : ModelId)
  | done
  | failed (e : RenderError)
deriving DecidableEq, Repr

structure CacheSession (β τ : Type) where
  cache : ModelCache
  host : Host β τ

namespace CacheSession

variable {β τ : Type} [Backend β] [TextureManager τ]

/-- Make a call. -/
def step (s : CacheSession β τ) : CacheCall β τ → CacheAnswer × CacheSession β τ
  | .beginModel =>
    match s.cache.beginModel with
    | .ok (h, c) => (.begun h, { s with cache := c })
    | .error e => (.failed e, s)
  | .insertPolygon h p ctx =>
    match (s.cache.insertPolygon h p ctx).value with
    | (.ok (), c) => (.done, { s with cache := c })
    | (.error e, c) => (.failed e, { s with cache := c })
  | .requestTexture h texture =>
    match s.cache.requestTexture h texture s.host.textures with
    | .ok (c, textures) => (.done, ⟨c, { s.host with textures := textures }⟩)
    | .error e => (.failed e, s)
  | .endModel h index offset =>
    match (s.cache.endModel s.host.backend h index offset).value with
    | (.ok id, c, backend) => (.cached id, ⟨c, { s.host with backend := backend }⟩)
    | (.error e, c, backend) => (.failed e, ⟨c, { s.host with backend := backend }⟩)
  | .abandon h => (.done, { s with cache := s.cache.abandon h })
  | .cacheModel ctx index offset words =>
    match (s.cache.cacheModel s.host ctx index offset words).value with
    | (.ok id, c, host) => (.cached id, ⟨c, host⟩)
    | (.error e, c, host) => (.failed e, ⟨c, host⟩)
  | .appendModel id t =>
    match s.cache.appendModel id t with
    | .ok c => (.done, { s with cache := c })
    | .error e => (.failed e, s)
  | .appendViewport v =>
    match s.cache.appendViewport v with
    | .ok c => (.done, { s with cache := c })
    | .error e => (.failed e, s)
  | .clearDisplayList => (.done, { s with cache := s.cache.clearDisplayList })
  | .clear => (.done, { s with cache := s.cache.clear.value })
  | .elsewhere host => (.done, { s with host := host })

/-- Make calls in order. -/
def run (s : CacheSession β τ) : List (CacheCall β τ) → CacheSession β τ
  | [] => s
  | call :: calls => run (s.step call).2 calls

/-- What a call can do: what it answers, and what it leaves behind. A call that is
refused changes nothing, except that ending a model drops it. -/
inductive Steps (s : CacheSession β τ) : CacheCall β τ → CacheAnswer → CacheSession β τ → Prop
  | refused {call : CacheCall β τ} {e : RenderError}
      (hended : ∀ h index offset, call = .endModel h index offset → s.cache.accepts h = false) :
      Steps s call (.failed e) s
  | begun (hslot : s.cache.staging.slot = none) (hroom : s.cache.models.size < s.cache.maxModels) :
      Steps s .beginModel (.begun ⟨s.cache.models.size, s.cache.cursor⟩)
        { s with cache := s.cache.begun }
  | inserted {h : StagingHandle} {p : Polygon Float32} {ctx : DecodeContext} {c : ModelCache}
      (haccepts : s.cache.accepts h = true)
      (hstages : s.cache.StagesOn c (ModelCache.passVertices ctx [p])) :
      Steps s (.insertPolygon h p ctx) .done { s with cache := c }
  | requested {h : StagingHandle} {texture : TextureRef} {c : ModelCache} {textures : τ}
      (haccepts : s.cache.accepts h = true) (hserviced : Serviced s.host.textures textures)
      (hstages : s.cache.StagesOn c fun _ => []) :
      Steps s (.requestTexture h texture) .done ⟨c, { s.host with textures := textures }⟩
  | ended {h : StagingHandle} {index : UInt32} {offset : UInt16}
      (haccepts : s.cache.accepts h = true) (hindex : index.toNat < s.cache.lut.size) :
      Steps s (.endModel h index offset) (.cached ⟨h.slot⟩)
        ⟨s.cache.commit h index offset,
          { s.host with backend := s.cache.uploaded h s.host.backend }⟩
  | dropped {h : StagingHandle} {index : UInt32} {offset : UInt16} {e : RenderError}
      (haccepts : s.cache.accepts h = true) :
      Steps s (.endModel h index offset) (.failed e) { s with cache := s.cache.abandon h }
  | abandoned {h : StagingHandle} :
      Steps s (.abandon h) .done { s with cache := s.cache.abandon h }
  | cached {ctx : DecodeContext} {index : UInt32} {offset : UInt16} {words : List UInt32}
      {c : ModelCache} {textures : τ} (hslot : s.cache.staging.slot = none)
      (hroom : s.cache.models.size < s.cache.maxModels)
      (hserviced : Serviced s.host.textures textures)
      (hstages : s.cache.begun.StagesOn c
        (ModelCache.passVertices ctx (ModelCache.modelPolygons ctx words)))
      (hindex : index.toNat < s.cache.lut.size) :
      Steps s (.cacheModel ctx index offset words) (.cached ⟨s.cache.models.size⟩)
        ⟨c.commit ⟨s.cache.models.size, s.cache.cursor⟩ index offset,
          ⟨c.uploaded ⟨s.cache.models.size, s.cache.cursor⟩ s.host.backend, textures⟩⟩
  | uncached {ctx : DecodeContext} {index : UInt32} {offset : UInt16} {words : List UInt32}
      {c : ModelCache} {textures : τ} {ps : List (Polygon Float32)} {e : RenderError}
      (hslot : s.cache.staging.slot = none)
      (hroom : s.cache.models.size < s.cache.maxModels)
      (hserviced : Serviced s.host.textures textures)
      (hstages : s.cache.begun.StagesOn c (ModelCache.passVertices ctx ps)) :
      Steps s (.cacheModel ctx index offset words) (.failed e)
        ⟨c.abandon ⟨s.cache.models.size, s.cache.cursor⟩, { s.host with textures := textures }⟩
  | appendedModel {id : ModelId} {t : Transform} {m : CachedModel} {l : DisplayList}
      (hm : s.cache.model? id = some m) (hl : s.cache.displayList.appendModel m.ranges t = .ok l) :
      Steps s (.appendModel id t) .done { s with cache := { s.cache with displayList := l } }
  | appendedViewport {v : Viewport} {l : DisplayList}
      (hl : s.cache.displayList.appendViewport v = .ok l) :
      Steps s (.appendViewport v) .done { s with cache := { s.cache with displayList := l } }
  | clearedDisplayList :
      Steps s .clearDisplayList .done { s with cache := s.cache.clearDisplayList }
  | cleared : Steps s .clear .done { s with cache := s.cache.cleared }
  | elsewhere {host : Host β τ} : Steps s (.elsewhere host) .done { s with host := host }

/-- There is nothing else that a call can do. -/
theorem steps (s : CacheSession β τ) (call : CacheCall β τ) :
    s.Steps call (s.step call).1 (s.step call).2 := by
  cases call with
  | beginModel =>
      simp only [step]
      rcases ModelCache.beginModel_cases s.cache with ⟨e, he⟩ | ⟨hslot, hroom, hok⟩
      · rw [he]
        exact .refused nofun
      · rw [hok]
        exact .begun hslot hroom
  | insertPolygon h p ctx =>
      simp only [step]
      rcases ModelCache.insertPolygon_cases s.cache h p ctx with
        ⟨e, he⟩ | ⟨haccepts, c, hok, hstages⟩
      · rw [he]
        exact .refused nofun
      · rw [hok]
        exact .inserted haccepts hstages
  | requestTexture h texture =>
      simp only [step]
      rcases ModelCache.requestTexture_cases s.cache h texture s.host.textures with
        ⟨e, he⟩ | ⟨haccepts, c, textures, hok, hserviced, hstages⟩
      · rw [he]
        exact .refused nofun
      · rw [hok]
        exact .requested haccepts hserviced hstages
  | endModel h index offset =>
      simp only [step]
      rcases ModelCache.endModel_cases s.cache s.host.backend h index offset with
        ⟨hrefused, he⟩ | ⟨haccepts, -, he⟩ | ⟨haccepts, hindex, hok⟩
      · rw [he]
        refine .refused ?_
        rintro _ _ _ ⟨⟩
        exact hrefused
      · rw [he]
        exact .dropped haccepts
      · rw [hok]
        exact .ended haccepts hindex
  | abandon h => exact .abandoned
  | cacheModel ctx index offset words =>
      simp only [step]
      rcases ModelCache.cacheModel_cases s.cache s.host ctx index offset words with
        ⟨e, he⟩ | ⟨c, textures, ps, hserviced, hslot, hroom, hstages, hvalue⟩
      · rw [he]
        exact .refused nofun
      · rcases hvalue with ⟨e, he⟩ | ⟨hps, hindex, hok⟩
        · rw [he]
          exact .uncached hslot hroom hserviced hstages
        · rw [hok]
          exact .cached hslot hroom hserviced (hps ▸ hstages) hindex
  | appendModel id t =>
      simp only [step]
      rcases ModelCache.appendModel_cases s.cache id t with ⟨e, he⟩ | ⟨m, l, hm, hl, hok⟩
      · rw [he]
        exact .refused nofun
      · rw [hok]
        exact .appendedModel hm hl
  | appendViewport v =>
      simp only [step]
      rcases ModelCache.appendViewport_cases s.cache v with ⟨e, he⟩ | ⟨l, hl, hok⟩
      · rw [he]
        exact .refused nofun
      · rw [hok]
        exact .appendedViewport hl
  | clearDisplayList => exact .clearedDisplayList
  | clear => exact .cleared
  | elsewhere host => exact .elsewhere

@[simp] theorem run_cons (s : CacheSession β τ) (call : CacheCall β τ)
    (calls : List (CacheCall β τ)) : s.run (call :: calls) = (s.step call).2.run calls := rfl

end CacheSession

/-- What can be told from the answers of a cache. -/
structure CacheHistory where
  /-- The handle of the model that is being staged. -/
  handle : Option StagingHandle
  /-- The models that have entered since the cache was last cleared, oldest
  first, with the index and the texture offset of each. -/
  committed : List (ModelId × UInt32 × UInt16)
deriving DecidableEq, Repr

namespace CacheHistory

variable {β τ : Type}

/-- Nothing has been answered yet. -/
def start : CacheHistory :=
  ⟨none, []⟩

/-- Take note of an answer. -/
def note (k : CacheHistory) : CacheCall β τ → CacheAnswer → CacheHistory
  | .beginModel, .begun h => { k with handle := some h }
  | .endModel _ index offset, .cached id => ⟨none, k.committed ++ [(id, index, offset)]⟩
  | .endModel .., .failed _ => { k with handle := none }
  | .abandon _, .done => { k with handle := none }
  | .cacheModel _ index offset _, .cached id =>
    { k with committed := k.committed ++ [(id, index, offset)] }
  | .clear, .done => start
  | _, _ => k

theorem committed_note_failed (k : CacheHistory) (call : CacheCall β τ) (e : RenderError) :
    (k.note call (.failed e)).committed = k.committed := by
  cases call <;> rfl

/-- A failure counts only where a model was to be ended. -/
theorem note_failed {k : CacheHistory} {call : CacheCall β τ} {e : RenderError}
    (hcall : ∀ h index offset, call ≠ .endModel h index offset) :
    k.note call (.failed e) = k := by
  cases call with
  | endModel h index offset => exact absurd rfl (hcall h index offset)
  | _ => rfl

variable [Backend β] [TextureManager τ]

/-- Take note of all answers of a run. -/
def after (k : CacheHistory) (s : CacheSession β τ) : List (CacheCall β τ) → CacheHistory
  | [] => k
  | call :: calls => after (k.note call (s.step call).1) (s.step call).2 calls

/-- Every call of a run that takes a handle is made with the current one. -/
def IsFollowed (k : CacheHistory) (s : CacheSession β τ) : List (CacheCall β τ) → Prop
  | [] => True
  | call :: calls => (∀ h, call.handle? = some h → k.handle = some h) ∧
      IsFollowed (k.note call (s.step call).1) (s.step call).2 calls

end CacheHistory

end PolygonRenderer
