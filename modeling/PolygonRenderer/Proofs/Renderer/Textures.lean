import PolygonRenderer.Proofs.ModelCache.FirstFailure
import PolygonRenderer.Proofs.ModelCache.Textures
import PolygonRenderer.Proofs.Renderer.Session

/-!
# Textures of a workshop

A `Workshop` is any number of model caches and renderers that share a texture log. Each call
comes with the backend as it is found then, so anything may happen to the backend between two
calls, rendering included.

Whatever is called, the log forgets no reference, and it has those of every model of every
cache. So the textures of static models are all decoded again when they are refreshed.
-/

namespace PolygonRenderer

/-- Caches and renderers that share a log. -/
structure Workshop where
  /-- Caches that belong to no renderer. -/
  caches : List ModelCache
  renderers : List Renderer
  log : TextureLog

inductive WorkshopCall (β : Type) where
  | createCache (backend : β) (limits : CacheLimits) (source : ModelSource)
  | createRenderer (backend : β) (config : Config)
  | cacheModel (i : Nat) (backend : β) (ctx : DecodeContext) (index : UInt32) (offset : UInt16)
      (words : List UInt32)
  | clear (i : Nat)
  | beginFrame (i : Nat)
  | setViewport (i : Nat) (v : Viewport)
  | drawModel (i : Nat) (backend : β) (q : ModelRequest) (t : Transform)
  | refreshTextures (i : Nat)

namespace Workshop

variable {β : Type} [Backend β] {w : Workshop}

/-- Nothing is there but a log. -/
def start (log : TextureLog) : Workshop :=
  ⟨[], [], log⟩

/-- Make a call. Nothing happens if there is no such cache or renderer. -/
def step (w : Workshop) : WorkshopCall β → Workshop
  | .createCache backend limits source =>
    match (ModelCache.create limits source backend).value.1 with
    | .ok c => { w with caches := w.caches ++ [c] }
    | .error _ => w
  | .createRenderer backend config =>
    match (Renderer.create config backend).value.1 with
    | .ok r => { w with renderers := w.renderers ++ [r] }
    | .error _ => w
  | .cacheModel i backend ctx index offset words =>
    match w.caches[i]? with
    | some c =>
      let (_, c, host) := (c.cacheModel (Host.mk backend w.log) ctx index offset words).value
      { w with caches := w.caches.set i c, log := host.textures }
    | none => w
  | .clear i =>
    match w.caches[i]? with
    | some c => { w with caches := w.caches.set i c.clear.value }
    | none => w
  | .beginFrame i =>
    match w.renderers[i]? with
    | some r => { w with renderers := w.renderers.set i r.beginFrame.value }
    | none => w
  | .setViewport i v =>
    match w.renderers[i]? with
    | some r => { w with renderers := w.renderers.set i (r.setViewport v).value.2 }
    | none => w
  | .drawModel i backend q t =>
    match w.renderers[i]? with
    | some r =>
      let (_, r, host) := (r.drawModel (Host.mk backend w.log) q t).value
      { w with renderers := w.renderers.set i r, log := host.textures }
    | none => w
  | .refreshTextures i =>
    match w.renderers[i]? with
    | some r => { w with log := r.refreshTextures w.log }
    | none => w

/-- Make calls in order. -/
def run (w : Workshop) : List (WorkshopCall β) → Workshop
  | [] => w
  | call :: calls => run (w.step call) calls

/-- It has a cache, be it on its own or the cache of a renderer. -/
def Has (w : Workshop) (c : ModelCache) : Prop :=
  c ∈ w.caches ∨ ∃ r ∈ w.renderers, ∃ source, c = r.cache source

end Workshop

/-! ## The log -/

theorem Serviced.foldl_decode {τ : Type} [TextureManager τ] {t t' : τ} (h : Serviced t t')
    (textures : List TextureRef) : Serviced t (textures.foldl TextureManager.decode t') := by
  induction textures generalizing t' with
  | nil => exact h
  | cons texture textures ih => exact ih (h.decode texture)

theorem ModelCache.map_model?_modelIds (c : ModelCache) :
    c.modelIds.map c.model? = c.models.toList.map some := by
  apply List.ext_getElem
  · simp [modelIds]
  · intro i hi hi'
    simp [modelIds, model?]

namespace Renderer

/-- The models of the static cache are gone through from the oldest on. -/
theorem refreshTextures_eq_foldl {τ : Type} [TextureManager τ] (r : Renderer) (textures : τ) :
    r.refreshTextures textures =
      (r.staticCache.models.toList.flatMap (·.textures)).foldl TextureManager.decode textures := by
  have hdecode : (fun textures id => r.staticCache.decodeTextures id textures) =
      fun (textures : τ) id => (r.staticCache.model? id).elim textures fun m =>
        m.textures.foldl TextureManager.decode textures := by
    funext textures id
    unfold ModelCache.decodeTextures
    cases r.staticCache.model? id <;> rfl
  have hfold : r.refreshTextures textures =
      (r.staticCache.modelIds.map r.staticCache.model?).foldl (fun textures m? =>
        m?.elim textures fun m => m.textures.foldl TextureManager.decode textures) textures := by
    rw [refreshTextures, hdecode, List.foldl_map]
  rw [hfold, ModelCache.map_model?_modelIds, List.foldl_map, List.foldl_flatMap]
  rfl

theorem refreshTextures_eq (r : Renderer) (log : TextureLog) :
    r.refreshTextures log = { log with
      decoded := log.decoded ++ r.staticCache.models.toList.flatMap (·.textures) } := by
  rw [refreshTextures_eq_foldl, TextureLog.foldl_decode]

end Renderer

namespace Workshop

variable {β : Type} [Backend β]

/-- No call does more to the log than to ask for references and textures. -/
theorem serviced_step (w : Workshop) (call : WorkshopCall β) :
    Serviced w.log (w.step call).log := by
  cases call with
  | createCache backend limits source =>
      rw [step]
      split <;> exact .refl
  | createRenderer backend config =>
      rw [step]
      split <;> exact .refl
  | cacheModel i backend ctx index offset words =>
      rw [step]
      split
      · exact ModelCache.serviced_cacheModel _ (Host.mk backend w.log) ctx index offset words
      · exact .refl
  | clear i | beginFrame i | setViewport i =>
      rw [step]
      split <;> exact .refl
  | drawModel i backend q t =>
      rw [step]
      split
      · exact Renderer.serviced_drawModel _ (Host.mk backend w.log) q t
      · exact .refl
  | refreshTextures i =>
      rw [step]
      split
      · rw [Renderer.refreshTextures_eq_foldl]
        exact Serviced.foldl_decode .refl _
      · exact .refl

theorem serviced_run (w : Workshop) (calls : List (WorkshopCall β)) :
    Serviced w.log (w.run calls).log := by
  induction calls generalizing w with
  | nil => exact .refl
  | cons call calls ih => exact (w.serviced_step call).trans (ih (w.step call))

end Workshop

/-! ## The caches -/

/-- The log has the textures of all models of a cache. A dynamic cache keeps none. -/
def TextureLog.Knows (log : TextureLog) (c : ModelCache) : Prop :=
  ∀ m ∈ c.models, m.textures.Nodup ∧ m.textures ⊆ log.refs ∧
    (c.source = .dynamic → m.textures = [])

namespace TextureLog.Knows

variable {β : Type} [Backend β] {log log' : TextureLog} {c c' : ModelCache}

theorem mono (h : log.Knows c) (hrefs : log.refs <+: log'.refs) : log'.Knows c := by
  intro m hm
  obtain ⟨hnodup, hknown, hdynamic⟩ := h m hm
  exact ⟨hnodup, fun texture htexture => hrefs.subset (hknown htexture), hdynamic⟩

theorem of_models_eq (h : log.Knows c) (hsource : c'.source = c.source)
    (hmodels : c'.models = c.models) : log.Knows c' := by
  intro m hm
  rw [hsource]
  exact h m (hmodels ▸ hm)

theorem of_models_empty (hmodels : c.models = #[]) : log.Knows c := by
  intro m hm
  rw [hmodels] at hm
  exact absurd hm (Array.not_mem_empty m)

theorem appendViewport (h : log.Knows c) {v : Viewport} (happend : c.appendViewport v = .ok c') :
    log.Knows c' := by
  obtain ⟨l, -, rfl⟩ := ModelCache.appendViewport_ok happend
  exact h

/-- A model that enters has what it asked for and the log took. -/
theorem cacheModel {host host' : Host β TextureLog} (h : host.textures.Knows c)
    {ctx : DecodeContext} {index : UInt32} {offset : UInt16} {words : List UInt32}
    {answer : Except RenderError ModelId}
    (hvalue : (c.cacheModel host ctx index offset words).value = (answer, c', host')) :
    host'.textures.Knows c' := by
  have hserviced := c.serviced_cacheModel host ctx index offset words
  rw [hvalue] at hserviced
  have hold := h.mono (refs_prefix_of_serviced hserviced)
  obtain ⟨hsource, asked, kept, hsettles, ⟨-, hmodels⟩ | ⟨-, -, m, hpush, hm⟩⟩ :=
    ModelCache.settles_cacheModel hvalue
  · exact hold.of_models_eq hsource hmodels
  · intro other hother
    rw [hpush, Array.mem_push] at hother
    rw [hsource]
    rcases hother with hother | rfl
    · exact hold other hother
    · rw [hm]
      cases hsource : c.source with
      | static =>
          rw [hsource] at hsettles
          refine ⟨hsettles.nodup, ?_, nofun⟩
          intro texture hkept
          exact (hsettles.mem_kept.1 hkept).2
      | dynamic =>
          rw [hsource] at hsettles
          obtain ⟨rfl, -⟩ := hsettles
          exact ⟨.nil, List.nil_subset _, fun _ => rfl⟩

/-- Neither does a draw add textures that the log does not have. -/
theorem moves {viewport : Option Viewport} {ctx : DecodeContext} {q : ModelRequest}
    {t : Transform} {x y : Drawing β TextureLog} (h : x.host.textures.Knows x.cache)
    (hmoves : Drawing.Moves viewport ctx q t x y) : y.host.textures.Knows y.cache := by
  refine hmoves.keeps (P := fun z => z.host.textures.Knows z.cache) h ?_
  intro z w _ hmove hz
  cases hmove with
  | found => exact hz
  | cached _ hcache => exact hz.cacheModel hcache
  | appendedModel happend =>
      obtain ⟨m, l, -, -, rfl⟩ := ModelCache.appendModel_ok happend
      exact hz
  | cleared => exact .of_models_empty rfl
  | appendedViewport happend => exact hz.appendViewport happend

theorem drawModel {r r' : Renderer} {host host' : Host β TextureLog} {q : ModelRequest}
    {t : Transform} {answer : Except RenderError ModelId}
    (h : ∀ source, host.textures.Knows (r.cache source))
    (hvalue : (r.drawModel host q t).value = (answer, r', host')) (source : ModelSource) :
    host'.textures.Knows (r'.cache source) := by
  have hserviced := r.serviced_drawModel host q t
  rcases hrun : (Drawing.run ⟨r.cache q.source, r.stats, host⟩ r.viewport
    (r.decodeContext host.textures q t) q t).value with ⟨answer, y⟩
  have hcache := Renderer.cache_step_drawModel hrun source
  rw [Renderer.step_drawModel hrun] at hcache
  rw [Renderer.drawModel_of_run hrun] at hvalue hserviced
  cases hvalue
  rw [hcache]
  split
  · exact moves (h q.source) (.of_run hrun)
  · exact (h source).mono (refs_prefix_of_serviced hserviced)

end TextureLog.Knows

namespace Workshop

variable {β : Type} [Backend β] {w : Workshop}

/-- The log has the textures of all models. -/
structure IsKept (w : Workshop) : Prop where
  caches : ∀ c ∈ w.caches, w.log.Knows c
  renderers : ∀ r ∈ w.renderers, ∀ source, w.log.Knows (r.cache source)

namespace IsKept

theorem start (log : TextureLog) : (Workshop.start log).IsKept where
  caches _ hc := absurd hc List.not_mem_nil
  renderers _ hr := absurd hr List.not_mem_nil

theorem knows (h : w.IsKept) {c : ModelCache} (hc : w.Has c) : w.log.Knows c := by
  rcases hc with hc | ⟨r, hr, source, rfl⟩
  · exact h.caches c hc
  · exact h.renderers r hr source

/-- A cache is put in the place of another, and the log goes on. -/
theorem setCache (h : w.IsKept) (i : Nat) {c : ModelCache} {log : TextureLog}
    (hrefs : w.log.refs <+: log.refs) (hc : log.Knows c) :
    IsKept { w with caches := w.caches.set i c, log := log } where
  caches other hother := by
    rcases List.mem_or_eq_of_mem_set hother with hold | rfl
    · exact (h.caches other hold).mono hrefs
    · exact hc
  renderers r hr source := (h.renderers r hr source).mono hrefs

theorem setRenderer (h : w.IsKept) (i : Nat) {r : Renderer} {log : TextureLog}
    (hrefs : w.log.refs <+: log.refs) (hr : ∀ source, log.Knows (r.cache source)) :
    IsKept { w with renderers := w.renderers.set i r, log := log } where
  caches c hc := (h.caches c hc).mono hrefs
  renderers other hother := by
    rcases List.mem_or_eq_of_mem_set hother with hold | rfl
    · exact fun source => (h.renderers other hold source).mono hrefs
    · exact hr

theorem step (h : w.IsKept) (call : WorkshopCall β) : (w.step call).IsKept := by
  have hrefs := TextureLog.refs_prefix_of_serviced (w.serviced_step call)
  cases call with
  | createCache backend limits source =>
      rw [Workshop.step]
      split
      · rename_i c hcreate
        obtain ⟨-, buffer, capacity, -, rfl, -⟩ := ModelCache.create_ok (Prod.ext hcreate rfl)
        refine ⟨?_, h.renderers⟩
        intro other hother
        rcases List.mem_append.1 hother with hold | hnew
        · exact h.caches other hold
        · rw [List.mem_singleton.1 hnew]
          exact .of_models_empty rfl
      · exact h
  | createRenderer backend config =>
      rw [Workshop.step]
      split
      · rename_i r hcreate
        refine ⟨h.caches, ?_⟩
        intro other hother source
        rcases List.mem_append.1 hother with hold | hnew
        · exact h.renderers other hold source
        · rw [List.mem_singleton.1 hnew]
          obtain ⟨buffer, capacity, hempty⟩ :=
            Renderer.cache_of_create (Prod.ext hcreate rfl) source
          rw [hempty]
          exact .of_models_empty rfl
      · exact h
  | cacheModel i backend ctx index offset words =>
      rw [Workshop.step] at hrefs ⊢
      cases hi : w.caches[i]? with
      | none => exact h
      | some c =>
          rw [hi] at hrefs
          exact h.setCache i hrefs ((h.caches c (List.mem_of_getElem? hi)).cacheModel rfl)
  | clear i =>
      rw [Workshop.step]
      cases w.caches[i]? with
      | none => exact h
      | some c => exact h.setCache i (List.prefix_refl _) (.of_models_empty rfl)
  | beginFrame i =>
      rw [Workshop.step]
      cases hi : w.renderers[i]? with
      | none => exact h
      | some r =>
          refine h.setRenderer i (List.prefix_refl _) ?_
          have hr := h.renderers r (List.mem_of_getElem? hi)
          intro source
          cases source with
          | static => exact hr .static
          | dynamic => exact .of_models_empty rfl
  | setViewport i v =>
      rw [Workshop.step]
      cases hi : w.renderers[i]? with
      | none => exact h
      | some r =>
          refine h.setRenderer i (List.prefix_refl _) ?_
          have hr := h.renderers r (List.mem_of_getElem? hi)
          rcases r.setViewport_cases v with he | ⟨c, c', hstatic, hdynamic, hok⟩
          · rw [he]
            exact hr
          · rw [hok]
            intro source
            cases source with
            | static => exact (hr .static).appendViewport hstatic
            | dynamic => exact (hr .dynamic).appendViewport hdynamic
  | drawModel i backend q t =>
      rw [Workshop.step] at hrefs ⊢
      cases hi : w.renderers[i]? with
      | none => exact h
      | some r =>
          rw [hi] at hrefs
          exact h.setRenderer i hrefs
            (TextureLog.Knows.drawModel (h.renderers r (List.mem_of_getElem? hi)) rfl)
  | refreshTextures i =>
      rw [Workshop.step] at hrefs ⊢
      cases hi : w.renderers[i]? with
      | none => exact h
      | some r =>
          rw [hi] at hrefs
          exact ⟨fun c hc => (h.caches c hc).mono hrefs,
            fun r hr source => (h.renderers r hr source).mono hrefs⟩

theorem run (h : w.IsKept) (calls : List (WorkshopCall β)) : (w.run calls).IsKept := by
  induction calls generalizing w with
  | nil => exact h
  | cons call calls ih => exact ih (h.step call)

end IsKept

/-- The log forgets no reference, takes none twice, and takes no more than it may. It has the
references of all models, which are those that are decoded again when they are refreshed.

A model that enters a static cache has, in order of first appearance, the textures of its
polygons that the log took, and the others are decoded. For a dynamic cache, all are decoded
in order. -/
theorem textures_kept_or_decoded (maxRefs : Nat) (sheets : SheetTable)
    (calls later : List (WorkshopCall β)) :
    let w := (start (.empty maxRefs sheets)).run calls
    w.log.refs.Nodup ∧ w.log.refs.length ≤ maxRefs ∧ w.log.refs <+: (w.run later).log.refs ∧
      (∀ c, w.Has c → w.log.Knows c) ∧
      (∀ r ∈ w.renderers, r.refreshTextures w.log = { w.log with
        decoded := w.log.decoded ++ r.staticCache.models.toList.flatMap (·.textures) }) ∧
      ∀ (c c' : ModelCache) (host host' : Host β TextureLog) (ctx : DecodeContext)
        (index : UInt32) (offset : UInt16) (words : List UInt32)
        (answer : Except RenderError ModelId),
        (c.cacheModel host ctx index offset words).value = (answer, c', host') →
        let log := host.textures
        let log' := host'.textures
        (c.source = .dynamic → log'.refs = log.refs) ∧
          ∀ id, answer = .ok id → ∃ ps d m,
            (Decoder.start words ctx.vertexFactor).Yields (ps.map .ok) d ∧ c'.model? id = some m ∧
            let asked := ModelCache.texturesOf ctx ps
            (c.source = .static →
              m.textures.Nodup ∧ m.textures = (asked.filter (· ∈ log'.refs)).eraseDups ∧
              (∀ texture ∈ m.textures, texture ∈ asked ∧ texture ∈ log'.refs) ∧
              ∃ new, log'.decoded = log.decoded ++ new ∧
                ∀ texture ∈ asked, texture ∈ m.textures ∧ texture ∈ log'.refs ∨ texture ∈ new) ∧
            (c.source = .dynamic →
              m.textures = [] ∧ log'.refs = log.refs ∧ log'.decoded = log.decoded ++ asked) := by
  intro w
  have hserviced : Serviced (.empty maxRefs sheets) w.log :=
    serviced_run (start (.empty maxRefs sheets)) calls
  have hsound := (TextureLog.isSound_empty maxRefs sheets).serviced hserviced
  have hmax : w.log.maxRefs = maxRefs := TextureLog.maxRefs_of_serviced hserviced
  have hkept : w.IsKept := (IsKept.start _).run calls
  refine ⟨hsound.nodup, hmax ▸ hsound.length_le,
    TextureLog.refs_prefix_of_serviced (w.serviced_run later), fun c hc => hkept.knows hc,
    fun r _ => r.refreshTextures_eq w.log, ?_⟩
  intro c c' host host' ctx index offset words answer hvalue log log'
  refine ⟨fun hsource => ModelCache.refs_of_cacheModel hsource hvalue, ?_⟩
  rintro id rfl
  obtain ⟨d, hyields⟩ := (Decoder.start words ctx.vertexFactor).yields_items
  rw [ModelCache.items_of_cacheModel hvalue] at hyields
  obtain ⟨-, asked, kept, hsettles, ⟨⟨e, he⟩, -⟩ | ⟨hid, rfl, m, hpush, rfl⟩⟩ :=
    ModelCache.settles_cacheModel hvalue
  · cases he
  · cases hid
    have hm : c'.model? ⟨c.models.size⟩ = some m := by
      rw [ModelCache.model?, hpush]
      exact Array.getElem?_push_size
    refine ⟨_, d, m, hyields, hm, fun hsource => ?_, fun hsource => ?_⟩
    · rw [hsource] at hsettles
      exact ⟨hsettles.nodup, hsettles.kept, fun texture => hsettles.mem_kept.1,
        hsettles.kept_or_decoded⟩
    · rw [hsource] at hsettles
      obtain ⟨hnone, hlog⟩ := hsettles
      refine ⟨hnone, ?_, ?_⟩
      · change host'.textures.refs = _
        rw [hlog]
      · change host'.textures.decoded = _
        rw [hlog]

/-- Two triangles of different textures, of which a log with room for one reference takes the
first. -/
theorem textures_kept_or_decoded_two_triangles :
    let limits : CacheLimits := ⟨64, 32, 4, 16, 8⟩
    let ctx : DecodeContext := ⟨1, -1, 0, 0, #[], .unlessWord4, .origin⟩
    let words : List UInt32 :=
      [0, 0, 0, 0, 0, 0, 0x04000000, 1, 2, 3, 4, 5, 6, 7, 8, 9, 10, 11, 12,
        0, 4, 0, 0, 0, 1, 0x04000000, 1, 2, 3, 4, 5, 6, 7, 8, 9, 10, 11, 12]
    let c : ModelCache := .empty limits .static ⟨0⟩ 64
    let host : Host Recorder TextureLog := ⟨.empty none, .empty 1 .origin⟩
    ∃ c' host' m, (c.cacheModel host ctx 3 0 words).value = (.ok ⟨0⟩, c', host') ∧
      c'.model? ⟨0⟩ = some m ∧ m.textures.Nodup ∧
      ∃ new, host'.textures.decoded = new ∧
        ∀ texture ∈ [TextureRef.mk 0 0 0 32 32, ⟨0, 0, 32, 32, 32⟩],
          texture ∈ m.textures ∧ texture ∈ host'.textures.refs ∨ texture ∈ new := by
  intro limits ctx words c host
  have hitems : (Decoder.start words ctx.vertexFactor).Yields ([_, _].map .ok) _ :=
    .of_step_yielded rfl rfl (.of_step_yielded rfl rfl (Decoder.yields_of_finished rfl))
  have hfits : ModelCache.firstFailure? c.stagingCapacity c.bufferCapacity c.cursor
      (Decoder.start words ctx.vertexFactor).items = none := by
    rw [← hitems.eq_items]
    decide +kernel
  have hanswer := ModelCache.answer_of_items (c := c) rfl (by decide) host ctx 3 0 words
  rw [hfits] at hanswer
  have hvalue : (c.cacheModel host ctx 3 0 words).value = (.ok ⟨0⟩, _, _) :=
    Prod.ext (hanswer.trans rfl) rfl
  obtain ⟨-, -, -, -, -, hcaches⟩ := textures_kept_or_decoded (β := Recorder) 1 .origin [] []
  obtain ⟨-, henters⟩ := hcaches c _ host _ ctx 3 0 words _ hvalue
  obtain ⟨ps, d, m, hyields, hm, hstatic, -⟩ := henters _ rfl
  obtain ⟨hnodup, -, -, new, hdecoded, hall⟩ := hstatic rfl
  have hps : ps = [_, _] :=
    (List.map_inj_right fun _ _ => Except.ok.inj).1 (hyields.unique hitems)
  have hasked : ModelCache.texturesOf ctx ps = [⟨0, 0, 0, 32, 32⟩, ⟨0, 0, 32, 32, 32⟩] := by
    rw [hps]
    decide +kernel
  rw [hasked] at hall
  exact ⟨_, _, m, hvalue, hm, hnodup, new, hdecoded, hall⟩

end Workshop

end PolygonRenderer
