import PolygonRenderer.Proofs.ModelCache.Hosts
import PolygonRenderer.Proofs.Renderer.Frame

/-!
# Independence of the two caches

Draws from both sources may be made in any order: each source gets the same answers, and
the renderer, the buffers and the references that were taken are the same in the end as
if all static models had been drawn before all dynamic ones.

A draw depends on nothing but the view of its own source (`FrameSession.view`), and
leaves that of the other source alone. What both write to, the counters and the decoded
textures, is only ever added to. So the draws of a source go on in a mixed run as they do
when they are made alone (`FrameSession.Splits`).
-/

namespace PolygonRenderer

namespace FrameStats

instance : Add FrameStats where
  add s k :=
    ⟨s.modelsCached + k.modelsCached, s.cacheHits + k.cacheHits,
      s.polygonsInserted + k.polygonsInserted, s.staticClears + k.staticClears,
      s.dynamicClears + k.dynamicClears⟩

theorem add_def (s k : FrameStats) :
    s + k = ⟨s.modelsCached + k.modelsCached, s.cacheHits + k.cacheHits,
      s.polygonsInserted + k.polygonsInserted, s.staticClears + k.staticClears,
      s.dynamicClears + k.dynamicClears⟩ := rfl

theorem add_assoc (s k k' : FrameStats) : s + k + k' = s + (k + k') := by
  simp only [add_def, Nat.add_assoc]

theorem add_right_comm (s k k' : FrameStats) : s + k + k' = s + k' + k := by
  simp only [add_def, Nat.add_right_comm]

theorem add_right_cancel {s s' k : FrameStats} (h : s + k = s' + k) : s = s' := by
  cases s
  cases s'
  simpa only [add_def, mk.injEq, Nat.add_right_cancel_iff] using h

theorem countClear_add (s k : FrameStats) (source : ModelSource) :
    (s + k).countClear source = s + k.countClear source := by
  cases source <;> rfl

theorem countMiss_add (s k : FrameStats) (polygons : Nat) (answer : Except RenderError ModelId) :
    (s + k).countMiss polygons answer = s + k.countMiss polygons answer := by
  cases answer <;> simp only [countMiss, add_def, Nat.add_assoc]

end FrameStats

namespace Drawing

variable {β τ : Type}

/-- What comes of making room goes by whether the viewport can be appended. -/
theorem makeRoom_some (x : Drawing β τ) (source : ModelSource) (v : Viewport) :
    (x.makeRoom source (some v)).value =
      match x.cache.cleared.appendViewport v with
      | .ok c => (.ok (), { x.cleared source with cache := c })
      | .error e => (.error e, x.cleared source) := by
  rcases x.makeRoom_cases source (some v) with
    ⟨_, e, ⟨⟩, happend, he⟩ | ⟨hnone, -⟩ | ⟨_, c, ⟨⟩, happend, hok⟩
  · rw [he, happend]
  · cases hnone
  · rw [hok, happend]

/-- Two drawings with the same cache, on related hosts. The same was added to the
counters of both, which started at `k₀` and `k₀'`. -/
structure InStep (source : ModelSource) (buffer : BufferHandle) (R : Host β τ → Host β τ → Prop)
    (k₀ k₀' : FrameStats) (x y : Drawing β τ) : Prop where
  cache : y.cache = x.cache
  belongs : x.cache.Belongs source buffer
  host : R x.host y.host
  stats : ∃ k, x.stats = k₀ + k ∧ y.stats = k₀' + k

namespace InStep

variable {source : ModelSource} {buffer : BufferHandle} {R : Host β τ → Host β τ → Prop}
  {k₀ k₀' : FrameStats} {x y : Drawing β τ}

theorem cleared (h : InStep source buffer R k₀ k₀' x y) :
    InStep source buffer R k₀ k₀' (x.cleared source) (y.cleared source) where
  cache := congrArg ModelCache.cleared h.cache
  belongs := ⟨h.belongs.source, h.belongs.buffer⟩
  host := h.host
  stats := by
    obtain ⟨k, hx, hy⟩ := h.stats
    refine ⟨k.countClear source, ?_, ?_⟩
    · rw [← FrameStats.countClear_add, ← hx]
      rfl
    · rw [← FrameStats.countClear_add, ← hy]
      rfl

/-- Another display list in the cache of both. -/
theorem of_displayList (h : InStep source buffer R k₀ k₀' x y) (l : DisplayList) :
    InStep source buffer R k₀ k₀' { x with cache := { x.cache with displayList := l } }
      { y with cache := { x.cache with displayList := l } } where
  cache := rfl
  belongs := ⟨h.belongs.source, h.belongs.buffer⟩
  host := h.host
  stats := h.stats

theorem makeRoom (h : InStep source buffer R k₀ k₀' x y) (viewport : Option Viewport) :
    ∃ answer x' y', (x.makeRoom source viewport).value = (answer, x') ∧
      (y.makeRoom source viewport).value = (answer, y') ∧ InStep source buffer R k₀ k₀' x' y' := by
  have hcleared := h.cleared
  cases viewport with
  | none => exact ⟨_, _, _, rfl, rfl, hcleared⟩
  | some v =>
      have hsame : y.cache.cleared = x.cache.cleared := hcleared.cache
      rw [makeRoom_some, makeRoom_some, hsame]
      cases happend : x.cache.cleared.appendViewport v with
      | error e => exact ⟨_, _, _, rfl, rfl, hcleared⟩
      | ok c =>
          obtain ⟨l, -, rfl⟩ := ModelCache.appendViewport_ok happend
          exact ⟨_, _, _, rfl, rfl, hcleared.of_displayList l⟩

variable [Backend β] [TextureManager τ]

theorem obtain (hR : Respects source buffer R) (h : InStep source buffer R k₀ k₀' x y)
    (ctx : DecodeContext) (q : ModelRequest) :
    ∃ answer x' y', (x.obtain ctx q).value = (answer, x') ∧ (y.obtain ctx q).value = (answer, y') ∧
      InStep source buffer R k₀ k₀' x' y' := by
  obtain ⟨c, s, host⟩ := x
  obtain ⟨c', s', host'⟩ := y
  obtain ⟨rfl, hbelongs, hhost, k, hs, hs'⟩ := h
  dsimp only at hbelongs hhost hs hs'
  subst hs hs'
  cases hfound : c'.lookUp q.lutIndex q.textureOffset with
  | some id =>
      exact ⟨_, _, _, obtain_of_found hfound ctx, obtain_of_found hfound ctx, rfl, hbelongs, hhost,
        { k with cacheHits := k.cacheHits + 1 }, rfl, rfl⟩
  | none =>
      obtain ⟨answer, c₁, host₁, host₁', hcache, hcache', hbelongs₁, hhost₁⟩ :=
        ModelCache.cacheModel_respects hR hbelongs hhost ctx q.lutIndex q.textureOffset q.words
      exact ⟨_, _, _, obtain_of_missing hfound hcache, obtain_of_missing hfound hcache', rfl,
        hbelongs₁, hhost₁, _, FrameStats.countMiss_add .., FrameStats.countMiss_add ..⟩

theorem attempt (hR : Respects source buffer R) (h : InStep source buffer R k₀ k₀' x y)
    (ctx : DecodeContext) (q : ModelRequest) (t : Transform) :
    ∃ answer x' y', (x.attempt ctx q t).value = (answer, x') ∧
      (y.attempt ctx q t).value = (answer, y') ∧ InStep source buffer R k₀ k₀' x' y' := by
  obtain ⟨answer, x', y', hx, hy, h'⟩ := h.obtain hR ctx q
  unfold Drawing.attempt
  rw [Logged.value_bind, Logged.value_bind, hx, hy]
  cases answer with
  | error e => exact ⟨_, _, _, rfl, rfl, h'⟩
  | ok id =>
      dsimp only
      rw [h'.cache]
      cases happend : x'.cache.appendModel id t with
      | error e => exact ⟨_, _, _, rfl, rfl, h'⟩
      | ok c =>
          obtain ⟨m, l, -, -, rfl⟩ := ModelCache.appendModel_ok happend
          exact ⟨_, _, _, rfl, rfl, h'.of_displayList l⟩

theorem run (hR : Respects source buffer R) (h : InStep source buffer R k₀ k₀' x y)
    (viewport : Option Viewport) (ctx : DecodeContext) {q : ModelRequest}
    (hq : q.source = source) (t : Transform) :
    ∃ answer x' y', (x.run viewport ctx q t).value = (answer, x') ∧
      (y.run viewport ctx q t).value = (answer, y') ∧ InStep source buffer R k₀ k₀' x' y' := by
  obtain ⟨answer, x', y', hx, hy, h'⟩ := h.attempt hR ctx q t
  unfold Drawing.run
  rw [Logged.value_bind, Logged.value_bind, hx, hy]
  cases answer with
  | ok id => exact ⟨_, _, _, rfl, rfl, h'⟩
  | error e =>
      dsimp only
      split
      · obtain ⟨answer, x'', y'', hx', hy', h''⟩ := h'.makeRoom viewport
        simp only [Logged.value_bind, hq, hx', hy']
        cases answer with
        | error e' => exact ⟨_, _, _, rfl, rfl, h''⟩
        | ok => exact h''.attempt hR ctx q t
      · exact ⟨_, _, _, rfl, rfl, h'⟩

end InStep

end Drawing

theorem Renderer.eq_of_cache {r r' : Renderer} (hconfig : r.config = r'.config)
    (hcache : ∀ source, r.cache source = r'.cache source) (hviewport : r.viewport = r'.viewport)
    (hstats : r.stats = r'.stats) : r = r' := by
  have hstatic := hcache .static
  have hdynamic := hcache .dynamic
  cases r
  cases r'
  rw [Renderer.mk.injEq]
  exact ⟨hconfig, hstatic, hdynamic, hviewport, hstats⟩

theorem Renderer.keeps_belongs {β τ : Type} [Backend β] [TextureManager τ] (source : ModelSource)
    (buffer : BufferHandle) : Keeps β τ (ModelCache.Belongs source buffer) where
  clearDisplayList h := ⟨h.source, h.buffer⟩
  cleared h := ⟨h.source, h.buffer⟩
  appendViewport h happend := by
    obtain ⟨l, -, rfl⟩ := ModelCache.appendViewport_ok happend
    exact ⟨h.source, h.buffer⟩
  appendModel h happend := by
    obtain ⟨m, l, -, -, rfl⟩ := ModelCache.appendModel_ok happend
    exact ⟨h.source, h.buffer⟩
  cacheModel {c c' host host' ctx index offset words answer} h hvalue := by
    have hbelongs := h.cacheModel host ctx index offset words
    rw [hvalue] at hbelongs
    exact hbelongs

namespace Host

variable {source : ModelSource} {buffer : BufferHandle}

/-- From `a₀` to `a` and from `b₀` to `b`, the same has happened, as far as the cache for a
source can tell or do. -/
structure InStep (source : ModelSource) (buffer : BufferHandle)
    (a₀ b₀ a b : Host Recorder TextureLog) : Prop where
  memory : b.backend.buffer? buffer = a.backend.buffer? buffer
  maxRefs : b.textures.maxRefs = a.textures.maxRefs
  sheets : b.textures.sheets = a.textures.sheets
  refs : source = .static → b.textures.refs = a.textures.refs
  decoded : ∃ textures, a.textures.decoded = a₀.textures.decoded ++ textures ∧
    b.textures.decoded = b₀.textures.decoded ++ textures

theorem respects_inStep (a₀ b₀ : Host Recorder TextureLog) :
    Respects source buffer (InStep source buffer a₀ b₀) where
  upload offset data h := { h with memory := Recorder.buffer?_upload_congr h.memory offset data }
  decode texture h := by
    obtain ⟨textures, ha, hb⟩ := h.decoded
    refine { h with decoded := ⟨textures ++ [texture], ?_, ?_⟩ }
    · rw [← List.append_assoc, ← ha]
      rfl
    · rw [← List.append_assoc, ← hb]
      rfl
  addRef hsource a b texture h := by
    obtain ⟨htaken, hrefs⟩ := TextureLog.addRef_congr (h.refs hsource) h.maxRefs texture
    refine ⟨htaken, h.memory, ?_, ?_, fun _ => hrefs, ?_⟩
    · exact (b.textures.maxRefs_addRef texture).trans
        (h.maxRefs.trans (a.textures.maxRefs_addRef texture).symm)
    · exact (b.textures.sheets_addRef texture).trans
        (h.sheets.trans (a.textures.sheets_addRef texture).symm)
    · obtain ⟨textures, ha, hb⟩ := h.decoded
      exact ⟨textures, (a.textures.decoded_addRef texture).trans ha,
        (b.textures.decoded_addRef texture).trans hb⟩

/-- Nothing was changed but what the cache for a source may change. -/
structure IsConfined (source : ModelSource) (buffer : BufferHandle)
    (a₀ a : Host Recorder TextureLog) : Prop where
  memory : ∀ other, other ≠ buffer → a.backend.buffer? other = a₀.backend.buffer? other
  maxRefs : a.textures.maxRefs = a₀.textures.maxRefs
  sheets : a.textures.sheets = a₀.textures.sheets
  refs : source = .dynamic → a.textures.refs = a₀.textures.refs

theorem respects_isConfined (a₀ : Host Recorder TextureLog) :
    Respects source buffer fun a b => a = b ∧ IsConfined source buffer a₀ a :=
  respects_of_kept
    (fun {a} offset data h =>
      { h with
        memory := fun other hne =>
          (Recorder.buffer?_upload_of_ne a.backend offset data hne).trans (h.memory other hne) })
    (fun _ h => ⟨h.memory, h.maxRefs, h.sheets, h.refs⟩)
    (fun hsource {a} texture h =>
      { memory := h.memory
        maxRefs := (a.textures.maxRefs_addRef texture).trans h.maxRefs
        sheets := (a.textures.sheets_addRef texture).trans h.sheets
        refs := fun hdynamic => nomatch hsource.symm.trans hdynamic })

end Host

/-- What a draw depends on, for one source. -/
structure SourceView where
  cache : ModelCache
  viewport : Option Viewport
  config : Config
  /-- What is in the buffer of the cache. -/
  memory : Option Memory
  maxRefs : Nat
  sheets : SheetTable
  /-- The references that were taken, which matter to static models only. -/
  refs : List TextureRef

namespace FrameSession

def view (s : FrameSession TextureLog) (source : ModelSource) : SourceView :=
  { cache := s.renderer.cache source
    viewport := s.renderer.viewport
    config := s.renderer.config
    memory := s.host.backend.buffer? (s.renderer.cache source).buffer
    maxRefs := s.host.textures.maxRefs
    sheets := s.host.textures.sheets
    refs :=
      match source with
      | .static => s.host.textures.refs
      | .dynamic => [] }

/-- Each cache is for its source, and has a buffer of its own. -/
structure IsSeparate {τ : Type} (s : FrameSession τ) : Prop where
  source : ∀ source, (s.renderer.cache source).source = source
  buffer : (s.renderer.cache .static).buffer ≠ (s.renderer.cache .dynamic).buffer

variable {s s' : FrameSession TextureLog} {d : DrawCall} {source : ModelSource}

theorem view_step_self {answer : Except RenderError ModelId} {y : Drawing Recorder TextureLog}
    (h : (Drawing.run ⟨s.renderer.cache d.request.source, s.renderer.stats, s.host⟩
      s.renderer.viewport (s.renderer.decodeContext s.host.textures d.request d.transform)
      d.request d.transform).value = (answer, y)) :
    (s.step (.drawModel d)).view d.request.source =
      { s.view d.request.source with
        cache := y.cache
        memory := y.host.backend.buffer? y.cache.buffer
        maxRefs := y.host.textures.maxRefs
        sheets := y.host.textures.sheets
        refs :=
          match d.request.source with
          | .static => y.host.textures.refs
          | .dynamic => [] } := by
  rw [(step_drawModel h).2]
  cases d.request.source <;> rfl

/-- A draw goes by the view of its source alone. What it adds to the counters and to the
decoded textures is the same, whatever there was before. -/
theorem drawModel_of_view (hview : s'.view d.request.source = s.view d.request.source)
    (hs : s.IsSeparate) :
    s'.answer d = s.answer d ∧
      (s'.step (.drawModel d)).view d.request.source =
        (s.step (.drawModel d)).view d.request.source ∧
      (∃ k, (s.step (.drawModel d)).renderer.stats = s.renderer.stats + k ∧
        (s'.step (.drawModel d)).renderer.stats = s'.renderer.stats + k) ∧
      ∃ textures, (s.step (.drawModel d)).host.textures.decoded =
          s.host.textures.decoded ++ textures ∧
        (s'.step (.drawModel d)).host.textures.decoded =
          s'.host.textures.decoded ++ textures := by
  have hfields := hview
  simp only [view, SourceView.mk.injEq] at hfields
  obtain ⟨hcache, hviewport, hconfig, hmemory, hmaxRefs, hsheets, hrefs⟩ := hfields
  rw [hcache] at hmemory
  have hctx : s'.renderer.decodeContext s'.host.textures d.request d.transform =
      s.renderer.decodeContext s.host.textures d.request d.transform :=
    Renderer.decodeContext_congr hconfig
      (fun format => congrArg (SheetTable.sheet · format) hsheets) d.request d.transform
  have hstart : Drawing.InStep d.request.source (s.renderer.cache d.request.source).buffer
      (Host.InStep d.request.source (s.renderer.cache d.request.source).buffer s.host s'.host)
      s.renderer.stats s'.renderer.stats
      ⟨s.renderer.cache d.request.source, s.renderer.stats, s.host⟩
      ⟨s'.renderer.cache d.request.source, s'.renderer.stats, s'.host⟩ :=
    { cache := hcache
      belongs := ⟨hs.source d.request.source, rfl⟩
      host :=
        { memory := hmemory
          maxRefs := hmaxRefs
          sheets := hsheets
          refs := by
            intro hstatic
            rw [hstatic] at hrefs
            exact hrefs
          decoded := ⟨[], (List.append_nil _).symm, (List.append_nil _).symm⟩ }
      stats := ⟨.zero, rfl, rfl⟩ }
  obtain ⟨answer, x, y, hx, hy, hend⟩ := hstart.run (Host.respects_inStep s.host s'.host)
    s.renderer.viewport (s.renderer.decodeContext s.host.textures d.request d.transform) rfl
    d.transform
  rw [← hctx, ← hviewport] at hy
  obtain ⟨hanswer, hstep⟩ := step_drawModel hx
  obtain ⟨hanswer', hstep'⟩ := step_drawModel hy
  refine ⟨hanswer'.trans hanswer.symm, ?_, ?_, ?_⟩
  · have hbuffer : y.cache.buffer = (s.renderer.cache d.request.source).buffer := by
      rw [hend.cache, hend.belongs.buffer]
    rw [view_step_self hx, view_step_self hy, hview, hbuffer, hend.belongs.buffer, hend.cache,
      hend.host.memory, hend.host.maxRefs, hend.host.sheets]
    cases hsource : d.request.source with
    | static => rw [hend.host.refs hsource]
    | dynamic => rfl
  · rw [hstep, hstep']
    exact hend.stats
  · rw [hstep, hstep']
    exact hend.host.decoded

/-- A draw leaves the view of the other source alone. -/
theorem view_step_of_ne (hs : s.IsSeparate) (hne : source ≠ d.request.source) :
    (s.step (.drawModel d)).view source = s.view source := by
  have hstart : Drawing.InStep d.request.source (s.renderer.cache d.request.source).buffer
      (fun a b => a = b ∧ Host.IsConfined d.request.source
        (s.renderer.cache d.request.source).buffer s.host a)
      s.renderer.stats s.renderer.stats
      ⟨s.renderer.cache d.request.source, s.renderer.stats, s.host⟩
      ⟨s.renderer.cache d.request.source, s.renderer.stats, s.host⟩ :=
    { cache := rfl
      belongs := ⟨hs.source d.request.source, rfl⟩
      host := ⟨rfl, ⟨fun _ _ => rfl, rfl, rfl, fun _ => rfl⟩⟩
      stats := ⟨.zero, rfl, rfl⟩ }
  obtain ⟨answer, x, y, hx, -, hend⟩ := hstart.run (Host.respects_isConfined s.host)
    s.renderer.viewport (s.renderer.decodeContext s.host.textures d.request d.transform) rfl
    d.transform
  obtain ⟨-, hconfined⟩ := hend.host
  have hbuffer := Renderer.buffer_ne_of_ne hs.buffer hne
  have hcache : ({ s.renderer.setCache d.request.source x.cache with stats := x.stats } :
      Renderer).cache source = s.renderer.cache source :=
    Renderer.cache_setCache_of_ne s.renderer x.cache hne
  have hmemory := (congrArg (x.host.backend.buffer? ·.buffer) hcache).trans
    (hconfined.memory _ hbuffer)
  rw [(step_drawModel hx).2]
  simp only [view, SourceView.mk.injEq]
  refine ⟨hcache, Renderer.viewport_setCache .., Renderer.config_setCache .., hmemory,
    hconfined.maxRefs, hconfined.sheets, ?_⟩
  cases source with
  | dynamic => rfl
  | static =>
      -- the draw is of a dynamic model, for which no reference is taken
      apply hconfined.refs
      cases hd : d.request.source with
      | static => exact absurd hd.symm hne
      | dynamic => rfl

/-! ## Draws in any order -/

/-- Draw models in order. -/
def drawAll (s : FrameSession TextureLog) (ds : List DrawCall) : FrameSession TextureLog :=
  s.run (ds.map .drawModel)

/-- What the draws are answered. -/
def answers (s : FrameSession TextureLog) : List DrawCall →
    List (DrawCall × Except RenderError ModelId)
  | [] => []
  | d :: ds => (d, s.answer d) :: answers (s.step (.drawModel d)) ds

@[simp] theorem drawAll_cons (s : FrameSession TextureLog) (d : DrawCall) (ds : List DrawCall) :
    s.drawAll (d :: ds) = (s.step (.drawModel d)).drawAll ds := rfl

/-- The session `s` has come from `s₀` by draws, and for each source there is a session to
which only those of the source were made. -/
structure Splits (s₀ s : FrameSession TextureLog) (alone : ModelSource → FrameSession TextureLog) :
    Prop where
  view : ∀ source, (alone source).view source = s.view source
  stats : s.renderer.stats + s₀.renderer.stats =
    (alone .static).renderer.stats + (alone .dynamic).renderer.stats
  decoded : (s.host.textures.decoded ++ s₀.host.textures.decoded).Perm
    ((alone .static).host.textures.decoded ++ (alone .dynamic).host.textures.decoded)

theorem perm_append_right_comm {α : Type} (xs ys zs : List α) :
    (xs ++ ys ++ zs).Perm (xs ++ zs ++ ys) := by
  rw [List.append_assoc, List.append_assoc]
  exact List.perm_append_comm.append_left xs

theorem belongs_run {τ : Type} [TextureManager τ] {s : FrameSession τ}
    {buffer : ModelSource → BufferHandle}
    (h : ∀ source, (s.renderer.cache source).Belongs source (buffer source))
    (calls : List (FrameCall τ)) (source : ModelSource) :
    ((s.run calls).renderer.cache source).Belongs source (buffer source) := by
  obtain ⟨calls', hcalls'⟩ := exists_renderer_run s calls
  rw [hcalls']
  exact Renderer.cache_run (fun _ => Renderer.keeps_belongs _ _) h calls' source

theorem isSeparate_run {τ : Type} [TextureManager τ] {s : FrameSession τ} (h : s.IsSeparate)
    (calls : List (FrameCall τ)) : (s.run calls).IsSeparate := by
  have hbelongs := belongs_run (fun source => ⟨h.source source, rfl⟩) calls
  refine ⟨fun source => (hbelongs source).source, ?_⟩
  rw [(hbelongs .static).buffer, (hbelongs .dynamic).buffer]
  exact h.buffer

variable {s₀ : FrameSession TextureLog} {alone : ModelSource → FrameSession TextureLog}

theorem splits_step (hs : s.IsSeparate) (h : Splits s₀ s alone) (d : DrawCall) :
    (alone d.request.source).answer d = s.answer d ∧
      Splits s₀ (s.step (.drawModel d)) fun source =>
        if d.request.source = source then (alone source).step (.drawModel d) else alone source := by
  obtain ⟨hanswer, hview, ⟨k, hk, hk'⟩, textures, ht, ht'⟩ :=
    drawModel_of_view (h.view d.request.source) hs
  refine ⟨hanswer, ?_, ?_, ?_⟩
  · intro source
    by_cases hsource : d.request.source = source
    · subst hsource
      rw [if_pos rfl]
      exact hview
    · rw [if_neg hsource, h.view, view_step_of_ne hs (Ne.symm hsource)]
  · have hstats := h.stats
    cases hd : d.request.source with
    | static =>
        rw [hd] at hk'
        rw [if_pos rfl, if_neg (by decide), hk, hk', FrameStats.add_right_comm, hstats,
          FrameStats.add_right_comm]
    | dynamic =>
        rw [hd] at hk'
        rw [if_neg (by decide), if_pos rfl, hk, hk', FrameStats.add_right_comm, hstats,
          FrameStats.add_assoc]
  · have hdecoded : (s.host.textures.decoded ++ textures ++ s₀.host.textures.decoded).Perm
        ((alone .static).host.textures.decoded ++ (alone .dynamic).host.textures.decoded ++
          textures) :=
      (perm_append_right_comm ..).trans (h.decoded.append_right textures)
    cases hd : d.request.source with
    | static =>
        rw [hd] at ht'
        rw [if_pos rfl, if_neg (by decide), ht, ht']
        exact hdecoded.trans (perm_append_right_comm ..)
    | dynamic =>
        rw [hd] at ht'
        rw [if_neg (by decide), if_pos rfl, ht, ht', ← List.append_assoc]
        exact hdecoded

/-- In a mixed run, the draws of a source go on as they do when they are made alone. -/
theorem splits_drawAll (hs : s.IsSeparate) (h : Splits s₀ s alone) (ds : List DrawCall) :
    (∀ source, (s.answers ds).filter (·.1.request.source = source) =
        (alone source).answers (ds.filter (·.request.source = source))) ∧
      Splits s₀ (s.drawAll ds) fun source =>
        (alone source).drawAll (ds.filter (·.request.source = source)) := by
  induction ds generalizing s alone with
  | nil => exact ⟨fun _ => rfl, h⟩
  | cons d ds ih =>
      obtain ⟨hanswer, hsplits⟩ := splits_step hs h d
      have hnext : (s.step (.drawModel d)).IsSeparate := isSeparate_run hs [.drawModel d]
      obtain ⟨hanswers, hsplits⟩ := ih hnext hsplits
      refine ⟨?_, ?_⟩
      · intro source
        have hrest := hanswers source
        rw [answers, List.filter_cons, List.filter_cons]
        by_cases hsource : d.request.source = source
        · subst hsource
          simp only [decide_true, if_true, answers] at hrest ⊢
          rw [hrest, hanswer]
        · simp only [hsource, decide_false, if_false] at hrest ⊢
          exact hrest
      · have halone : (fun source => (alone source).drawAll
            ((d :: ds).filter (·.request.source = source))) = fun source =>
              (if d.request.source = source then (alone source).step (.drawModel d)
                else alone source).drawAll (ds.filter (·.request.source = source)) := by
          funext source
          rw [List.filter_cons]
          by_cases hsource : d.request.source = source <;> simp [hsource]
        rw [halone]
        exact hsplits

theorem isSeparate_create {τ : Type} [TextureManager τ] {config : Config} {b b' : Recorder}
    {r : Renderer} (hcreate : (Renderer.create config b).value = (.ok r, b')) (textures : τ) :
    (FrameSession.mk r ⟨b', textures⟩).IsSeparate where
  source source := by
    obtain ⟨buffer, capacity, hcache⟩ := Renderer.cache_of_create hcreate source
    exact congrArg ModelCache.source hcache
  buffer := (Renderer.isServing_create hcreate textures).1

/-- The draws of both sources may be put in any order that keeps the order of each: the
static ones may all be made first, and the dynamic ones after them. Each source gets the
same answers, and the renderer, the contents of both buffers and the references taken are
the same in the end. The same textures were decoded, in another order. -/
theorem drawAll_sorted {config : Config} {b b' : Recorder} {r : Renderer}
    (hcreate : (Renderer.create config b).value = (.ok r, b')) (textures : TextureLog)
    (calls : List (FrameCall TextureLog)) (ds : List DrawCall) :
    let s := (FrameSession.mk r ⟨b', textures⟩).run calls
    let sorted := ds.filter (·.request.source = .static) ++ ds.filter (·.request.source = .dynamic)
    (∀ source, (s.answers ds).filter (·.1.request.source = source) =
        (s.answers sorted).filter (·.1.request.source = source)) ∧
      (s.drawAll ds).renderer = (s.drawAll sorted).renderer ∧
      (∀ source, (s.drawAll ds).host.backend.buffer? (s.renderer.cache source).buffer =
        (s.drawAll sorted).host.backend.buffer? (s.renderer.cache source).buffer) ∧
      (s.drawAll ds).host.textures.refs = (s.drawAll sorted).host.textures.refs ∧
      (s.drawAll ds).host.textures.decoded.Perm (s.drawAll sorted).host.textures.decoded := by
  intro s sorted
  have hs : s.IsSeparate := isSeparate_run (isSeparate_create hcreate textures) calls
  have hstart : Splits s s fun _ => s := ⟨fun _ => rfl, rfl, .refl _⟩
  have hfilter : ∀ source, sorted.filter (·.request.source = source) =
      ds.filter (·.request.source = source) := by
    intro source
    cases source <;> simp +contextual [sorted, List.filter_append, List.filter_filter]
  obtain ⟨hanswers, hsplits⟩ := splits_drawAll hs hstart ds
  obtain ⟨hanswers', hsplits'⟩ := splits_drawAll hs hstart sorted
  simp only [hfilter] at hanswers' hsplits'
  have hview : ∀ source, (s.drawAll ds).view source = (s.drawAll sorted).view source :=
    fun source => (hsplits.view source).symm.trans (hsplits'.view source)
  have hstats : (s.drawAll ds).renderer.stats = (s.drawAll sorted).renderer.stats :=
    FrameStats.add_right_cancel (hsplits.stats.trans hsplits'.stats.symm)
  refine ⟨?_, ?_, ?_, ?_, ?_⟩
  · intro source
    rw [hanswers, hanswers']
  · exact Renderer.eq_of_cache (congrArg SourceView.config (hview .static))
      (fun source => congrArg SourceView.cache (hview source))
      (congrArg SourceView.viewport (hview .static)) hstats
  · intro source
    have hbelongs : ∀ ds : List DrawCall, ((s.drawAll ds).renderer.cache source).Belongs source
        (s.renderer.cache source).buffer :=
      fun ds => belongs_run (fun source => ⟨hs.source source, rfl⟩) (ds.map .drawModel) source
    have hmemory : (s.drawAll ds).host.backend.buffer?
          ((s.drawAll ds).renderer.cache source).buffer =
        (s.drawAll sorted).host.backend.buffer?
          ((s.drawAll sorted).renderer.cache source).buffer :=
      congrArg SourceView.memory (hview source)
    rw [(hbelongs ds).buffer, (hbelongs sorted).buffer] at hmemory
    exact hmemory
  · exact congrArg SourceView.refs (hview .static)
  · exact (List.perm_append_right_iff _).1 (hsplits.decoded.trans hsplits'.decoded.symm)

/-- Two static models in turn clear a cache that has room for one of them, while dynamic
models are drawn in between. -/
theorem drawAll_sorted_of_full_cache :
    let config : Config := ⟨⟨64, 32, 1, 16, 8⟩, ⟨64, 32, 4, 16, 8⟩, .unlessWord4, 1⟩
    let words : List UInt32 := [0, 4, 0, 0, 0, 0, 0x04000001, 1, 2, 3, 4, 5, 6, 7, 8, 9, 10, 11, 12]
    let draw : ModelSource → UInt32 → DrawCall :=
      fun source index => ⟨⟨source, index, 0, 0, 0, words, #[]⟩, .identity⟩
    let ds : List DrawCall :=
      [draw .static 3, draw .dynamic 3, draw .static 5, draw .dynamic 3, draw .static 3]
    let sorted : List DrawCall :=
      [draw .static 3, draw .static 5, draw .static 3, draw .dynamic 3, draw .dynamic 3]
    ∃ r b', (Renderer.create config (Recorder.empty none)).value = (.ok r, b') ∧
      let s := (FrameSession.mk r ⟨b', .empty 16 .origin⟩).run [.setViewport .screen]
      (s.drawAll ds).renderer = (s.drawAll sorted).renderer ∧
        (s.drawAll ds).renderer.stats = ⟨4, 1, 4, 2, 0⟩ ∧
        (s.drawAll ds).host.textures.refs = (s.drawAll sorted).host.textures.refs := by
  intro config words draw ds sorted
  have hstatic : (ModelCache.create config.staticCache .static (Recorder.empty none)).value =
      (.ok _, _) := ModelCache.create_of_granted rfl
  have hcreate : (Renderer.create config (Recorder.empty none)).value = (.ok _, _) :=
    Renderer.create_of_created hstatic (ModelCache.create_of_granted rfl)
  have hsorted : ds.filter (·.request.source = .static) ++
      ds.filter (·.request.source = .dynamic) = sorted := rfl
  obtain ⟨-, hrenderer, -, hrefs, -⟩ :=
    drawAll_sorted hcreate (.empty 16 .origin) [.setViewport .screen] ds
  rw [hsorted] at hrenderer hrefs
  exact ⟨_, _, hcreate, hrenderer, by decide +kernel, hrefs⟩

end FrameSession

end PolygonRenderer
