import PolygonRenderer.Proofs.Renderer.Serving
import PolygonRenderer.Proofs.Renderer.Session

/-!
# Frames of a renderer

A `FrameSession` is a renderer on a recorder, and `FrameSession.run` makes any
calls on it, in any order. Between two calls others may use the host, as long as
they leave the buffers of the renderer alone.

A client can tell what is to be seen from the answers and the counters alone.
`FrameSession.live` is the calls of each source that have been drawn in this
frame since the cache of the source was last cleared. The main statement is that
a frame shows these calls and nothing else, the solid triangles of all before
the blended ones, whatever was cached, found, cleared or refused on the way.
-/

namespace PolygonRenderer

/-- A call of a renderer, or something that happens to its host. -/
inductive FrameCall (τ : Type) where
  | beginFrame
  | setViewport (v : Viewport)
  | drawModel (d : DrawCall)
  /-- Others leave the host like this. -/
  | elsewhere (host : Host Recorder τ)

structure FrameSession (τ : Type) where
  renderer : Renderer
  host : Host Recorder τ

/-- Calls for the same model carry the same data. -/
def DrawCall.Matches (d e : DrawCall) : Prop :=
  d.request.source = e.request.source → d.request.lutIndex = e.request.lutIndex →
    d.request.textureOffset = e.request.textureOffset →
    d.request.words = e.request.words ∧ d.request.memory = e.request.memory ∧
      d.request.texelsX = e.request.texelsX ∧ d.request.texelsY = e.request.texelsY ∧
      d.transform.zSign = e.transform.zSign

/-- The calls that later ones have to match: in a new frame, those for the dynamic
cache are forgotten. -/
def FrameCall.scope {τ : Type} (earlier : List DrawCall) : FrameCall τ → List DrawCall
  | .beginFrame => earlier.filter (·.request.source = .static)
  | .drawModel d => d :: earlier
  | _ => earlier

namespace FrameSession

variable {τ : Type} [TextureManager τ]

def answer (s : FrameSession τ) (d : DrawCall) : Except RenderError ModelId :=
  (s.renderer.drawModel s.host d.request d.transform).value.1

/-- Make a call. -/
def step (s : FrameSession τ) : FrameCall τ → FrameSession τ
  | .beginFrame => { s with renderer := s.renderer.beginFrame.value }
  | .setViewport v => { s with renderer := (s.renderer.setViewport v).value.2 }
  | .drawModel d =>
    let (_, r, host) := (s.renderer.drawModel s.host d.request d.transform).value
    ⟨r, host⟩
  | .elsewhere host => { s with host := host }

/-- Make calls in order. -/
def run (s : FrameSession τ) : List (FrameCall τ) → FrameSession τ
  | [] => s
  | call :: calls => run (s.step call) calls

theorem step_drawModel {s : FrameSession τ} {d : DrawCall} {answer : Except RenderError ModelId}
    {y : Drawing Recorder τ}
    (h : (Drawing.run ⟨s.renderer.cache d.request.source, s.renderer.stats, s.host⟩
      s.renderer.viewport (s.renderer.decodeContext s.host.textures d.request d.transform)
      d.request d.transform).value = (answer, y)) :
    s.answer d = answer ∧ s.step (.drawModel d) =
      ⟨{ s.renderer.setCache d.request.source y.cache with stats := y.stats }, y.host⟩ := by
  have hdraw := Renderer.drawModel_of_run h
  refine ⟨?_, ?_⟩
  · rw [FrameSession.answer, hdraw]
  · simp only [step, hdraw]

/-- A call of a session makes at most one call on its renderer. -/
theorem exists_renderer_step (s : FrameSession τ) (call : FrameCall τ) :
    ∃ calls : List (RendererCall Recorder τ), (s.step call).renderer = s.renderer.run calls := by
  cases call with
  | beginFrame => exact ⟨[.beginFrame], rfl⟩
  | setViewport v => exact ⟨[.setViewport v], rfl⟩
  | drawModel d => exact ⟨[.drawModel s.host d.request d.transform], rfl⟩
  | elsewhere host => exact ⟨[], rfl⟩

theorem exists_renderer_run (s : FrameSession τ) (calls : List (FrameCall τ)) :
    ∃ calls' : List (RendererCall Recorder τ), (s.run calls).renderer = s.renderer.run calls' := by
  induction calls generalizing s with
  | nil => exact ⟨[], rfl⟩
  | cons call calls ih =>
      obtain ⟨first, hfirst⟩ := exists_renderer_step s call
      obtain ⟨rest, hrest⟩ := ih (s.step call)
      refine ⟨first ++ rest, ?_⟩
      rw [run, hrest, hfirst, Renderer.run_append]

/-- The calls that are live after another call, given those before. -/
def note (s : FrameSession τ) (live : ModelSource → List DrawCall) :
    FrameCall τ → ModelSource → List DrawCall
  | .beginFrame, _ => []
  | .drawModel d, source =>
    if source = d.request.source then
      let kept :=
        if (s.step (.drawModel d)).renderer.stats.clears source = s.renderer.stats.clears source
        then live source else []
      d.shown kept (s.answer d)
    else live source
  | _, source => live source

/-- The calls of each source that have been drawn in this frame since the cache was
last cleared, in order. -/
def live (s : FrameSession τ) (before : ModelSource → List DrawCall) :
    List (FrameCall τ) → ModelSource → List DrawCall
  | [] => before
  | call :: calls => live (s.step call) (s.note before call) calls

/-- A draw call matches those before it, and others do not write to the buffers of
the renderer. -/
def Allows (s : FrameSession τ) (earlier : List DrawCall) : FrameCall τ → Prop
  | .drawModel d => ∀ e ∈ earlier, e.Matches d
  | .elsewhere host => ∀ source, host.backend.buffer? (s.renderer.cache source).buffer =
      s.host.backend.buffer? (s.renderer.cache source).buffer
  | _ => True

/-- Every call of a run is allowed, and no call moves the texture sheets. -/
def IsUndisturbed (s : FrameSession τ) (earlier : List DrawCall) : List (FrameCall τ) → Prop
  | [] => True
  | call :: calls => s.Allows earlier call ∧
      (∀ format, TextureManager.sheet (s.step call).host.textures format =
        TextureManager.sheet s.host.textures format) ∧
      IsUndisturbed (s.step call) (call.scope earlier) calls

end FrameSession

namespace Renderer

variable {τ : Type} [TextureManager τ]

/-- The vertices of the triangles that the polygons of a call are cut into, for one
pass. -/
def callVertices (r : Renderer) (textures : τ) (d : DrawCall) : Pass → List BufferVertex :=
  let ctx := r.decodeContext textures d.request d.transform
  ModelCache.passVertices ctx (ModelCache.modelPolygons ctx d.request.words)

/-- The context of a call depends on the configuration and on the sheets. -/
theorem decodeContext_congr {r r' : Renderer} {textures textures' : τ}
    (hconfig : r'.config = r.config)
    (hsheets : ∀ format, TextureManager.sheet textures' format =
      TextureManager.sheet textures format) (q : ModelRequest) (t : Transform) :
    r'.decodeContext textures' q t = r.decodeContext textures q t := by
  have hsheets' : (TextureManager.sheet textures' : UInt8 → TextureSheet) =
      TextureManager.sheet textures := funext hsheets
  simp only [decodeContext, DecodeContext.withSheetsFrom, hconfig, hsheets']

theorem callVertices_eq_of_matches (r : Renderer) (textures : τ) {d e : DrawCall}
    (h : d.Matches e) (hsource : d.request.source = e.request.source)
    (hindex : d.request.lutIndex = e.request.lutIndex)
    (hoffset : d.request.textureOffset = e.request.textureOffset) :
    r.callVertices textures d = r.callVertices textures e := by
  obtain ⟨hwords, hmemory, hx, hy, hz⟩ := h hsource hindex hoffset
  simp only [callVertices, decodeContext, hwords, hmemory, hx, hy, hz]

end Renderer

/-- Both caches serve the calls of their source. -/
structure FrameSession.IsServing {τ : Type} [TextureManager τ] (r₀ : Renderer) (textures₀ : τ)
    (earlier : List DrawCall) (live : ModelSource → List DrawCall) (s : FrameSession τ) :
    Prop where
  serves : ∀ source, Serves (r₀.callVertices textures₀) source earlier (live source)
    s.host.backend (s.renderer.cache source)
  buffer : ∀ source, (s.renderer.cache source).buffer = (r₀.cache source).buffer
  config : s.renderer.config = r₀.config
  sheets : ∀ format, TextureManager.sheet s.host.textures format =
    TextureManager.sheet textures₀ format

namespace FrameSession

variable {τ : Type} [TextureManager τ] {r₀ : Renderer} {textures₀ : τ} {earlier : List DrawCall}
  {live : ModelSource → List DrawCall} {s : FrameSession τ}

theorem isServing_beginFrame (h : s.IsServing r₀ textures₀ earlier live) :
    (s.step .beginFrame).IsServing r₀ textures₀ (FrameCall.scope earlier (.beginFrame : FrameCall τ))
      (s.note live .beginFrame) where
  serves source := by
    cases source with
    | static =>
        refine ((h.serves .static).clearDisplayList).mono ?_
        intro d hd hsource
        exact List.mem_filter.2 ⟨hd, decide_eq_true hsource⟩
    | dynamic => exact (h.serves .dynamic).cleared _
  buffer source := by
    rw [← h.buffer source]
    cases source <;> rfl
  config := h.config
  sheets := h.sheets

theorem isServing_setViewport (h : s.IsServing r₀ textures₀ earlier live) (v : Viewport) :
    (s.step (.setViewport v)).IsServing r₀ textures₀ earlier live := by
  simp only [step]
  rcases s.renderer.setViewport_cases v with he | ⟨c, c', hstatic, hdynamic, hok⟩
  · rw [he]
    exact h
  · rw [hok]
    refine ⟨?_, ?_, h.config, h.sheets⟩
    · intro source
      cases source with
      | static => exact (h.serves .static).appendViewport hstatic
      | dynamic => exact (h.serves .dynamic).appendViewport hdynamic
    · intro source
      rw [← h.buffer source]
      cases source with
      | static => exact ModelCache.buffer_of_appendViewport hstatic
      | dynamic => exact ModelCache.buffer_of_appendViewport hdynamic

/-- A draw call is served by the cache for its source, and the other cache does not
notice it. -/
theorem isServing_drawModel
    (hdistinct : (r₀.cache .static).buffer ≠ (r₀.cache .dynamic).buffer)
    (h : s.IsServing r₀ textures₀ earlier live) {d : DrawCall}
    (hmatches : ∀ e ∈ earlier, e.Matches d)
    (hsheets : ∀ format, TextureManager.sheet (s.step (.drawModel d)).host.textures format =
      TextureManager.sheet s.host.textures format) :
    (s.step (.drawModel d)).IsServing r₀ textures₀ (d :: earlier)
      (s.note live (.drawModel d)) := by
  have hctx := Renderer.decodeContext_congr h.config h.sheets d.request d.transform
  have hagrees : d.Agrees (r₀.callVertices textures₀) earlier :=
    fun e he => r₀.callVertices_eq_of_matches textures₀ (hmatches e he)
  rcases hvalue : (Drawing.run ⟨s.renderer.cache d.request.source, s.renderer.stats, s.host⟩
    s.renderer.viewport (s.renderer.decodeContext s.host.textures d.request d.transform)
    d.request d.transform).value with ⟨answer, y⟩
  obtain ⟨hanswer, hstep⟩ := step_drawModel hvalue
  have hcache : ∀ source, (s.step (.drawModel d)).renderer.cache source =
      if source = d.request.source then y.cache else s.renderer.cache source :=
    Renderer.cache_step_drawModel hvalue
  rw [hctx] at hvalue
  obtain ⟨hserves, hconfined⟩ := (h.serves d.request.source).run rfl rfl hagrees hvalue
  have hne : ∀ source, source ≠ d.request.source →
      (s.renderer.cache source).buffer ≠ (s.renderer.cache d.request.source).buffer := by
    intro source hsource
    rw [h.buffer, h.buffer]
    exact Renderer.buffer_ne_of_ne hdistinct hsource
  refine ⟨?_, ?_, ?_, ?_⟩
  · intro source
    rw [hcache]
    by_cases hsource : source = d.request.source
    · subst hsource
      have hstats : (s.step (.drawModel d)).renderer.stats = y.stats := by rw [hstep]
      have hhost : (s.step (.drawModel d)).host = y.host := by rw [hstep]
      rw [if_pos rfl, note, if_pos rfl, hanswer, hstats, hhost]
      exact hserves
    · -- the other cache has another buffer, which the call does not write to
      have hsame := hconfined.buffer?_of_ne _ (hne source hsource)
      rw [if_neg hsource, note, if_neg hsource, hstep]
      refine ((h.serves source).of_buffer?_eq hsame).mono ?_
      intro e he _
      exact List.mem_cons_of_mem d he
  · intro source
    rw [hcache, ← h.buffer source]
    by_cases hsource : source = d.request.source
    · rw [if_pos hsource, hsource]
      exact hconfined.buffer
    · rw [if_neg hsource]
  · rw [← h.config, hstep]
    cases d.request.source <;> rfl
  · intro format
    rw [hsheets, h.sheets]

theorem isServing_elsewhere (h : s.IsServing r₀ textures₀ earlier live) {host : Host Recorder τ}
    (hbuffers : ∀ source, host.backend.buffer? (s.renderer.cache source).buffer =
      s.host.backend.buffer? (s.renderer.cache source).buffer)
    (hsheets : ∀ format, TextureManager.sheet host.textures format =
      TextureManager.sheet s.host.textures format) :
    (s.step (.elsewhere host)).IsServing r₀ textures₀ earlier live where
  serves source := (h.serves source).of_buffer?_eq (hbuffers source)
  buffer := h.buffer
  config := h.config
  sheets format := (hsheets format).trans (h.sheets format)

theorem isServing_step
    (hdistinct : (r₀.cache .static).buffer ≠ (r₀.cache .dynamic).buffer)
    (h : s.IsServing r₀ textures₀ earlier live) {call : FrameCall τ}
    (hallows : s.Allows earlier call)
    (hsheets : ∀ format, TextureManager.sheet (s.step call).host.textures format =
      TextureManager.sheet s.host.textures format) :
    (s.step call).IsServing r₀ textures₀ (call.scope earlier) (s.note live call) := by
  cases call with
  | beginFrame => exact isServing_beginFrame h
  | setViewport v => exact isServing_setViewport h v
  | drawModel d => exact isServing_drawModel hdistinct h hallows hsheets
  | elsewhere host => exact isServing_elsewhere h hallows hsheets

theorem isServing_run
    (hdistinct : (r₀.cache .static).buffer ≠ (r₀.cache .dynamic).buffer)
    (h : s.IsServing r₀ textures₀ earlier live) {calls : List (FrameCall τ)}
    (hundisturbed : s.IsUndisturbed earlier calls) :
    ∃ earlier', (s.run calls).IsServing r₀ textures₀ earlier' (s.live live calls) := by
  induction calls generalizing s earlier live with
  | nil => exact ⟨earlier, h⟩
  | cons call calls ih =>
      obtain ⟨hallows, hsheets, htail⟩ := hundisturbed
      exact ih (isServing_step hdistinct h hallows hsheets) htail

end FrameSession

/-- A new renderer has two buffers, and shows nothing. -/
theorem Renderer.isServing_create {τ : Type} [TextureManager τ] {config : Config}
    {b b' : Recorder} {r : Renderer}
    (hcreate : (Renderer.create config b).value = (.ok r, b')) (textures : τ) :
    (r.cache .static).buffer ≠ (r.cache .dynamic).buffer ∧
      (FrameSession.mk r ⟨b', textures⟩).IsServing r textures [] fun _ => [] := by
  obtain ⟨c, c', b₁, hstatic, hdynamic, rfl⟩ := Renderer.create_ok hcreate
  obtain ⟨n, rfl, hbuffers⟩ := ModelCache.buffers_of_create hstatic
  obtain ⟨n', rfl, hbuffers'⟩ := ModelCache.buffers_of_create hdynamic
  have hlt : b.buffers.size < b₁.buffers.size := by
    rw [hbuffers, Array.size_push]
    exact Nat.lt_succ_self _
  have hroom : b'.HasRoom ⟨b.buffers.size⟩ n := by
    refine ⟨.zero (BufferVertex.byteCount * n), ?_, rfl⟩
    rw [Recorder.buffer?, hbuffers', Array.getElem?_push, if_neg (Nat.ne_of_lt hlt),
      hbuffers, Array.getElem?_push_size]
    rfl
  have hroom' : b'.HasRoom ⟨b₁.buffers.size⟩ n' := by
    refine ⟨.zero (BufferVertex.byteCount * n'), ?_, rfl⟩
    rw [Recorder.buffer?, hbuffers', Array.getElem?_push_size]
    rfl
  refine ⟨?_, ?_, fun _ => rfl, rfl, fun _ => rfl⟩
  · intro heq
    have hindex := congrArg BufferHandle.index heq
    exact Nat.ne_of_lt hlt hindex
  · intro source
    cases source with
    | static => exact .of_isEmpty (.empty ..) (ModelCache.isLinked_empty ..) hroom rfl rfl []
    | dynamic => exact .of_isEmpty (.empty ..) (ModelCache.isLinked_empty ..) hroom' rfl rfl []

/-- A frame shows the instances of both caches, one pass after the other. -/
theorem Renderer.pictures_commands (r : Renderer) (b : Recorder) :
    b.pictures r.commands = Pass.all.flatMap fun p =>
      [ModelSource.static, ModelSource.dynamic].flatMap fun source =>
        ((r.cache source).displayList.instances p).map ((r.cache source).picture b p) := by
  simp only [Recorder.pictures, Renderer.commands, ModelCache.commands, Pass.all,
    List.flatMap_cons, List.flatMap_nil, List.append_nil, GraphicsState.draws_append,
    DisplayList.draws_replay, List.map_append, List.map_map]
  rfl

namespace FrameSession

variable {τ : Type} [TextureManager τ]

/-- A frame that is drawn now shows the calls in `live`, for a renderer that was once
`r`. Pass by pass, and first the static calls, there is one draw for each call
that has triangles in the pass, with the state that belongs to the call and with
the bytes of its own triangles in the buffer that is bound. -/
def Shows (s : FrameSession τ) (r : Renderer) (textures : τ)
    (live : ModelSource → List DrawCall) : Prop :=
  let rendered := s.renderer.render s.host.backend
  ∃ commands : List Command, rendered.buffers = s.host.backend.buffers ∧
    rendered.calls.toList = s.host.backend.calls.toList ++ commands.map Call.submit ∧
    rendered.pictures commands = Pass.all.flatMap fun p =>
      [ModelSource.static, ModelSource.dynamic].flatMap fun source =>
        (live source).filterMap fun d =>
          d.picture? (r.callVertices textures d p) (r.cache source).buffer p

theorem IsServing.shows {s : FrameSession τ} {r : Renderer} {textures : τ}
    {earlier : List DrawCall} {live : ModelSource → List DrawCall}
    (h : s.IsServing r textures earlier live) : s.Shows r textures live := by
  have hrendered : s.renderer.render s.host.backend = { s.host.backend with
      calls := s.host.backend.calls ++ (s.renderer.commands.map Call.submit).toArray } :=
    Recorder.submitAll_eq s.host.backend s.renderer.commands
  have hshown : ∀ p source, ((s.renderer.cache source).displayList.instances p).map
      ((s.renderer.cache source).picture s.host.backend p) =
      (live source).filterMap fun d =>
        d.picture? (r.callVertices textures d p) (r.cache source).buffer p := by
    intro p source
    rw [← h.buffer source]
    exact (h.serves source).shown p
  refine ⟨s.renderer.commands, ?_, ?_, ?_⟩
  · rw [hrendered]
  · rw [hrendered, Array.toList_append]
  · have hpictures : (s.renderer.render s.host.backend).pictures s.renderer.commands =
        s.host.backend.pictures s.renderer.commands := by
      rw [hrendered]
      rfl
    rw [hpictures, Renderer.pictures_commands]
    simp only [hshown]

/-- After any calls, a frame shows the live calls of both sources, in order. -/
theorem shows_run {config : Config} {b b' : Recorder} {r : Renderer}
    (hcreate : (Renderer.create config b).value = (.ok r, b')) {textures : τ}
    {calls : List (FrameCall τ)}
    (hundisturbed : (FrameSession.mk r ⟨b', textures⟩).IsUndisturbed [] calls) :
    ((FrameSession.mk r ⟨b', textures⟩).run calls).Shows r textures
      ((FrameSession.mk r ⟨b', textures⟩).live (fun _ => []) calls) := by
  obtain ⟨hdistinct, hserving⟩ := Renderer.isServing_create hcreate textures
  obtain ⟨earlier, hserving⟩ := isServing_run hdistinct hserving hundisturbed
  exact hserving.shows

/-- The sheets of a texture log stay where they are. -/
theorem sheet_step {s : FrameSession TextureLog} {call : FrameCall TextureLog}
    (hcall : ∀ host, call ≠ .elsewhere host) (format : UInt8) :
    TextureManager.sheet (s.step call).host.textures format =
      TextureManager.sheet s.host.textures format := by
  cases call with
  | beginFrame => rfl
  | setViewport v => rfl
  | drawModel d =>
      have hsheets := (s.renderer.serviced_drawModel s.host d.request d.transform).sheets_eq
      exact congrArg (·.sheet format) hsheets
  | elsewhere host => exact absurd rfl (hcall host)

/-- A triangle that is drawn twice in a frame, and once in the next. -/
theorem shows_triangle_in_two_frames :
    let limits : CacheLimits := ⟨64, 32, 4, 16, 8⟩
    let config : Config := ⟨limits, limits, .unlessWord4, 1⟩
    let words : List UInt32 := [0, 4, 0, 0, 0, 0, 1, 1, 2, 3, 4, 5, 6, 7, 8, 9, 10, 11, 12]
    let d : DrawCall := ⟨⟨.static, 3, 0, 0, 0, words, #[]⟩, .identity⟩
    let calls : List (FrameCall TextureLog) :=
      [.drawModel d, .drawModel d, .beginFrame, .drawModel d]
    let textures : TextureLog := .empty 16 .origin
    ∃ r b', (Renderer.create config (Recorder.empty none)).value = (.ok r, b') ∧
      (FrameSession.mk r ⟨b', textures⟩).IsUndisturbed [] calls ∧
      ((FrameSession.mk r ⟨b', textures⟩).run calls).Shows r textures
        ((FrameSession.mk r ⟨b', textures⟩).live (fun _ => []) calls) := by
  intro limits config words d calls textures
  have hstatic : (ModelCache.create limits .static (Recorder.empty none)).value = (.ok _, _) :=
    ModelCache.create_of_granted rfl
  have hcreate : (Renderer.create config (Recorder.empty none)).value = (.ok _, _) :=
    Renderer.create_of_created hstatic (ModelCache.create_of_granted rfl)
  have hmatches : ∀ e, e = d → e.Matches d := by
    rintro e rfl _ _ _
    exact ⟨rfl, rfl, rfl, rfl, rfl⟩
  have hsheets : ∀ (s : FrameSession TextureLog) (call : FrameCall TextureLog), call ∈ calls →
      ∀ format, TextureManager.sheet (s.step call).host.textures format =
        TextureManager.sheet s.host.textures format := by
    intro s call hcall
    apply sheet_step
    rintro host rfl
    simp [calls] at hcall
  refine ⟨_, _, hcreate, ?hundisturbed, shows_run hcreate ?hundisturbed⟩
  refine ⟨?_, hsheets _ _ (by simp [calls]), ?_, hsheets _ _ (by simp [calls]), trivial,
    hsheets _ _ (by simp [calls]), ?_, hsheets _ _ (by simp [calls]), trivial⟩
  · intro e he
    cases he
  · intro e he
    exact hmatches e (List.mem_singleton.1 he)
  · intro e he
    have hboth := (List.mem_filter.1 he).1
    simp only [FrameCall.scope, List.mem_cons, List.not_mem_nil, or_false, or_self] at hboth
    exact hmatches e hboth

end FrameSession

end PolygonRenderer
