import PolygonRenderer.Proofs.Renderer.Frame
import PolygonRenderer.Proofs.Renderer.Retry

/-!
# Which way a drawn model faces

A transform has a say in two things: the order in which the vertices of a model are
cached (`Polygon.corners`), and which order is kept from being culled
(`Winding.ofTransform`). The first is settled by the draw that caches the model, the
second by each draw anew.

`Stocked` keeps track of the calls that the models of a cache may have been cached for.
The main statement is that a draw culls as its own transform says and has the vertices in
the order of a call since the last clear. The picture is that of a draw into an empty
cache as long as the two calls find the same polygons in clockwise order. Calls whose Z
axes point opposite ways need not, and then the model may be shown inside out.
-/

namespace PolygonRenderer

/-- Two transforms order the corners of a polygon alike if it runs clockwise for both or
for neither. -/
theorem Polygon.corners_eq_iff {α : Type} [Scalar α] (p : Polygon α) (z z' : α) :
    p.corners z = p.corners z' ↔ p.isClockwise z = p.isClockwise z' := by
  unfold corners
  constructor
  · intro h
    -- the first corner is slot 0 or slot 2
    have hfirst := congrArg (fun cs : List Corner => cs.head?.map (·.slot)) h
    cases hz : p.isClockwise z <;> cases hz' : p.isClockwise z' <;>
      simp [firstTriangle, hz, hz'] at hfirst ⊢
  · intro h
    rw [h]

namespace DrawCall

/-- The calls are for the same model, going by the key. -/
def SharesKey (e d : DrawCall) : Prop :=
  e.request.source = d.request.source ∧ e.request.lutIndex = d.request.lutIndex ∧
    e.request.textureOffset = d.request.textureOffset

/-- The calls carry the same data, whatever the transforms. -/
structure SharesData (e d : DrawCall) : Prop where
  words : e.request.words = d.request.words
  memory : e.request.memory = d.request.memory
  texelsX : e.request.texelsX = d.request.texelsX
  texelsY : e.request.texelsY = d.request.texelsY

end DrawCall

/-- Calls with the same data have the same vertices if they find the same polygons in
clockwise order. -/
theorem Renderer.callVertices_eq_of_isClockwise {τ : Type} [TextureManager τ] (r : Renderer)
    (textures : τ) {e d : DrawCall} (hdata : e.SharesData d)
    (hclockwise : ∀ p ∈ ModelCache.modelPolygons
        (r.decodeContext textures d.request d.transform) d.request.words,
      p.isClockwise e.transform.zSign = p.isClockwise d.transform.zSign) :
    r.callVertices textures e = r.callVertices textures d := by
  have hctx : r.decodeContext textures e.request e.transform =
      { r.decodeContext textures d.request d.transform with zSign := e.transform.zSign } := by
    simp only [decodeContext, DecodeContext.withSheetsFrom, hdata.memory, hdata.texelsX,
      hdata.texelsY]
  funext p
  simp only [callVertices, ModelCache.passVertices, List.flatMap_def, hctx, hdata.words]
  refine congrArg List.flatten (List.map_congr_left ?_)
  intro polygon hpolygon
  have hmem := (List.mem_filter.1 hpolygon).1
  have hcorners := (polygon.corners_eq_iff _ _).2 (hclockwise polygon hmem)
  exact congrArg (List.map _) hcorners

/-! ## Models and the calls they were cached for -/

section Stocked

variable {τ : Type} [TextureManager τ] {r₀ : Renderer} {textures₀ : τ} {source : ModelSource}
  {made made' : List DrawCall} {r r' : Recorder} {c c' : ModelCache} {d : DrawCall}

/-- A model was cached for a call: it has the key of the call and holds its vertices, and
an empty cache would take it. -/
structure Renderer.IsCachedFor (r₀ : Renderer) (textures₀ : τ) (source : ModelSource)
    (r : Recorder) (c : ModelCache) (m : CachedModel) (d : DrawCall) : Prop where
  key : d.IsFor source m
  holds : c.Holds r m (r₀.callVertices textures₀ d)
  fits : ModelCache.Fits (r₀.config.limits source) (r₀.cache source).bufferCapacity
    (r₀.decodeContext textures₀ d.request d.transform) d.request.lutIndex d.request.words

/-- The cache is that of a source, and each of its models was cached for a call in
`made`. -/
structure Stocked (r₀ : Renderer) (textures₀ : τ) (source : ModelSource) (made : List DrawCall)
    (r : Recorder) (c : ModelCache) : Prop where
  order : c.IsInOrder (r₀.config.limits source) (r₀.cache source).bufferCapacity
  buffer : c.buffer = (r₀.cache source).buffer
  hasRoom : r.HasRoom c.buffer c.bufferCapacity
  stored : ∀ m ∈ c.models, ∃ d ∈ made, r₀.IsCachedFor textures₀ source r c m d

/-- Nothing counts but what is read in the ranges of the model. -/
theorem Renderer.IsCachedFor.congr {m : CachedModel}
    (h : r₀.IsCachedFor textures₀ source r c m d)
    (hsame : ∀ p, r'.fetch? c'.buffer (m.ranges.get p) = r.fetch? c.buffer (m.ranges.get p)) :
    r₀.IsCachedFor textures₀ source r' c' m d :=
  { h with holds := h.holds.congr hsame }

namespace Stocked

open Drawing

theorem mono (h : Stocked r₀ textures₀ source made r c) (hsub : ∀ d ∈ made, d ∈ made') :
    Stocked r₀ textures₀ source made' r c := by
  refine { h with stored := ?_ }
  intro m hm
  obtain ⟨d, hd, hcached⟩ := h.stored m hm
  exact ⟨d, hsub d hd, hcached⟩

/-- Other buffers do not count. -/
theorem of_buffer?_eq (h : Stocked r₀ textures₀ source made r c)
    (hsame : r'.buffer? c.buffer = r.buffer? c.buffer) :
    Stocked r₀ textures₀ source made r' c := by
  refine { h with hasRoom := h.hasRoom.congr hsame, stored := ?_ }
  intro m hm
  obtain ⟨d, hd, hcached⟩ := h.stored m hm
  exact ⟨d, hd, hcached.congr fun p => Recorder.fetch?_congr hsame _⟩

theorem of_displayList (h : Stocked r₀ textures₀ source made r c) {l : DisplayList}
    (horder : ({ c with displayList := l } : ModelCache).IsInOrder (r₀.config.limits source)
      (r₀.cache source).bufferCapacity) :
    Stocked r₀ textures₀ source made r { c with displayList := l } where
  order := horder
  buffer := h.buffer
  hasRoom := h.hasRoom
  stored m hm := by
    obtain ⟨d, hd, hcached⟩ := h.stored m hm
    exact ⟨d, hd, hcached.congr fun _ => rfl⟩

theorem clearDisplayList (h : Stocked r₀ textures₀ source made r c) :
    Stocked r₀ textures₀ source made r c.clearDisplayList :=
  h.of_displayList (h.order.of_displayList (DisplayList.isLinked_empty _) rfl)

/-- Without models there is nothing to account for. -/
theorem cleared (h : Stocked r₀ textures₀ source made r c) (made' : List DrawCall) :
    Stocked r₀ textures₀ source made' r c.cleared where
  order := h.order.cleared
  buffer := h.buffer
  hasRoom := h.hasRoom
  stored m hm := absurd hm (Array.not_mem_empty m)

theorem appendViewport (h : Stocked r₀ textures₀ source made r c) {v : Viewport}
    (happend : c.appendViewport v = .ok c') : Stocked r₀ textures₀ source made r c' := by
  have horder := h.order.appendViewport happend
  obtain ⟨l, -, rfl⟩ := ModelCache.appendViewport_ok happend
  exact h.of_displayList horder

theorem appendModel (h : Stocked r₀ textures₀ source made r c) {id : ModelId} {t : Transform}
    (happend : c.appendModel id t = .ok c') : Stocked r₀ textures₀ source made r c' := by
  have horder := h.order.appendModel happend
  obtain ⟨m, l, -, -, rfl⟩ := ModelCache.appendModel_ok happend
  exact h.of_displayList horder

variable {host host' : Host Recorder τ}

/-- A model that is cached for a call holds the vertices of the call, and the models
before it keep theirs. -/
theorem cacheModel (h : Stocked r₀ textures₀ d.request.source made host.backend c)
    (hd : d ∈ made) {answer : Except RenderError ModelId}
    (hvalue : (c.cacheModel host (r₀.decodeContext textures₀ d.request d.transform)
      d.request.lutIndex d.request.textureOffset d.request.words).value =
        (answer, c', host')) :
    Stocked r₀ textures₀ d.request.source made host'.backend c' ∧
      ∀ other, other ≠ c.buffer → host'.backend.buffer? other = host.backend.buffer? other := by
  have horder := h.order.cacheModel hvalue
  have henters := ModelCache.cacheModel_enters h.order.accounts h.hasRoom
    (r₀.decodeContext textures₀ d.request d.transform) d.request.lutIndex
    d.request.textureOffset d.request.words
  rw [hvalue] at henters
  cases answer with
  | error e =>
      obtain ⟨hmodels, -, hbuffer, hcapacity, -, hbackend⟩ := henters
      rw [hbackend]
      refine ⟨⟨horder, hbuffer.trans h.buffer, ?_, ?_⟩, fun _ _ => rfl⟩
      · rw [hbuffer, hcapacity]
        exact h.hasRoom
      · intro m hm
        rw [hmodels] at hm
        obtain ⟨e, he, hcached⟩ := h.stored m hm
        exact ⟨e, he, hcached.congr fun p => by rw [hbuffer]⟩
  | ok id =>
      obtain ⟨-, henters⟩ := henters
      have hfits := ModelCache.fits_of_cacheModel h.order.slot_eq_none h.order.maxModels
        h.order.stagingCapacity h.order.lutSize (congrArg Prod.fst hvalue)
      rw [h.order.bufferCapacity] at hfits
      refine ⟨⟨horder, henters.buffer.trans h.buffer, henters.hasRoom, ?_⟩,
        henters.buffer?_of_ne⟩
      intro m hm
      obtain ⟨new, hmodels, hindex, hoffset, hholds⟩ := henters.model
      rw [hmodels, Array.mem_push] at hm
      rcases hm with hm | rfl
      · -- the new model lies behind those that are there
        have hbefore := h.order.accounts.accounted.range_le hm
        obtain ⟨e, he, hcached⟩ := h.stored m hm
        exact ⟨e, he, hcached.congr fun p => henters.fetch?_of_le _ (hbefore p)⟩
      · exact ⟨d, hd, ⟨rfl, hindex.symm, hoffset.symm⟩, hholds, hfits⟩

variable {viewport : Option Viewport} {x y : Drawing Recorder τ}

theorem move (h : Stocked r₀ textures₀ d.request.source made x.host.backend x.cache)
    (hd : d ∈ made)
    (hmove : Move viewport (r₀.decodeContext textures₀ d.request d.transform) d.request
      d.transform x y) :
    x.IsConfined y ∧ Stocked r₀ textures₀ d.request.source
      (if y.stats.clears d.request.source = x.stats.clears d.request.source then made else [])
      y.host.backend y.cache := by
  cases hmove with
  | found =>
      refine ⟨⟨rfl, fun _ _ => rfl⟩, ?_⟩
      rw [if_pos (by cases d.request.source <;> rfl)]
      exact h
  | cached hmissing hcache =>
      obtain ⟨hstocked, hother⟩ := h.cacheModel hd hcache
      refine ⟨⟨hstocked.buffer.trans h.buffer.symm, hother⟩, ?_⟩
      rw [if_pos (x.stats.clears_countMiss _ _ _)]
      exact hstocked
  | appendedModel happend =>
      refine ⟨⟨ModelCache.buffer_of_appendModel happend, fun _ _ => rfl⟩, ?_⟩
      rw [if_pos rfl]
      exact h.appendModel happend
  | cleared => exact ⟨⟨rfl, fun _ _ => rfl⟩, h.cleared _⟩
  | appendedViewport happend =>
      refine ⟨⟨ModelCache.buffer_of_appendViewport happend, fun _ _ => rfl⟩, ?_⟩
      rw [if_pos rfl]
      exact h.appendViewport happend

/-- The calls before a draw count for as long as the counter tells of no clear. -/
theorem run (h : Stocked r₀ textures₀ d.request.source made x.host.backend x.cache)
    {answer : Except RenderError ModelId}
    (hvalue : (x.run viewport (r₀.decodeContext textures₀ d.request d.transform) d.request
      d.transform).value = (answer, y)) :
    x.IsConfined y ∧ Stocked r₀ textures₀ d.request.source
      (d ::
        if y.stats.clears d.request.source = x.stats.clears d.request.source then made else [])
      y.host.backend y.cache := by
  refine (Moves.of_run hvalue).keeps (P := fun z => x.IsConfined z ∧
    Stocked r₀ textures₀ d.request.source
      (d ::
        if z.stats.clears d.request.source = x.stats.clears d.request.source then made else [])
      z.host.backend z.cache) ⟨⟨rfl, fun _ _ => rfl⟩, ?_⟩ ?_
  · rw [if_pos rfl]
    exact h.mono fun e he => List.mem_cons_of_mem d he
  · rintro z w - hmove ⟨hconfined, hz⟩
    obtain ⟨hconfined', hw⟩ := hz.move List.mem_cons_self hmove
    refine ⟨hconfined.trans hconfined', hw.mono ?_⟩
    intro e he
    split at he
    · rename_i hsame
      rw [hsame]
      exact he
    · cases he

end Stocked

end Stocked

namespace ModelCache

/-- What is seen of the instance that was appended last to a pass. -/
def lastPicture? (c : ModelCache) (r : Recorder) (p : Pass) : Option Picture :=
  (c.displayList.instances p).getLast?.map (c.picture r p)

/-- A call that was drawn last is seen with the vertices that its model holds. -/
theorem HasDrawn.lastPicture?_eq {c : ModelCache} {r : Recorder} {d : DrawCall} {id : ModelId}
    (h : c.HasDrawn d.request d.transform id) {m : CachedModel} (hm : c.model? id = some m)
    {vertices : Pass → List BufferVertex} (hholds : c.Holds r m vertices) {p : Pass}
    {picture : Picture} (hpicture : d.picture? (vertices p) c.buffer p = some picture) :
    c.lastPicture? r p = some picture := by
  obtain ⟨m', hm', hlast⟩ := h.last
  cases hm.symm.trans hm'
  have hne : vertices p ≠ [] := by
    intro hnil
    rw [DrawCall.picture?, if_pos hnil] at hpicture
    cases hpicture
  have hcount : (m.ranges.get p).count ≠ 0 := by
    rw [Recorder.count_eq_of_fetch? (hholds p)]
    exact fun hzero => hne (List.length_eq_zero_iff.1 hzero)
  obtain ⟨before, hcontents⟩ := List.getLast?_eq_some_iff.1 (hlast p hcount)
  rw [DrawCall.picture?, if_neg hne] at hpicture
  cases hpicture
  rw [lastPicture?, DisplayList.instances, hcontents, List.filterMap_append]
  simp [NodeContent.model?, ModelCache.picture, ModelInstance.state, hholds p]

end ModelCache

namespace FrameSession

variable {τ : Type} [TextureManager τ]

/-- The calls for each source since its cache was last cleared, given those before
another call. -/
def noteCall (s : FrameSession τ) (made : ModelSource → List DrawCall) :
    FrameCall τ → ModelSource → List DrawCall
  | .beginFrame, .dynamic => []
  | .drawModel d, source =>
    if source = d.request.source then
      d ::
        if (s.step (.drawModel d)).renderer.stats.clears source = s.renderer.stats.clears source
        then made source else []
    else made source
  | _, source => made source

theorem noteCall_drawModel_self (s : FrameSession τ) (made : ModelSource → List DrawCall)
    (d : DrawCall) :
    s.noteCall made (.drawModel d) d.request.source =
      d ::
        if (s.step (.drawModel d)).renderer.stats.clears d.request.source =
          s.renderer.stats.clears d.request.source
        then made d.request.source else [] :=
  if_pos rfl

/-- The calls for each source since its cache was last cleared, the newest first. -/
def sinceClear (s : FrameSession τ) (before : ModelSource → List DrawCall) :
    List (FrameCall τ) → ModelSource → List DrawCall
  | [] => before
  | call :: calls => sinceClear (s.step call) (s.noteCall before call) calls

/-- Others do not write to the buffers of the renderer, and no call moves the texture
sheets. The draws themselves need not match. -/
def IsLeftAlone (s : FrameSession τ) : List (FrameCall τ) → Prop
  | [] => True
  | call :: calls => s.Allows [] call ∧
      (∀ format, TextureManager.sheet (s.step call).host.textures format =
        TextureManager.sheet s.host.textures format) ∧
      IsLeftAlone (s.step call) calls

/-- What is seen of the instance that was appended last for a source. -/
def lastPicture? (s : FrameSession τ) (source : ModelSource) (p : Pass) : Option Picture :=
  (s.renderer.cache source).lastPicture? s.host.backend p

/-- The models of both caches were cached for the calls in `made`. -/
structure IsStocked (r₀ : Renderer) (textures₀ : τ) (made : ModelSource → List DrawCall)
    (s : FrameSession τ) : Prop where
  stocked : ∀ source, Stocked r₀ textures₀ source (made source) s.host.backend
    (s.renderer.cache source)
  config : s.renderer.config = r₀.config

variable {r₀ : Renderer} {textures₀ : τ} {made : ModelSource → List DrawCall}
  {s : FrameSession τ}

theorem isStocked_beginFrame (h : s.IsStocked r₀ textures₀ made) :
    (s.step .beginFrame).IsStocked r₀ textures₀ (s.noteCall made .beginFrame) where
  stocked source := by
    cases source with
    | static => exact (h.stocked .static).clearDisplayList
    | dynamic => exact (h.stocked .dynamic).cleared []
  config := h.config

theorem isStocked_setViewport (h : s.IsStocked r₀ textures₀ made) (v : Viewport) :
    (s.step (.setViewport v)).IsStocked r₀ textures₀ made := by
  simp only [step]
  rcases s.renderer.setViewport_cases v with he | ⟨c, c', hstatic, hdynamic, hok⟩
  · rw [he]
    exact h
  · rw [hok]
    refine ⟨?_, h.config⟩
    intro source
    cases source with
    | static => exact (h.stocked .static).appendViewport hstatic
    | dynamic => exact (h.stocked .dynamic).appendViewport hdynamic

theorem isStocked_drawModel
    (hdistinct : (r₀.cache .static).buffer ≠ (r₀.cache .dynamic).buffer)
    (h : s.IsStocked r₀ textures₀ made)
    (hsheets : ∀ format, TextureManager.sheet s.host.textures format =
      TextureManager.sheet textures₀ format) (d : DrawCall) :
    (s.step (.drawModel d)).IsStocked r₀ textures₀ (s.noteCall made (.drawModel d)) := by
  have hctx := Renderer.decodeContext_congr h.config hsheets d.request d.transform
  rcases hvalue : (Drawing.run ⟨s.renderer.cache d.request.source, s.renderer.stats, s.host⟩
    s.renderer.viewport (s.renderer.decodeContext s.host.textures d.request d.transform)
    d.request d.transform).value with ⟨answer, y⟩
  obtain ⟨-, hstep⟩ := step_drawModel hvalue
  have hcache : ∀ source, (s.step (.drawModel d)).renderer.cache source =
      if source = d.request.source then y.cache else s.renderer.cache source :=
    Renderer.cache_step_drawModel hvalue
  rw [hctx] at hvalue
  obtain ⟨hconfined, hstocked⟩ := (h.stocked d.request.source).run hvalue
  refine ⟨?_, ?_⟩
  · intro source
    rw [hcache]
    by_cases hsource : source = d.request.source
    · subst hsource
      have hstats : (s.step (.drawModel d)).renderer.stats = y.stats := by rw [hstep]
      have hhost : (s.step (.drawModel d)).host = y.host := by rw [hstep]
      rw [if_pos rfl, noteCall_drawModel_self, hstats, hhost]
      exact hstocked
    · -- the other cache has another buffer, which the draw does not write to
      have hne : (s.renderer.cache source).buffer ≠
          (s.renderer.cache d.request.source).buffer := by
        rw [(h.stocked source).buffer, (h.stocked d.request.source).buffer]
        exact Renderer.buffer_ne_of_ne hdistinct hsource
      rw [if_neg hsource, noteCall, if_neg hsource, hstep]
      exact (h.stocked source).of_buffer?_eq (hconfined.buffer?_of_ne _ hne)
  · rw [← h.config, hstep]
    exact Renderer.config_setCache ..

theorem isStocked_step
    (hdistinct : (r₀.cache .static).buffer ≠ (r₀.cache .dynamic).buffer)
    (h : s.IsStocked r₀ textures₀ made)
    (hsheets : ∀ format, TextureManager.sheet s.host.textures format =
      TextureManager.sheet textures₀ format) {call : FrameCall τ} (hallows : s.Allows [] call) :
    (s.step call).IsStocked r₀ textures₀ (s.noteCall made call) := by
  cases call with
  | beginFrame => exact isStocked_beginFrame h
  | setViewport v => exact isStocked_setViewport h v
  | drawModel d => exact isStocked_drawModel hdistinct h hsheets d
  | elsewhere host =>
      refine ⟨?_, h.config⟩
      intro source
      exact (h.stocked source).of_buffer?_eq (hallows source)

theorem isStocked_run
    (hdistinct : (r₀.cache .static).buffer ≠ (r₀.cache .dynamic).buffer)
    (h : s.IsStocked r₀ textures₀ made)
    (hsheets : ∀ format, TextureManager.sheet s.host.textures format =
      TextureManager.sheet textures₀ format) {calls : List (FrameCall τ)}
    (halone : s.IsLeftAlone calls) :
    (s.run calls).IsStocked r₀ textures₀ (s.sinceClear made calls) ∧
      ∀ format, TextureManager.sheet (s.run calls).host.textures format =
        TextureManager.sheet textures₀ format := by
  induction calls generalizing s made with
  | nil => exact ⟨h, hsheets⟩
  | cons call calls ih =>
      obtain ⟨hallows, hkept, htail⟩ := halone
      exact ih (isStocked_step hdistinct h hsheets hallows)
        (fun format => (hkept format).trans (hsheets format)) htail

theorem isStocked_create {config : Config} {b b' : Recorder} {r : Renderer}
    (hcreate : (Renderer.create config b).value = (.ok r, b')) (textures : τ) :
    (FrameSession.mk r ⟨b', textures⟩).IsStocked r textures fun _ => [] := by
  obtain ⟨-, hserving⟩ := Renderer.isServing_create hcreate textures
  refine ⟨?_, rfl⟩
  intro source
  have horder := Renderer.isInOrder_create hcreate source
  rw [← Renderer.config_of_create hcreate] at horder
  refine ⟨horder, rfl, (hserving.serves source).hasRoom, ?_⟩
  intro m hm
  obtain ⟨d, hd, -⟩ := (hserving.serves source).stored m hm
  cases hd

/-- A draw that succeeds is seen with the vertices of a call that its model was cached
for. -/
theorem exists_call_of_drawn
    (hdistinct : (r₀.cache .static).buffer ≠ (r₀.cache .dynamic).buffer)
    (h : s.IsStocked r₀ textures₀ made)
    (hsheets : ∀ format, TextureManager.sheet s.host.textures format =
      TextureManager.sheet textures₀ format) {d : DrawCall} {id : ModelId}
    (hanswer : s.answer d = .ok id) :
    ∃ e ∈ s.noteCall made (.drawModel d) d.request.source, e.SharesKey d ∧
      ModelCache.Fits (r₀.config.limits d.request.source)
        (r₀.cache d.request.source).bufferCapacity
        (r₀.decodeContext textures₀ e.request e.transform) e.request.lutIndex e.request.words ∧
      ∀ p picture, d.picture? (r₀.callVertices textures₀ e p)
        (r₀.cache d.request.source).buffer p = some picture →
          (s.step (.drawModel d)).lastPicture? d.request.source p = some picture := by
  rcases hvalue : (Drawing.run ⟨s.renderer.cache d.request.source, s.renderer.stats, s.host⟩
    s.renderer.viewport (s.renderer.decodeContext s.host.textures d.request d.transform)
    d.request d.transform).value with ⟨answer, y⟩
  cases (step_drawModel hvalue).1.symm.trans hanswer
  have hdrawn : ((s.step (.drawModel d)).renderer.cache d.request.source).HasDrawn d.request
      d.transform id := by
    have hcache : (s.step (.drawModel d)).renderer.cache d.request.source = y.cache :=
      (Renderer.cache_step_drawModel hvalue _).trans (if_pos rfl)
    rw [hcache]
    exact Drawing.run_ok (h.stocked d.request.source).order hvalue
  have hstocked := (isStocked_drawModel hdistinct h hsheets d).stocked d.request.source
  obtain ⟨m, hm, hindex, hoffset⟩ := hstocked.order.linked.exists_of_lookUp hdrawn.lookUp
  obtain ⟨e, he, hcached⟩ := hstocked.stored m (Array.mem_of_getElem? hm)
  obtain ⟨hsource, hindex', hoffset'⟩ := hcached.key
  refine ⟨e, he, ⟨hsource, hindex'.trans hindex, hoffset'.trans hoffset⟩, hcached.fits, ?_⟩
  intro p picture hpicture
  rw [← hstocked.buffer] at hpicture
  exact hdrawn.lastPicture?_eq hm hcached.holds hpicture

theorem nodesPerAppend_le_of_answer {d : DrawCall} {limits : CacheLimits} {capacity : Nat}
    (horder : (s.renderer.cache d.request.source).IsInOrder limits capacity) {id : ModelId}
    (hanswer : s.answer d = .ok id) :
    DisplayList.nodesPerAppend ≤ limits.displayListEntries := by
  rcases hvalue : (Drawing.run ⟨s.renderer.cache d.request.source, s.renderer.stats, s.host⟩
    s.renderer.viewport (s.renderer.decodeContext s.host.textures d.request d.transform)
    d.request d.transform).value with ⟨answer, y⟩
  cases (step_drawModel hvalue).1.symm.trans hanswer
  obtain ⟨z, hz, hattempt⟩ := Drawing.exists_attempt_of_run horder hvalue
  exact Drawing.nodesPerAppend_le_of_attempt hz hattempt

/-- The first draw that is made succeeds if its model fits and the display list has room for
one. -/
theorem exists_answer_of_fits {config : Config} {b b' : Recorder} {r : Renderer}
    (hcreate : (Renderer.create config b).value = (.ok r, b')) (textures : τ) {d : DrawCall}
    (hfits : ModelCache.Fits (r.config.limits d.request.source)
      (r.cache d.request.source).bufferCapacity (r.decodeContext textures d.request d.transform)
      d.request.lutIndex d.request.words)
    (hnodes : DisplayList.nodesPerAppend ≤
      (r.config.limits d.request.source).displayListEntries) :
    ∃ id, (FrameSession.mk r ⟨b', textures⟩).answer d = .ok id := by
  have horder := Renderer.isInOrder_create hcreate d.request.source
  obtain ⟨buffer, capacity, hcache⟩ := Renderer.cache_of_create hcreate d.request.source
  rw [← Renderer.config_of_create hcreate] at horder hcache
  have hroom : (r.cache d.request.source).displayList.hasRoom = true := by
    rw [hcache, DisplayList.hasRoom, decide_eq_true_eq]
    exact (Nat.zero_add DisplayList.nodesPerAppend).symm ▸ hnodes
  obtain ⟨id, y, hvalue⟩ := Drawing.run_of_empty
    (x := ⟨r.cache d.request.source, r.stats, ⟨b', textures⟩⟩) horder hfits
    (congrArg ModelCache.models hcache) hroom r.viewport d.transform
  exact ⟨id, (step_drawModel hvalue).1⟩

theorem run_append (s : FrameSession τ) (calls calls' : List (FrameCall τ)) :
    s.run (calls ++ calls') = (s.run calls).run calls' := by
  induction calls generalizing s with
  | nil => rfl
  | cons call calls ih => exact ih (s.step call)

theorem sinceClear_append (s : FrameSession τ) (before : ModelSource → List DrawCall)
    (calls calls' : List (FrameCall τ)) :
    s.sinceClear before (calls ++ calls') =
      (s.run calls).sinceClear (s.sinceClear before calls) calls' := by
  induction calls generalizing s before with
  | nil => rfl
  | cons call calls ih => exact ih (s.step call) _

/-- A draw that succeeds is seen as its own transform has it culled, with the vertices in
the order of a call for the same model since the cache was last cleared, which may be
itself. If that call carries the same data and finds the same polygons in clockwise order,
the draw succeeds with empty caches too, and is seen there as it is here. -/
theorem facing_of_drawn {config : Config} {b b' : Recorder} {r : Renderer}
    (hcreate : (Renderer.create config b).value = (.ok r, b')) {textures : τ}
    {calls : List (FrameCall τ)} (halone : (FrameSession.mk r ⟨b', textures⟩).IsLeftAlone calls)
    {d : DrawCall} {id : ModelId}
    (hanswer : ((FrameSession.mk r ⟨b', textures⟩).run calls).answer d = .ok id) :
    let fresh := FrameSession.mk r ⟨b', textures⟩
    let source := d.request.source
    let drawn := fresh.run (calls ++ [.drawModel d])
    ∃ e ∈ fresh.sinceClear (fun _ => []) (calls ++ [.drawModel d]) source, e.SharesKey d ∧
      (∀ p picture, d.picture? (r.callVertices textures e p) (r.cache source).buffer p =
        some picture → drawn.lastPicture? source p = some picture) ∧
      (e.SharesData d →
        (∀ polygon ∈ ModelCache.modelPolygons (r.decodeContext textures d.request d.transform)
            d.request.words,
          polygon.isClockwise e.transform.zSign = polygon.isClockwise d.transform.zSign) →
        (∃ id', fresh.answer d = .ok id') ∧
          ∀ p picture, d.picture? (r.callVertices textures d p) (r.cache source).buffer p =
            some picture → drawn.lastPicture? source p = some picture ∧
              (fresh.step (.drawModel d)).lastPicture? source p = some picture) := by
  intro fresh source drawn
  have hdistinct := (Renderer.isServing_create hcreate textures).1
  have hfresh : fresh.IsStocked r textures fun _ => [] := isStocked_create hcreate textures
  obtain ⟨hstocked, hsheets⟩ := isStocked_run hdistinct hfresh (fun _ => rfl) halone
  obtain ⟨e, he, hkey, hfits, hseen⟩ := exists_call_of_drawn hdistinct hstocked hsheets hanswer
  have hdrawn : drawn = (fresh.run calls).step (.drawModel d) := run_append ..
  rw [sinceClear_append, hdrawn]
  refine ⟨e, he, hkey, hseen, ?_⟩
  intro hdata hclockwise
  have hsame := r.callVertices_eq_of_isClockwise textures hdata hclockwise
  -- the model fits for one call as it does for the other, which has the same polygons
  have hverdict := hfits.verdict
  rw [hdata.words] at hverdict
  have hnodes := nodesPerAppend_le_of_answer (hstocked.stocked source).order hanswer
  obtain ⟨id', hanswer'⟩ := exists_answer_of_fits hcreate textures
    ⟨hfits.maxModels, hkey.2.1 ▸ hfits.index, hverdict⟩ hnodes
  refine ⟨⟨id', hanswer'⟩, ?_⟩
  intro p picture hpicture
  refine ⟨hseen p picture (hsame ▸ hpicture), ?_⟩
  -- nothing but the draw itself can have filled the caches of a fresh session
  obtain ⟨e', he', -, -, hseen'⟩ := exists_call_of_drawn hdistinct hfresh (fun _ => rfl) hanswer'
  rw [noteCall_drawModel_self, ite_self, List.mem_singleton] at he'
  rw [he'] at hseen'
  exact hseen' p picture hpicture

/-- A triangle whose normal points along Z. Its vertices run clockwise if the Z axis points
out of the screen, and counter-clockwise if it points into it. -/
def triangle (zSign : Float32) : DrawCall where
  request :=
    { source := .static
      lutIndex := 3
      textureOffset := 0
      texelsX := 0
      texelsY := 0
      words := [0, 4, 0, 0x100, 0, 0, 0x00800000, 0, 0, 0, 0, 0x100, 0, 0, 0, 0, 0x100, 0, 0]
      memory := #[] }
  transform := { Transform.identity with zSign := zSign }

/-- The triangle in two frames, with Z axes of the same direction. -/
theorem facing_of_drawn_along_same_axis :
    let limits : CacheLimits := ⟨64, 32, 4, 16, 8⟩
    let config : Config := ⟨limits, limits, .unlessWord4, 1⟩
    ∃ r b', (Renderer.create config (Recorder.empty none)).value = (.ok r, b') ∧
      let fresh := FrameSession.mk r ⟨b', TextureLog.empty 16 .origin⟩
      (fresh.run [.drawModel (triangle (-1)), .beginFrame, .drawModel (triangle (-2))]).lastPicture?
          .static .solid =
        (fresh.step (.drawModel (triangle (-2)))).lastPicture? .static .solid := by
  intro limits config
  have hstatic : (ModelCache.create limits .static (Recorder.empty none)).value = (.ok _, _) :=
    ModelCache.create_of_granted rfl
  have hcreate : (Renderer.create config (Recorder.empty none)).value = (.ok _, _) :=
    Renderer.create_of_created hstatic (ModelCache.create_of_granted rfl)
  refine ⟨_, _, hcreate, ?_⟩
  intro fresh
  let calls : List (FrameCall TextureLog) := [.drawModel (triangle (-1)), .beginFrame]
  have halone : fresh.IsLeftAlone calls :=
    ⟨List.forall_mem_nil _, sheet_step (by simp), trivial, sheet_step (by simp), trivial⟩
  have hanswer : ((fresh.run calls).answer (triangle (-2))).toOption = some ⟨0⟩ := by
    decide +kernel
  have hclockwise : ∀ z : Float32, z = -1 ∨ z = -2 →
      ∀ polygon ∈ ModelCache.modelPolygons (fresh.renderer.decodeContext fresh.host.textures
        (triangle (-2)).request (triangle (-2)).transform) (triangle (-2)).request.words,
      polygon.isClockwise z = polygon.isClockwise (-2) := by
    rintro z (rfl | rfl) <;> decide +kernel
  have hcached : fresh.sinceClear (fun _ => []) calls .static = [triangle (-1)] := by
    have hfirst := fresh.noteCall_drawModel_self (fun _ => []) (triangle (-1))
    rw [ite_self] at hfirst
    exact hfirst
  have hne : fresh.renderer.callVertices fresh.host.textures (triangle (-2)) .solid ≠ [] := by
    decide +kernel
  cases hid : (fresh.run calls).answer (triangle (-2)) with
  | error e =>
      rw [hid] at hanswer
      cases hanswer
  | ok id =>
      obtain ⟨e, he, -, -, hsame⟩ := facing_of_drawn hcreate halone hid
      -- the model was cached by the first draw, and frames do not clear static models
      have hz : ∃ z : Float32, e = triangle z ∧ (z = -1 ∨ z = -2) := by
        rw [sinceClear_append, sinceClear, sinceClear, noteCall_drawModel_self,
          List.mem_cons] at he
        rcases he with rfl | he
        · exact ⟨-2, rfl, .inr rfl⟩
        · split at he
          · exact ⟨-1, List.mem_singleton.1 (hcached ▸ he), .inl rfl⟩
          · cases he
      obtain ⟨z, rfl, hz⟩ := hz
      obtain ⟨-, hseen⟩ := hsame ⟨rfl, rfl, rfl, rfl⟩ (hclockwise z hz)
      obtain ⟨hdrawn, hfresh⟩ := hseen .solid _ (if_neg hne)
      exact hdrawn.trans hfresh.symm

/-- The same triangle is shown inside out if it was cached by a draw whose Z axis points
the other way: the same order is kept from being culled, and the vertices are in another. -/
theorem facing_of_opposite_axis :
    let limits : CacheLimits := ⟨64, 32, 4, 16, 8⟩
    let config : Config := ⟨limits, limits, .unlessWord4, 1⟩
    ∃ r b', (Renderer.create config (Recorder.empty none)).value = (.ok r, b') ∧
      let fresh := FrameSession.mk r ⟨b', TextureLog.empty 16 .origin⟩
      let s := fresh.run [.drawModel (triangle (-1)), .beginFrame]
      let picture := fun s : FrameSession TextureLog =>
        (s.step (.drawModel (triangle 1))).lastPicture? .static .solid
      (s.answer (triangle 1)).toOption = some ⟨0⟩ ∧
        (fresh.answer (triangle 1)).toOption = some ⟨0⟩ ∧
        (picture s).map (·.state.cull) = some (some .keepCounterClockwise) ∧
        (picture fresh).map (·.state.cull) = some (some .keepCounterClockwise) ∧
        (picture s).map (·.bytes) ≠ (picture fresh).map (·.bytes) := by
  intro limits config
  have hstatic : (ModelCache.create limits .static (Recorder.empty none)).value = (.ok _, _) :=
    ModelCache.create_of_granted rfl
  have hcreate : (Renderer.create config (Recorder.empty none)).value = (.ok _, _) :=
    Renderer.create_of_created hstatic (ModelCache.create_of_granted rfl)
  exact ⟨_, _, hcreate, by decide +kernel⟩

end FrameSession

end PolygonRenderer
