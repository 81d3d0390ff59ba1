import PolygonRenderer.Proofs.DisplayList.Draws
import PolygonRenderer.Proofs.ModelCache.FirstFailure
import PolygonRenderer.Proofs.ModelCache.PolygonCount
import PolygonRenderer.Proofs.Renderer.Retry

/-!
# The first draw of a frame

A cache that has nothing but a viewport is fresh (`ModelCache.IsFresh`). A clear brings
nothing there: what fails in a fresh cache fails in the same cache once more. So a first
draw that succeeds has been cached and appended at the first attempt, and all that is
known of it can be read off its polygons.
-/

namespace PolygonRenderer

namespace ModelCache

/-- The vertices of each pass that polygons are drawn with, from the first vertex on. -/
def rangesOf (ps : List (Polygon Float32)) : PerPass VertexRange :=
  let solid := contribution (ps.map .ok) .solid
  ⟨⟨0, solid⟩, ⟨solid, contribution (ps.map .ok) .blended⟩⟩

/-- The cache is in order, and empty but for a viewport. -/
structure IsFresh (limits : CacheLimits) (capacity : Nat) (v : Viewport) (c : ModelCache) :
    Prop where
  inOrder : IsInOrder limits capacity c
  models : c.models = #[]
  displayList : (DisplayList.empty limits.displayListEntries).appendViewport v = .ok c.displayList

/-- The model of these polygons is the only one, in the cache as well as on the lists. -/
structure HasOnly (c : ModelCache) (ps : List (Polygon Float32)) (t : Transform) : Prop where
  model : ∃ m, c.model? ⟨0⟩ = some m ∧ m.ranges = rangesOf ps
  instances : ∀ p, c.displayList.instances p =
    if ((rangesOf ps).get p).count = 0 then []
    else [⟨(rangesOf ps).get p, t.modelView, Winding.ofTransform t.modelView t.zSign⟩]

namespace IsFresh

variable {limits : CacheLimits} {capacity : Nat} {v : Viewport} {c c' : ModelCache}

theorem of_isBare (h : IsBare limits capacity (some v) c) : IsFresh limits capacity v c :=
  ⟨h.inOrder, h.models, h.displayList⟩

theorem isBare (h : IsFresh limits capacity v c) : IsBare limits capacity (some v) c :=
  ⟨h.inOrder, h.models, h.displayList⟩

theorem cursor (h : IsFresh limits capacity v c) : c.cursor = 0 := by
  rw [h.inOrder.accounts.cursor_eq_of_idle, h.models]
  rfl

theorem contents (h : IsFresh limits capacity v c) (p : Pass) :
    c.displayList.contents p = [.viewport v] :=
  h.isBare.contents p

theorem instances (h : IsFresh limits capacity v c) (p : Pass) :
    c.displayList.instances p = [] := by
  rw [DisplayList.instances, h.contents]
  rfl

end IsFresh

end ModelCache

namespace Drawing

open ModelCache

variable {β τ : Type} [Backend β] [TextureManager τ] {limits : CacheLimits} {capacity : Nat}
  {v : Viewport} {x y : Drawing β τ} {ctx : DecodeContext} {q : ModelRequest} {t : Transform}
  {id : ModelId}

/-- An attempt at a fresh cache that succeeds has cached the model and appended it. -/
theorem attempt_of_isFresh (hx : IsFresh limits capacity v x.cache)
    (h : (x.attempt ctx q t).value = (.ok id, y)) :
    ∃ c host m l, (x.cache.cacheModel x.host ctx q.lutIndex q.textureOffset q.words).value =
        (.ok id, c, host) ∧
      c.model? id = some m ∧ x.cache.displayList.appendModel m.ranges t = .ok l ∧
      y = ⟨{ c with displayList := l },
        x.stats.countMiss (c.polygonsInserted - x.cache.polygonsInserted) (.ok id), host⟩ := by
  rcases hcache : (x.cache.cacheModel x.host ctx q.lutIndex q.textureOffset q.words).value with
    ⟨answer, c, host⟩
  have hobtain := obtain_of_missing (hx.isBare.lookUp _ _) hcache
  obtain ⟨z, c', hobtain', happend, rfl⟩ := of_attempt_ok h
  rw [hobtain] at hobtain'
  cases hobtain'
  obtain ⟨m, l, hm, hl, rfl⟩ := appendModel_ok happend
  rw [(cacheModel_keeps hcache).1] at hl
  exact ⟨c, host, m, l, rfl, hm, hl, rfl⟩

/-- What it takes to succeed at a fresh cache, which `attempt_of_fits` shows to be enough. -/
theorem fits_of_attempt (hx : IsFresh limits capacity v x.cache)
    (h : (x.attempt ctx q t).value = (.ok id, y)) :
    Fits limits capacity ctx q.lutIndex q.words ∧ x.cache.displayList.hasRoom = true := by
  obtain ⟨c, host, m, l, hcache, -, hl, -⟩ := attempt_of_isFresh hx h
  refine ⟨?_, ?_⟩
  · rw [← hx.inOrder.bufferCapacity]
    exact fits_of_cacheModel hx.inOrder.slot_eq_none hx.inOrder.maxModels
      hx.inOrder.stagingCapacity hx.inOrder.lutSize (congrArg (·.1) hcache)
  · unfold DisplayList.appendModel at hl
    split at hl
    · assumption
    · cases hl

/-- The second attempt of a draw finds what the first one found. -/
theorem attempt_of_run (hx : IsFresh limits capacity v x.cache)
    (h : (x.run (some v) ctx q t).value = (.ok id, y)) :
    (x.attempt ctx q t).value = (.ok id, y) := by
  have hviewport : (some v).isSome = true →
      DisplayList.nodesPerAppend ≤ limits.displayListEntries :=
    fun _ => DisplayList.nodesPerAppend_le_of_appendViewport hx.displayList
  rcases run_cases_of_isInOrder hx.inOrder hviewport ctx q t with
    ⟨hrun, -⟩ | ⟨e, z, w, hfirst, -, hbare, hrun⟩
  · exact hrun.symm.trans h
  · have hw : IsFresh limits capacity v w.cache := .of_isBare hbare
    -- both caches have the same display list, and room for it is all that is left to chance
    have hlist : w.cache.displayList = x.cache.displayList :=
      Except.ok.inj (hw.displayList.symm.trans hx.displayList)
    obtain ⟨hfits, hlast⟩ := fits_of_attempt hw (hrun.symm.trans h)
    rw [hlist] at hlast
    obtain ⟨id', y', hok⟩ := attempt_of_fits hx.inOrder hfits hx.models hlast t
    rw [hok] at hfirst
    cases hfirst

/-- After a first draw that succeeds, the stream is known to be free of errors, and the
model of its polygons is all there is. -/
theorem run_of_isFresh (hx : IsFresh limits capacity v x.cache)
    (h : (x.run (some v) ctx q t).value = (.ok id, y)) :
    ∃ ps, (Decoder.start q.words ctx.vertexFactor).items = ps.map .ok ∧ id = ⟨0⟩ ∧
      y.cache.HasOnly ps t ∧ y.stats = x.stats.countMiss ps.length (.ok id) := by
  have hattempt := attempt_of_run hx h
  obtain ⟨hfits, -⟩ := fits_of_attempt hx hattempt
  obtain ⟨c, host, m, l, hcache, hm, hl, rfl⟩ := attempt_of_isFresh hx hattempt
  have hitems : (Decoder.start q.words ctx.vertexFactor).items =
      (modelPolygons ctx q.words).map .ok := items_of_verdict_ok hfits.verdict
  obtain ⟨rfl, -, kept, hpush⟩ := cacheModel_pushes hcache
  have hcount := polygonsInserted_cacheModel hcache
  have hranges : m.ranges = rangesOf (modelPolygons ctx q.words) := by
    rw [model?, hpush, hx.cursor, hitems] at hm
    rw [Array.getElem?_push_size] at hm
    cases hm
    simp only [rangesOf, Nat.zero_add]
  have hid : (⟨x.cache.models.size⟩ : ModelId) = ⟨0⟩ := by
    rw [hx.models]
    rfl
  refine ⟨_, hitems, hid, ⟨⟨m, hid ▸ hm, hranges⟩, ?_⟩, ?_⟩
  · intro p
    have hcontents := (hx.inOrder.threaded.appendModel hl).2 p
    rw [hx.contents, hranges] at hcontents
    rw [DisplayList.instances, hcontents]
    by_cases hnone : ((rangesOf (modelPolygons ctx q.words)).get p).count = 0
    · rw [if_pos hnone, if_neg (not_not_intro hnone)]
      rfl
    · rw [if_neg hnone, if_pos hnone]
      rfl
  · rw [hcount, Nat.add_sub_cancel_left]

end Drawing

namespace GraphicsState

/-- What a command draws. -/
def drawn? : Command → Option (Nat × Nat)
  | .draw first count => some (first, count)
  | _ => none

theorem filterMap_drawn? (s : GraphicsState) (cs : List Command) :
    cs.filterMap drawn? = (s.draws cs).map fun e => (e.2.first, e.2.count) := by
  induction cs generalizing s with
  | nil => rfl
  | cons c cs ih =>
      cases c with
      | draw first count => exact congrArg _ (ih s)
      | bind | blend | cull | viewport | uniforms | modelView => exact ih _

end GraphicsState

/-- Of commands that are put on record, the draws are. -/
theorem Recorder.draws_submitAll (b : Recorder) (commands : List Command) :
    (Backend.submitAll b.clearCalls commands).draws =
      commands.filterMap GraphicsState.drawn? := by
  rw [submitAll_eq]
  simp only [draws, clearCalls, Array.toList_append, List.nil_append, List.filterMap_map]
  congr 1
  funext c
  cases c <;> rfl

namespace Renderer

/-- Nothing has been drawn in the first frame of a renderer, and the viewport is set. -/
structure IsFresh (config : Config) (v : Viewport) (r : Renderer) : Prop where
  cache : ∀ source, ∃ capacity, ModelCache.IsFresh (config.limits source) capacity v
    (r.cache source)
  viewport : r.viewport = some v
  stats : r.stats = .zero
  config : r.config = config

theorem isFresh_of_setViewport {β : Type} [Backend β] {config : Config} {b b' : β}
    {r r' : Renderer} {v : Viewport} (hcreate : (create config b).value = (.ok r, b'))
    (hviewport : (r.beginFrame.value.setViewport v).value = (.ok (), r')) :
    r'.IsFresh config v := by
  obtain ⟨c, c', b₁, hstatic, hdynamic, rfl⟩ := create_ok hcreate
  obtain ⟨-, buffer, capacity, -, rfl, -⟩ := ModelCache.create_ok hstatic
  obtain ⟨-, buffer', capacity', -, rfl, -⟩ := ModelCache.create_ok hdynamic
  rcases setViewport_cases _ v with he | ⟨c, c', happend, happend', hok⟩
  · rw [he] at hviewport
    cases hviewport
  · rw [hok] at hviewport
    cases hviewport
    refine ⟨?_, rfl, rfl, rfl⟩
    intro source
    cases source with
    | static =>
        have hbare := ModelCache.isBare_empty config.staticCache .static buffer capacity
        exact ⟨capacity, .of_isBare (hbare.appendViewport happend)⟩
    | dynamic =>
        have hempty := ModelCache.isInOrder_empty config.dynamicCache .dynamic buffer' capacity'
        exact ⟨capacity', .of_isBare ((ModelCache.IsBare.cleared hempty).appendViewport happend')⟩

/-- A first draw that succeeds leaves its model behind, and the other cache alone. -/
theorem drawModel_of_isFresh {β τ : Type} [Backend β] [TextureManager τ] {config : Config}
    {v : Viewport} {r r' : Renderer} (hr : r.IsFresh config v) {host host' : Host β τ}
    {q : ModelRequest} {t : Transform} {id : ModelId}
    (h : (r.drawModel host q t).value = (.ok id, r', host')) :
    ∃ ps, (Decoder.start q.words config.vertexFactor).items = ps.map .ok ∧ id = ⟨0⟩ ∧
      (r'.cache q.source).HasOnly ps t ∧
      (∀ other p, other ≠ q.source → (r'.cache other).displayList.instances p = []) ∧
      r'.stats = ⟨1, 0, ps.length, 0, 0⟩ := by
  obtain ⟨y, hrun, hr', hcache⟩ := exists_run_of_drawModel h
  obtain ⟨capacity, hx⟩ := hr.cache q.source
  rw [hr.viewport] at hrun
  obtain ⟨ps, hitems, rfl, honly, hstats⟩ := Drawing.run_of_isFresh hx hrun
  have hfactor : (r.decodeContext host.textures q t).vertexFactor = config.vertexFactor := by
    rw [← hr.config]
    rfl
  refine ⟨ps, hfactor ▸ hitems, rfl, hcache.symm ▸ honly, ?_, ?_⟩
  · intro other p hne
    obtain ⟨capacity', hx'⟩ := hr.cache other
    have hsame : r'.cache other = r.cache other := by
      rw [hr']
      exact r.cache_setCache_of_ne y.cache hne
    rw [hsame]
    exact hx'.instances p
  · rw [hr', hstats]
    simp only [hr.stats, FrameStats.countMiss, FrameStats.zero, Nat.zero_add]

theorem draws_render (r : Renderer) (b : Recorder) :
    (r.render b.clearCalls).draws = Pass.all.flatMap fun p =>
      [ModelSource.static, ModelSource.dynamic].flatMap fun source =>
        ((r.cache source).displayList.instances p).map fun m => (m.range.first, m.range.count) := by
  rw [render, Recorder.draws_submitAll, GraphicsState.filterMap_drawn? .unknown]
  simp only [commands, ModelCache.commands, Pass.all, List.flatMap_cons, List.flatMap_nil,
    List.append_nil, GraphicsState.draws_append, DisplayList.draws_replay, List.map_append,
    List.map_map]
  rfl

/-- The ranges that have vertices, in the order of the passes. -/
def drawnRanges (ranges : PerPass VertexRange) : List (Nat × Nat) :=
  [(ranges.solid.first, ranges.solid.count), (ranges.blended.first, ranges.blended.count)].filter
    (·.2 ≠ 0)

/-- Where there is only one model, nothing else is drawn. -/
theorem draws_of_hasOnly {r : Renderer} {source : ModelSource} {ps : List (Polygon Float32)}
    {t : Transform} (h : (r.cache source).HasOnly ps t)
    (hother : ∀ other p, other ≠ source → (r.cache other).displayList.instances p = [])
    (b : Recorder) : (r.render b.clearCalls).draws = drawnRanges (ModelCache.rangesOf ps) := by
  have hpass : ∀ p, ([ModelSource.static, .dynamic].flatMap fun other =>
      ((r.cache other).displayList.instances p).map fun m => (m.range.first, m.range.count)) =
        [(((ModelCache.rangesOf ps).get p).first, ((ModelCache.rangesOf ps).get p).count)].filter
          (·.2 ≠ 0) := by
    intro p
    have hown := h.instances p
    cases source with
    | static =>
        have hnone := hother .dynamic p (by decide)
        simp only [List.flatMap_cons, List.flatMap_nil, hown, hnone]
        split <;> simp [*]
    | dynamic =>
        have hnone := hother .static p (by decide)
        simp only [List.flatMap_cons, List.flatMap_nil, hown, hnone]
        split <;> simp [*]
  rw [draws_render]
  simp only [hpass, Pass.all, List.flatMap_cons, List.flatMap_nil, List.append_nil, drawnRanges,
    ← List.filter_append]
  rfl

end Renderer

end PolygonRenderer
