import PolygonRenderer.ModelCache.Draw
import PolygonRenderer.Proofs.DisplayList.Threads
import PolygonRenderer.Proofs.ModelCache.Accounting
import PolygonRenderer.Proofs.ModelCache.Variants

/-!
# Clearing

To clear a cache is to drop its models, and of the lookup table to erase no more than
the entries of these. Nothing else is left in the table, because each entry belongs to
a model of the cache (`ModelCache.IsCovered`), however models were staged, abandoned
and entered, and with whatever handles.

So a cache that is cleared is a new one, but for the count of polygons. No call reads
the count (`CacheSession.step_countFrom`), so the two answer alike ever after, which is
the main statement.
-/

namespace PolygonRenderer

namespace ModelCache

/-- What is settled for good when a cache is created. -/
def fixtures (c : ModelCache) : ModelSource × (BufferHandle × Nat × Nat × Nat) × Nat × Nat :=
  (c.source, c.stores, c.lut.size, c.displayList.capacity)

section Fixtures

variable {c c' : ModelCache}

theorem StagesOn.fixtures_eq {new : Pass → List BufferVertex} (h : c.StagesOn c' new) :
    c'.fixtures = c.fixtures := by
  rw [h.eq]
  rfl

theorem fixtures_abandon (c : ModelCache) (h : StagingHandle) :
    (c.abandon h).fixtures = c.fixtures := by
  unfold abandon
  split <;> rfl

theorem fixtures_cleared (c : ModelCache) : c.cleared.fixtures = c.fixtures := by
  have hsize := size_lut_cleared c
  simp only [fixtures, hsize]
  rfl

theorem fixtures_of_displayList {l : DisplayList} (h : l.capacity = c.displayList.capacity) :
    { c with displayList := l }.fixtures = c.fixtures := by
  simp only [fixtures, h]
  rfl

end Fixtures

/-- Every entry of the lookup table belongs to a model. -/
def IsCovered (c : ModelCache) : Prop :=
  ∀ e ∈ c.lut.entries, ∃ m ∈ c.models, m.lutIndex = e.1

namespace IsCovered

variable {c c' : ModelCache}

theorem of_stagesOn {new : Pass → List BufferVertex} (h : c.IsCovered)
    (hstages : c.StagesOn c' new) : c'.IsCovered := by
  rw [hstages.eq]
  exact h

theorem abandon (h : c.IsCovered) (handle : StagingHandle) : (c.abandon handle).IsCovered := by
  unfold ModelCache.abandon
  split <;> exact h

/-- The entry that is set belongs to the model that enters. -/
theorem commit (h : c.IsCovered) (handle : StagingHandle) (index : UInt32) (offset : UInt16) :
    (c.commit handle index offset).IsCovered := by
  intro e he
  simp only [ModelCache.commit, Array.mem_push]
  rcases List.mem_cons.1 he with rfl | he
  · exact ⟨_, .inr rfl, rfl⟩
  · obtain ⟨m, hm, hindex⟩ := h e (List.mem_filter.1 he).1
    exact ⟨m, .inl hm, hindex⟩

theorem mem_foldl_erase {models : List CachedModel} {lut : LookupTable ModelId}
    {e : UInt32 × ModelId} :
    e ∈ (models.foldl (fun lut m => lut.erase m.lutIndex) lut).entries ↔
      e ∈ lut.entries ∧ ∀ m ∈ models, m.lutIndex ≠ e.1 := by
  induction models generalizing lut with
  | nil => simp
  | cons m models ih =>
      rw [List.foldl_cons, ih, LookupTable.erase, List.mem_filter, bne_iff_ne, List.forall_mem_cons,
        and_assoc, ne_comm]

/-- The models name all entries that there are to erase. -/
theorem lut_cleared (h : c.IsCovered) : c.cleared.lut = .empty c.lut.size := by
  have hentries : c.cleared.lut.entries = [] := by
    rw [List.eq_nil_iff_forall_not_mem]
    intro e he
    rw [cleared, ← Array.foldl_toList, mem_foldl_erase] at he
    obtain ⟨m, hm, hindex⟩ := h e he.1
    exact he.2 m (Array.mem_toList_iff.2 hm) hindex
  have hsize := size_lut_cleared c
  rcases hlut : c.cleared.lut with ⟨size, entries⟩
  rw [hlut] at hentries hsize
  rw [LookupTable.empty, ← hsize, ← hentries]

theorem cleared (h : c.IsCovered) : c.cleared.IsCovered := by
  intro e he
  rw [h.lut_cleared] at he
  cases he

end IsCovered

theorem isCovered_empty (limits : CacheLimits) (source : ModelSource) (buffer : BufferHandle)
    (capacity : Nat) : (empty limits source buffer capacity).IsCovered :=
  fun _ he => nomatch he

/-- The count of polygons is all that is left of what was done with a cache. -/
theorem cleared_eq_empty {limits : CacheLimits} {source : ModelSource} {buffer : BufferHandle}
    {capacity : Nat} {c : ModelCache}
    (hfixtures : c.fixtures = (empty limits source buffer capacity).fixtures)
    (hcovered : c.IsCovered) :
    c.cleared = { empty limits source buffer capacity with
      polygonsInserted := c.polygonsInserted } := by
  have hlut := hcovered.lut_cleared
  simp only [fixtures, stores, empty, DisplayList.empty, LookupTable.size_empty,
    Prod.mk.injEq] at hfixtures
  obtain ⟨hsource, ⟨hbuffer, hcapacity, hstaging, hmodels⟩, hsize, hnodes⟩ := hfixtures
  rw [hsize] at hlut
  rw [cleared] at hlut ⊢
  simp only at hlut
  simp only [hlut, hsource, hbuffer, hcapacity, hstaging, hmodels, DisplayList.clear, hnodes, empty]

/-! ## The count of polygons -/

/-- The cache with its polygons counted from `n` on. -/
def countFrom (n : Nat) (c : ModelCache) : ModelCache :=
  { c with polygonsInserted := n + c.polygonsInserted }

section CountFrom

variable {β τ : Type} (n : Nat) (c : ModelCache)

@[simp] theorem accepts_countFrom (h : StagingHandle) :
    (c.countFrom n).accepts h = c.accepts h := rfl

theorem abandon_countFrom (h : StagingHandle) :
    (c.countFrom n).abandon h = (c.abandon h).countFrom n := by
  rw [abandon, abandon, accepts_countFrom]
  split <;> rfl

theorem beginModel_countFrom :
    (c.countFrom n).beginModel = c.beginModel.map (Prod.map id (countFrom n)) := by
  have hstaging : (c.countFrom n).staging = c.staging := rfl
  have hmodels : (c.countFrom n).models = c.models := rfl
  have hmaxModels : (c.countFrom n).maxModels = c.maxModels := rfl
  rw [beginModel, beginModel, hstaging, hmodels, hmaxModels]
  split
  · rfl
  · split <;> rfl

theorem stage_countFrom (p : Pass) (vertices : List BufferVertex) :
    (c.countFrom n).stage p vertices = (c.stage p vertices).countFrom n := by
  cases c
  rfl

theorem insertPolygon_countFrom (h : StagingHandle) (p : Polygon Float32) (ctx : DecodeContext) :
    ((c.countFrom n).insertPolygon h p ctx).value =
      Prod.map id (countFrom n) (c.insertPolygon h p ctx).value := by
  have hoverflow : (c.countFrom n).overflow? p.pass = c.overflow? p.pass := rfl
  rw [insertPolygon, insertPolygon, accepts_countFrom, hoverflow, stage_countFrom]
  split
  · cases c.overflow? p.pass <;> rfl
  · rfl

theorem keepTexture_countFrom (texture : TextureRef) :
    (c.countFrom n).keepTexture texture = (c.keepTexture texture).countFrom n := by
  have hstaging : (c.countFrom n).staging = c.staging := rfl
  rw [keepTexture, keepTexture, hstaging]
  split <;> rfl

theorem requestTexture_countFrom [TextureManager τ] (h : StagingHandle) (texture : TextureRef)
    (textures : τ) :
    (c.countFrom n).requestTexture h texture textures =
      (c.requestTexture h texture textures).map (Prod.map (countFrom n) id) := by
  have hsource : (c.countFrom n).source = c.source := rfl
  rw [requestTexture, requestTexture, accepts_countFrom, hsource, keepTexture_countFrom]
  split
  · cases c.source with
    | dynamic => rfl
    | static =>
        rcases TextureManager.addRef textures texture with ⟨taken, textures'⟩
        cases taken <;> rfl
  · rfl

theorem stagePolygon_countFrom [TextureManager τ] (textures : τ) (h : StagingHandle)
    (ctx : DecodeContext) (p : Polygon Float32) :
    ((c.countFrom n).stagePolygon textures h ctx p).value =
      Prod.map id (Prod.map (countFrom n) id) (c.stagePolygon textures h ctx p).value := by
  have hrequested : (if p.header.isTextured then
        (c.countFrom n).requestTexture h (ctx.textureRef p.header) textures
      else .ok (c.countFrom n, textures)) =
      (if p.header.isTextured then c.requestTexture h (ctx.textureRef p.header) textures
        else .ok (c, textures)).map (Prod.map (countFrom n) id) := by
    split
    · exact requestTexture_countFrom n c h _ textures
    · rfl
  unfold stagePolygon
  dsimp only
  rw [hrequested]
  generalize (if p.header.isTextured then c.requestTexture h (ctx.textureRef p.header) textures
    else .ok (c, textures)) = requested
  cases requested with
  | error e => rfl
  | ok requested =>
      have hinsert := insertPolygon_countFrom n requested.1 h p ctx
      simp only [Except.map, Prod.map, Logged.value_bind, hinsert]
      rfl

theorem stageEvents_countFrom [TextureManager τ] (textures : τ) (h : StagingHandle)
    (ctx : DecodeContext) (events : List Decoder.Event) :
    ((c.countFrom n).stageEvents textures h ctx events).value =
      Prod.map id (Prod.map (countFrom n) id) (c.stageEvents textures h ctx events).value := by
  induction events generalizing c textures with
  | nil => rfl
  | cons event events ih =>
      cases event with
      | skipped position => exact ih c textures
      | truncated t => rfl
      | polygon p =>
          rw [stageEvents, stageEvents, Logged.value_bind, Logged.value_bind,
            stagePolygon_countFrom]
          rcases (c.stagePolygon textures h ctx p).value with ⟨answer, c', textures'⟩
          cases answer with
          | error e => rfl
          | ok => exact ih c' textures'

variable [Backend β]

theorem endModel_countFrom (backend : β) (h : StagingHandle) (index : UInt32) (offset : UInt16) :
    ((c.countFrom n).endModel backend h index offset).value =
      Prod.map id (Prod.map (countFrom n) id) (c.endModel backend h index offset).value := by
  have hlut : (c.countFrom n).lut = c.lut := rfl
  rw [endModel, endModel, accepts_countFrom, hlut]
  split
  · split
    · rfl
    · rw [abandon_countFrom]
      rfl
  · rfl

theorem cacheModel_countFrom [TextureManager τ] (host : Host β τ) (ctx : DecodeContext)
    (index : UInt32) (offset : UInt16) (words : List UInt32) :
    ((c.countFrom n).cacheModel host ctx index offset words).value =
      Prod.map id (Prod.map (countFrom n) id)
        (c.cacheModel host ctx index offset words).value := by
  rw [cacheModel, cacheModel, beginModel_countFrom]
  cases c.beginModel with
  | error e => rfl
  | ok begun =>
      obtain ⟨h, c'⟩ := begun
      dsimp only [Except.map, Prod.map_apply, id]
      rw [Logged.value_bind, Logged.value_bind, stageEvents_countFrom]
      rcases (c'.stageEvents host.textures h ctx
        (Decoder.start words ctx.vertexFactor).events).value with ⟨answer, c'', textures⟩
      dsimp only [Prod.map_apply, id]
      cases answer with
      | error e =>
          dsimp only
          rw [abandon_countFrom]
          rfl
      | ok =>
          dsimp only
          rw [Logged.value_bind, endModel_countFrom]
          rfl

theorem appendModel_countFrom (id : ModelId) (t : Transform) :
    (c.countFrom n).appendModel id t = (c.appendModel id t).map (countFrom n) := by
  have hmodel : (c.countFrom n).model? id = c.model? id := rfl
  have hdisplay : (c.countFrom n).displayList = c.displayList := rfl
  rw [appendModel, appendModel, hmodel, hdisplay]
  cases c.model? id with
  | none => rfl
  | some m =>
      dsimp only
      cases c.displayList.appendModel m.ranges t <;> rfl

theorem appendViewport_countFrom (v : Viewport) :
    (c.countFrom n).appendViewport v = (c.appendViewport v).map (countFrom n) := by
  have hdisplay : (c.countFrom n).displayList = c.displayList := rfl
  rw [appendViewport, appendViewport, hdisplay]
  cases c.displayList.appendViewport v <;> rfl

end CountFrom

end ModelCache

namespace CacheSession

variable {β τ : Type} [Backend β] [TextureManager τ]

/-- The session with the polygons of its cache counted from `n` on. -/
def countFrom (n : Nat) (s : CacheSession β τ) : CacheSession β τ :=
  { s with cache := s.cache.countFrom n }

/-- What the calls of a run answer. -/
def answers (s : CacheSession β τ) : List (CacheCall β τ) → List CacheAnswer
  | [] => []
  | call :: calls => (s.step call).1 :: answers (s.step call).2 calls

/-- No call depends on how many polygons there were before. -/
theorem step_countFrom (n : Nat) (s : CacheSession β τ) (call : CacheCall β τ) :
    (s.countFrom n).step call = ((s.step call).1, (s.step call).2.countFrom n) := by
  cases call with
  | beginModel =>
      simp only [step, countFrom, ModelCache.beginModel_countFrom]
      cases s.cache.beginModel <;> rfl
  | insertPolygon h p ctx =>
      simp only [step, countFrom, ModelCache.insertPolygon_countFrom]
      rcases (s.cache.insertPolygon h p ctx).value with ⟨answer, c⟩
      cases answer <;> rfl
  | requestTexture h texture =>
      simp only [step, countFrom, ModelCache.requestTexture_countFrom]
      cases s.cache.requestTexture h texture s.host.textures <;> rfl
  | endModel h index offset =>
      simp only [step, countFrom, ModelCache.endModel_countFrom]
      rcases (s.cache.endModel s.host.backend h index offset).value with ⟨answer, c, backend⟩
      cases answer <;> rfl
  | abandon h =>
      simp only [step, countFrom, ModelCache.abandon_countFrom]
  | cacheModel ctx index offset words =>
      simp only [step, countFrom, ModelCache.cacheModel_countFrom]
      rcases (s.cache.cacheModel s.host ctx index offset words).value with ⟨answer, c, host⟩
      cases answer <;> rfl
  | appendModel id t =>
      simp only [step, countFrom, ModelCache.appendModel_countFrom]
      cases s.cache.appendModel id t <;> rfl
  | appendViewport v =>
      simp only [step, countFrom, ModelCache.appendViewport_countFrom]
      cases s.cache.appendViewport v <;> rfl
  | clearDisplayList | clear | elsewhere => rfl

theorem run_countFrom (n : Nat) (s : CacheSession β τ) (calls : List (CacheCall β τ)) :
    (s.countFrom n).run calls = (s.run calls).countFrom n := by
  induction calls generalizing s with
  | nil => rfl
  | cons call calls ih => rw [run_cons, run_cons, step_countFrom, ih]

theorem answers_countFrom (n : Nat) (s : CacheSession β τ) (calls : List (CacheCall β τ)) :
    (s.countFrom n).answers calls = s.answers calls := by
  induction calls generalizing s with
  | nil => rfl
  | cons call calls ih => rw [answers, answers, step_countFrom, ih]

theorem fixtures_step {s s' : CacheSession β τ} {call : CacheCall β τ} {answer : CacheAnswer}
    (hsteps : s.Steps call answer s') : s'.cache.fixtures = s.cache.fixtures := by
  cases hsteps with
  | inserted _ hstages | requested _ _ hstages => exact hstages.fixtures_eq
  | dropped | abandoned => exact ModelCache.fixtures_abandon s.cache _
  | cached _ _ _ hstages => exact hstages.fixtures_eq
  | uncached _ _ _ hstages => exact (ModelCache.fixtures_abandon _ _).trans hstages.fixtures_eq
  | appendedModel _ hl =>
      exact ModelCache.fixtures_of_displayList (DisplayList.capacity_appendModel hl)
  | appendedViewport hl =>
      exact ModelCache.fixtures_of_displayList (DisplayList.capacity_appendViewport hl)
  | cleared => exact ModelCache.fixtures_cleared s.cache
  | refused | begun | ended | clearedDisplayList | elsewhere => rfl

theorem fixtures_run (s : CacheSession β τ) (calls : List (CacheCall β τ)) :
    (s.run calls).cache.fixtures = s.cache.fixtures := by
  induction calls generalizing s with
  | nil => rfl
  | cons call calls ih => rw [run_cons, ih, fixtures_step (s.steps call)]

theorem isCovered_step {s s' : CacheSession β τ} {call : CacheCall β τ} {answer : CacheAnswer}
    (hsteps : s.Steps call answer s') (h : s.cache.IsCovered) : s'.cache.IsCovered := by
  cases hsteps with
  | inserted _ hstages | requested _ _ hstages => exact h.of_stagesOn hstages
  | ended => exact h.commit _ _ _
  | dropped | abandoned => exact h.abandon _
  | cached _ _ _ hstages =>
      have hbegun : s.cache.begun.IsCovered := h
      exact (hbegun.of_stagesOn hstages).commit _ _ _
  | uncached _ _ _ hstages =>
      have hbegun : s.cache.begun.IsCovered := h
      exact (hbegun.of_stagesOn hstages).abandon _
  | cleared => exact h.cleared
  | refused | begun | appendedModel | appendedViewport | clearedDisplayList | elsewhere => exact h

theorem isCovered_run {s : CacheSession β τ} (h : s.cache.IsCovered)
    (calls : List (CacheCall β τ)) : (s.run calls).cache.IsCovered := by
  induction calls generalizing s with
  | nil => exact h
  | cons call calls ih => exact ih (isCovered_step (s.steps call) h)

/-- After any calls with any handles, a cache that is cleared is the one that was
created, but for the count of polygons, which goes on. The host does not notice. Any
further calls answer as on the new cache and do the same to the host, and what is
looked up and drawn is the same. To clear the cache twice does no more. -/
theorem clear_run {limits : CacheLimits} {source : ModelSource} {b b' : β} {c : ModelCache}
    (hcreate : (ModelCache.create limits source b).value = (.ok c, b')) (textures : τ)
    (calls : List (CacheCall β τ)) :
    let s := (CacheSession.mk c ⟨b', textures⟩).run calls
    let cleared := (s.step .clear).2
    let new : CacheSession β τ := ⟨c, s.host⟩
    c = .empty limits source c.buffer c.bufferCapacity ∧
      cleared = ⟨{ c with polygonsInserted := s.cache.polygonsInserted }, s.host⟩ ∧
      (cleared.step .clear).2 = cleared ∧
      ∀ later : List (CacheCall β τ),
        cleared.answers later = new.answers later ∧
          cleared.run later = ⟨{ (new.run later).cache with
            polygonsInserted :=
              s.cache.polygonsInserted + (new.run later).cache.polygonsInserted },
            (new.run later).host⟩ ∧
          (∀ index offset, (cleared.run later).cache.lookUp index offset =
            (new.run later).cache.lookUp index offset) ∧
          ∀ (backend : β) p, (cleared.run later).cache.draw backend p =
            (new.run later).cache.draw backend p := by
  intro s cleared new
  obtain ⟨-, buffer, capacity, -, rfl, -⟩ := ModelCache.create_ok hcreate
  have hcovered : s.cache.IsCovered :=
    isCovered_run (ModelCache.isCovered_empty limits source buffer capacity) calls
  have hcleared : cleared = new.countFrom s.cache.polygonsInserted :=
    congrArg (CacheSession.mk · s.host)
      (ModelCache.cleared_eq_empty (fixtures_run _ calls) hcovered)
  have hnew : (new.step .clear).2 = new := rfl
  refine ⟨rfl, hcleared, ?_, ?_⟩
  · rw [hcleared, step_countFrom, hnew]
  · intro later
    have hrun := run_countFrom s.cache.polygonsInserted new later
    rw [hcleared, answers_countFrom, hrun]
    exact ⟨rfl, rfl, fun _ _ => rfl, fun _ _ => rfl⟩

/-- Two variants are cleared away, with a model beyond the table and one that is still
being staged. The handle of the latter is refused, and the next model is the first one
again. -/
theorem clear_run_two_variants :
    let p : Polygon Float32 := ⟨⟨0, 0, 0, 0, 0, 0, 0x80⟩, .zero, 3, 0, .solid⟩
    let ctx : DecodeContext := ⟨1, -1, 0, 0, #[], .unlessWord4, .origin⟩
    let limits : CacheLimits := ⟨64, 32, 4, 16, 8⟩
    let b : Recorder := .empty none
    let calls : List (CacheCall Recorder TextureLog) :=
      [.beginModel, .insertPolygon ⟨0, 0⟩ p ctx, .endModel ⟨0, 0⟩ 3 0x10, .beginModel,
        .endModel ⟨1, 99⟩ 3 0x20, .beginModel, .endModel ⟨2, 3⟩ 99 0, .beginModel]
    let later : List (CacheCall Recorder TextureLog) :=
      [.endModel ⟨2, 3⟩ 5 0, .beginModel, .endModel ⟨0, 0⟩ 3 0x20]
    ∃ c b', (ModelCache.create limits .static b).value = (.ok c, b') ∧
      let s := (CacheSession.mk c ⟨b', TextureLog.empty 16 .origin⟩).run calls
      let cleared := (s.step .clear).2
      cleared.answers later = [.failed .noModelInProgress, .begun ⟨0, 0⟩, .cached ⟨0⟩] ∧
        (cleared.run later).cache.lookUp 3 0x10 = none ∧
        (cleared.run later).cache.polygonsInserted = 1 := by
  intro p ctx limits b calls later
  have hcreate : (ModelCache.create limits .static b).value = (.ok _, _) :=
    ModelCache.create_of_granted rfl
  obtain ⟨-, -, -, hlater⟩ := clear_run hcreate (TextureLog.empty 16 .origin) calls
  obtain ⟨hanswers, hrun, hlookUp, -⟩ := hlater later
  refine ⟨_, _, hcreate, ?_⟩
  dsimp only
  rw [hanswers, hlookUp, hrun]
  decide +kernel

end CacheSession

end PolygonRenderer
