import PolygonRenderer.Proofs.DisplayList.Threads
import PolygonRenderer.Proofs.ModelCache.Caching
import PolygonRenderer.Proofs.ModelCache.Variants
import PolygonRenderer.Proofs.Renderer.Session

/-!
# Clearing and trying again

A cache that is full is cleared, and the draw is tried once more. The main statement
is that this is enough: a model that an empty cache would take is drawn, whatever is
cached at the time and however full the display list is.

Between two calls each cache of a renderer is in order (`ModelCache.IsInOrder`). The
first attempt then fails for want of room only, and the second one finds the cache
empty but for the viewport, which takes two nodes.
-/

namespace PolygonRenderer

namespace ModelCache

/-- No model is being staged, all links and counts are right, and the capacities are
what they were at first. -/
structure IsInOrder (limits : CacheLimits) (capacity : Nat) (c : ModelCache) : Prop where
  accounts : Accounts none c
  linked : c.IsLinked
  threaded : c.displayList.IsLinked
  bufferCapacity : c.bufferCapacity = capacity
  stagingCapacity : c.stagingCapacity = limits.stagingVertices
  maxModels : c.maxModels = limits.maxModels
  lutSize : c.lut.size = limits.lutEntries
  nodeCapacity : c.displayList.capacity = limits.displayListEntries

theorem isInOrder_empty (limits : CacheLimits) (source : ModelSource) (buffer : BufferHandle)
    (capacity : Nat) : IsInOrder limits capacity (empty limits source buffer capacity) where
  accounts := .empty limits source buffer capacity
  linked := isLinked_empty limits source buffer capacity
  threaded := DisplayList.isLinked_empty _
  bufferCapacity := rfl
  stagingCapacity := rfl
  maxModels := rfl
  lutSize := rfl
  nodeCapacity := rfl

namespace IsInOrder

variable {limits : CacheLimits} {capacity : Nat} {c c' : ModelCache}

theorem slot_eq_none (h : IsInOrder limits capacity c) : c.staging.slot = none := by
  cases h.accounts.current with
  | idle hslot => exact hslot

theorem of_displayList (h : IsInOrder limits capacity c) {l : DisplayList}
    (hthreaded : l.IsLinked) (hcapacity : l.capacity = c.displayList.capacity) :
    IsInOrder limits capacity { c with displayList := l } where
  accounts := h.accounts.of_displayList l
  linked := h.linked.of_eq rfl rfl (.inr rfl)
  threaded := hthreaded
  bufferCapacity := h.bufferCapacity
  stagingCapacity := h.stagingCapacity
  maxModels := h.maxModels
  lutSize := h.lutSize
  nodeCapacity := hcapacity.trans h.nodeCapacity

theorem cleared (h : IsInOrder limits capacity c) : IsInOrder limits capacity c.cleared where
  accounts := .cleared c
  linked := h.linked.cleared
  threaded := DisplayList.isLinked_empty _
  bufferCapacity := h.bufferCapacity
  stagingCapacity := h.stagingCapacity
  maxModels := h.maxModels
  lutSize := (size_lut_cleared c).trans h.lutSize
  nodeCapacity := h.nodeCapacity

theorem appendViewport (h : IsInOrder limits capacity c) {v : Viewport}
    (happend : c.appendViewport v = .ok c') : IsInOrder limits capacity c' := by
  obtain ⟨l, hl, rfl⟩ := appendViewport_ok happend
  exact h.of_displayList (h.threaded.appendViewport hl).1 (DisplayList.capacity_appendViewport hl)

theorem appendModel (h : IsInOrder limits capacity c) {id : ModelId} {t : Transform}
    (happend : c.appendModel id t = .ok c') : IsInOrder limits capacity c' := by
  obtain ⟨m, l, -, hl, rfl⟩ := appendModel_ok happend
  exact h.of_displayList (h.threaded.appendModel hl).1 (DisplayList.capacity_appendModel hl)

variable {β τ : Type} [Backend β] [TextureManager τ] {host host' : Host β τ}
  {ctx : DecodeContext} {index : UInt32} {offset : UInt16} {words : List UInt32}
  {answer : Except RenderError ModelId}

theorem cacheModel (h : IsInOrder limits capacity c)
    (hvalue : (c.cacheModel host ctx index offset words).value = (answer, c', host')) :
    IsInOrder limits capacity c' := by
  have haccounts := h.accounts.cacheModel host ctx index offset words
  have hlinked := h.linked.cacheModel host ctx index offset words
  obtain ⟨hdisplay, hstores, hlut, -⟩ := cacheModel_keeps hvalue
  rw [hvalue] at haccounts hlinked
  simp only [ModelCache.stores, Prod.mk.injEq] at hstores
  obtain ⟨-, hbuffer, hstaging, hmodels⟩ := hstores
  exact
    { accounts := haccounts
      linked := hlinked
      threaded := hdisplay ▸ h.threaded
      bufferCapacity := hbuffer.trans h.bufferCapacity
      stagingCapacity := hstaging.trans h.stagingCapacity
      maxModels := hmodels.trans h.maxModels
      lutSize := hlut.trans h.lutSize
      nodeCapacity := hdisplay ▸ h.nodeCapacity }

theorem keeps (limits : CacheLimits) (capacity : Nat) :
    Renderer.Keeps β τ (IsInOrder limits capacity) where
  clearDisplayList h := h.of_displayList (DisplayList.isLinked_empty _) rfl
  cleared h := h.cleared
  appendViewport h happend := h.appendViewport happend
  appendModel h happend := h.appendModel happend
  cacheModel h hvalue := h.cacheModel hvalue

/-- A model that fits is refused for want of room only, and then there are others. -/
theorem error_of_fits (h : IsInOrder limits capacity c)
    (hfits : Fits limits capacity ctx index words) {e : RenderError}
    (hvalue : (c.cacheModel host ctx index offset words).value = (.error e, c', host')) :
    e.isRecoverable = true ∧ c.models ≠ #[] := by
  have hanswer := answer_cacheModel h.slot_eq_none host ctx index offset words
  rw [hvalue, h.maxModels, h.stagingCapacity, h.bufferCapacity, h.lutSize,
    if_pos hfits.index] at hanswer
  have hcursor := h.accounts.cursor_eq_of_idle
  split at hanswer
  · rename_i hfull
    cases hanswer
    refine ⟨rfl, ?_⟩
    intro hnil
    rw [hnil] at hfull
    exact Nat.not_le.2 hfits.maxModels hfull
  · rcases verdict_of_le (Nat.zero_le c.cursor) hfits.verdict with hok | hfull
    · rw [hok] at hanswer
      cases hanswer
    · rw [hfull] at hanswer
      cases hanswer
      refine ⟨rfl, ?_⟩
      -- without models the cursor is at zero, where the model fits
      intro hnil
      rw [hnil] at hcursor
      rw [hcursor] at hfull
      cases hfits.verdict.symm.trans hfull

end IsInOrder

/-- The cache is in order, and empty but for the viewport. -/
structure IsBare (limits : CacheLimits) (capacity : Nat) (viewport : Option Viewport)
    (c : ModelCache) : Prop where
  inOrder : IsInOrder limits capacity c
  models : c.models = #[]
  displayList : match viewport with
    | none => c.displayList = .empty limits.displayListEntries
    | some v => (DisplayList.empty limits.displayListEntries).appendViewport v = .ok c.displayList

theorem isBare_empty (limits : CacheLimits) (source : ModelSource) (buffer : BufferHandle)
    (capacity : Nat) : IsBare limits capacity none (empty limits source buffer capacity) where
  inOrder := isInOrder_empty limits source buffer capacity
  models := rfl
  displayList := rfl

namespace IsBare

variable {limits : CacheLimits} {capacity : Nat} {viewport : Option Viewport} {c c' : ModelCache}

theorem cleared (h : IsInOrder limits capacity c) : IsBare limits capacity none c.cleared where
  inOrder := h.cleared
  models := rfl
  displayList := congrArg DisplayList.empty h.nodeCapacity

theorem appendViewport (h : IsBare limits capacity none c) {v : Viewport}
    (happend : c.appendViewport v = .ok c') : IsBare limits capacity (some v) c' := by
  have hc' := h.inOrder.appendViewport happend
  obtain ⟨l, hl, rfl⟩ := appendViewport_ok happend
  rw [h.displayList] at hl
  exact ⟨hc', h.models, hl⟩

theorem lookUp (h : IsBare limits capacity viewport c) (index : UInt32) (offset : UInt16) :
    c.lookUp index offset = none :=
  h.inOrder.linked.lookUp_of_isEmpty h.models index offset

theorem contents (h : IsBare limits capacity viewport c) (p : Pass) :
    c.displayList.contents p = viewport.toList.map .viewport := by
  have hdisplay := h.displayList
  cases viewport with
  | none => rw [hdisplay, DisplayList.contents_empty, Option.toList_none, List.map_nil]
  | some v =>
      rw [((DisplayList.isLinked_empty _).appendViewport hdisplay).2 p, DisplayList.contents_empty]
      rfl

theorem length_le (h : IsBare limits capacity viewport c) :
    c.displayList.length ≤ DisplayList.nodesPerAppend := by
  have hdisplay := h.displayList
  cases viewport with
  | none =>
      rw [hdisplay]
      exact Nat.zero_le _
  | some v =>
      have hlength := DisplayList.length_appendViewport hdisplay
      exact Nat.le_of_eq (hlength.trans (Nat.zero_add _))

end IsBare

/-- A model that enters is found under its key. -/
theorem IsLinked.lookUp_of_cacheModel {β τ : Type} [Backend β] [TextureManager τ]
    {c c' : ModelCache} (h : c.IsLinked) {host host' : Host β τ} {ctx : DecodeContext}
    {index : UInt32} {offset : UInt16} {words : List UInt32} {id : ModelId}
    (hvalue : (c.cacheModel host ctx index offset words).value = (.ok id, c', host')) :
    c'.lookUp index offset = some id := by
  have hlookUp := h.lookUp_cacheModel host ctx index offset words index offset
  rw [hvalue] at hlookUp
  exact hlookUp.trans (if_pos rfl)

/-- The model of a request is found, and its instance comes last in the list of each
pass that it has vertices for. -/
structure HasDrawn (c : ModelCache) (q : ModelRequest) (t : Transform) (id : ModelId) : Prop where
  lookUp : c.lookUp q.lutIndex q.textureOffset = some id
  last : ∃ m, c.model? id = some m ∧ ∀ p, (m.ranges.get p).count ≠ 0 →
    (c.displayList.contents p).getLast? =
      some (.model ⟨m.ranges.get p, t.modelView, Winding.ofTransform t.modelView t.zSign⟩)

end ModelCache

namespace Drawing

open ModelCache

variable {β τ : Type} {limits : CacheLimits} {capacity : Nat} {x y : Drawing β τ}
  {ctx : DecodeContext} {q : ModelRequest} {t : Transform} {id : ModelId} {e : RenderError}

/-- A cache that is cleared takes the viewport again, if it would ever take one. -/
theorem makeRoom_of_isInOrder (hx : IsInOrder limits capacity x.cache) (source : ModelSource)
    (viewport : Option Viewport)
    (hviewport : viewport.isSome = true → DisplayList.nodesPerAppend ≤ limits.displayListEntries) :
    ∃ y, (x.makeRoom source viewport).value = (.ok (), y) ∧
      IsBare limits capacity viewport y.cache := by
  have hcleared := IsBare.cleared hx
  have hlength : x.cache.cleared.displayList.length = 0 := rfl
  rcases x.makeRoom_cases source viewport with
    ⟨v, e, rfl, happend, -⟩ | ⟨rfl, hnone⟩ | ⟨v, c, rfl, happend, hsome⟩
  · have hfull := of_decide_eq_false (appendViewport_error happend).1
    rw [hlength, Nat.zero_add, hcleared.inOrder.nodeCapacity] at hfull
    exact absurd (hviewport rfl) hfull
  · exact ⟨_, hnone, hcleared⟩
  · exact ⟨_, hsome, hcleared.appendViewport happend⟩

variable [Backend β] [TextureManager τ]

theorem obtain_ok (hx : IsInOrder limits capacity x.cache)
    (hvalue : (x.obtain ctx q).value = (.ok id, y)) :
    IsInOrder limits capacity y.cache ∧ y.cache.displayList = x.cache.displayList ∧
      y.cache.lookUp q.lutIndex q.textureOffset = some id := by
  obtain ⟨stats, -, ⟨id', hfound, hhit⟩ | ⟨answer, c, host, hcache, hmiss⟩⟩ := x.obtain_cases ctx q
  · rw [hhit] at hvalue
    cases hvalue
    exact ⟨hx, rfl, hfound⟩
  · rw [hmiss] at hvalue
    cases hvalue
    exact ⟨hx.cacheModel hcache, (cacheModel_keeps hcache).1, hx.linked.lookUp_of_cacheModel hcache⟩

theorem obtain_error (hx : IsInOrder limits capacity x.cache)
    (hfits : Fits limits capacity ctx q.lutIndex q.words)
    (hvalue : (x.obtain ctx q).value = (.error e, y)) :
    e.isRecoverable = true ∧ x.cache.models ≠ #[] := by
  obtain ⟨stats, -, ⟨id', -, hhit⟩ | ⟨answer, c, host, hcache, hmiss⟩⟩ := x.obtain_cases ctx q
  · rw [hhit] at hvalue
    cases hvalue
  · rw [hmiss] at hvalue
    cases hvalue
    exact hx.error_of_fits hfits hcache

/-- A draw that succeeds at the first attempt leaves the instance behind. -/
theorem attempt_ok (hx : IsInOrder limits capacity x.cache)
    (hvalue : (x.attempt ctx q t).value = (.ok id, y)) : y.cache.HasDrawn q t id := by
  obtain ⟨z, c, hobtain, happend, rfl⟩ := of_attempt_ok hvalue
  obtain ⟨hz, -, hfound⟩ := obtain_ok hx hobtain
  obtain ⟨m, l, hm, hl, rfl⟩ := appendModel_ok happend
  refine ⟨hfound, m, hm, ?_⟩
  intro p hcount
  rw [(hz.threaded.appendModel hl).2 p, if_pos hcount, List.getLast?_append]
  rfl

theorem nodesPerAppend_le_of_attempt (hx : IsInOrder limits capacity x.cache)
    (hvalue : (x.attempt ctx q t).value = (.ok id, y)) :
    DisplayList.nodesPerAppend ≤ limits.displayListEntries := by
  obtain ⟨z, c, hobtain, happend, -⟩ := of_attempt_ok hvalue
  obtain ⟨hz, -, -⟩ := obtain_ok hx hobtain
  obtain ⟨m, l, -, hl, -⟩ := appendModel_ok happend
  rw [← hz.nodeCapacity]
  exact DisplayList.nodesPerAppend_le_of_appendModel hl

/-- After the first attempt, whatever came of it, there is always room for the viewport. -/
theorem makeRoom_of_attempt (hx : IsInOrder limits capacity x.cache) {viewport : Option Viewport}
    (hviewport : viewport.isSome = true → DisplayList.nodesPerAppend ≤ limits.displayListEntries)
    {answer : Except RenderError ModelId} (hvalue : (x.attempt ctx q t).value = (answer, y)) :
    ∃ z, (y.makeRoom q.source viewport).value = (.ok (), z) ∧
      IsBare limits capacity viewport z.cache := by
  have hmoves : Moves viewport ctx q t x y := .of_attempt hvalue
  have hy := (IsInOrder.keeps limits capacity).moves hmoves hx
  exact makeRoom_of_isInOrder hy q.source viewport hviewport

/-- A draw is one attempt, or a failed one and one at a bare cache. -/
theorem run_cases_of_isInOrder (hx : IsInOrder limits capacity x.cache)
    {viewport : Option Viewport}
    (hviewport : viewport.isSome = true → DisplayList.nodesPerAppend ≤ limits.displayListEntries)
    (ctx : DecodeContext) (q : ModelRequest) (t : Transform) :
    (x.run viewport ctx q t).value = (x.attempt ctx q t).value ∧
        (∀ e y, (x.attempt ctx q t).value = (.error e, y) → e.isRecoverable = false) ∨
      ∃ e y z, (x.attempt ctx q t).value = (.error e, y) ∧
        (y.makeRoom q.source viewport).value = (.ok (), z) ∧
        IsBare limits capacity viewport z.cache ∧
        (x.run viewport ctx q t).value = (z.attempt ctx q t).value := by
  rcases x.run_cases viewport ctx q t with hfinal | ⟨e, y, hfirst, -, hretry⟩
  · exact .inl hfinal
  · obtain ⟨z, hroom, hz⟩ := makeRoom_of_attempt hx hviewport hfirst
    rw [hroom] at hretry
    rcases hretry with ⟨e', z', ⟨⟩, -⟩ | ⟨z', ⟨⟩, hrun⟩
    exact .inr ⟨e, y, z, hfirst, hroom, hz, hrun⟩

/-- A draw that succeeds does so in one of two attempts. -/
theorem exists_attempt_of_run (hx : IsInOrder limits capacity x.cache)
    {viewport : Option Viewport} (hvalue : (x.run viewport ctx q t).value = (.ok id, y)) :
    ∃ z : Drawing β τ, IsInOrder limits capacity z.cache ∧
      (z.attempt ctx q t).value = (.ok id, y) := by
  rcases x.run_cases viewport ctx q t with ⟨hrun, -⟩ | ⟨e, z, hfirst, -, hretry⟩
  · exact ⟨x, hx, hrun.symm.trans hvalue⟩
  · rcases hretry with ⟨e', w, -, hrun⟩ | ⟨w, hroom, hrun⟩
    · rw [hrun] at hvalue
      cases hvalue
    · have hmoves : Moves viewport ctx q t x w :=
        (Moves.of_attempt hfirst).trans (.of_makeRoom hroom)
      exact ⟨w, (IsInOrder.keeps limits capacity).moves hmoves hx, hrun.symm.trans hvalue⟩

/-- A draw that succeeds leaves the instance behind. -/
theorem run_ok (hx : IsInOrder limits capacity x.cache) {viewport : Option Viewport}
    (hvalue : (x.run viewport ctx q t).value = (.ok id, y)) : y.cache.HasDrawn q t id := by
  obtain ⟨z, hz, hattempt⟩ := exists_attempt_of_run hx hvalue
  exact attempt_ok hz hattempt

/-- The first attempt at a model that fits fails for want of room only. -/
theorem attempt_error (hx : IsInOrder limits capacity x.cache)
    (hfits : Fits limits capacity ctx q.lutIndex q.words)
    (hvalue : (x.attempt ctx q t).value = (.error e, y)) :
    e.isRecoverable = true ∧
      (x.cache.models ≠ #[] ∨ x.cache.displayList.hasRoom = false) := by
  rcases of_attempt_error hvalue with hobtain | ⟨id, hobtain, happend⟩
  · obtain ⟨hrecoverable, hmodels⟩ := obtain_error hx hfits hobtain
    exact ⟨hrecoverable, .inl hmodels⟩
  · obtain ⟨hz, hdisplay, hfound⟩ := obtain_ok hx hobtain
    obtain ⟨m, hm, -⟩ := hz.linked.exists_of_lookUp hfound
    obtain ⟨hfull, rfl⟩ := appendModel_error hm happend
    exact ⟨rfl, .inr (hdisplay ▸ hfull)⟩

/-- Into an empty cache, with room in the display list, a model that fits is drawn at the
first attempt. -/
theorem attempt_of_fits (hx : IsInOrder limits capacity x.cache)
    (hfits : Fits limits capacity ctx q.lutIndex q.words) (hmodels : x.cache.models = #[])
    (hroom : x.cache.displayList.hasRoom = true) (t : Transform) :
    ∃ id y, (x.attempt ctx q t).value = (.ok id, y) := by
  rcases hattempt : (x.attempt ctx q t).value with ⟨answer, y⟩
  cases answer with
  | ok id => exact ⟨id, y, rfl⟩
  | error e =>
      -- a failure would take other models or a full list, and there are neither
      rcases (attempt_error hx hfits hattempt).2 with hothers | hfull
      · exact absurd hmodels hothers
      · rw [hroom] at hfull
        cases hfull

theorem run_of_empty (hx : IsInOrder limits capacity x.cache)
    (hfits : Fits limits capacity ctx q.lutIndex q.words) (hmodels : x.cache.models = #[])
    (hroom : x.cache.displayList.hasRoom = true) (viewport : Option Viewport) (t : Transform) :
    ∃ id y, (x.run viewport ctx q t).value = (.ok id, y) := by
  obtain ⟨id, y, hattempt⟩ := attempt_of_fits hx hfits hmodels hroom t
  rcases x.run_cases viewport ctx q t with ⟨hrun, -⟩ | ⟨e, z, hfailed, -⟩
  · exact ⟨id, y, hrun.trans hattempt⟩
  · rw [hattempt] at hfailed
    cases hfailed

theorem run_of_fits (hx : IsInOrder limits capacity x.cache)
    (hfits : Fits limits capacity ctx q.lutIndex q.words)
    (hnodes : 2 * DisplayList.nodesPerAppend ≤ limits.displayListEntries)
    (viewport : Option Viewport) (t : Transform) :
    ∃ id y, (x.run viewport ctx q t).value = (.ok id, y) ∧ y.cache.HasDrawn q t id := by
  have hviewport : viewport.isSome = true →
      DisplayList.nodesPerAppend ≤ limits.displayListEntries :=
    fun _ => Nat.le_trans (Nat.le_mul_of_pos_left _ Nat.two_pos) hnodes
  rcases run_cases_of_isInOrder hx hviewport ctx q t with
    ⟨hrun, hfinal⟩ | ⟨e, z, w, -, -, hw, hrun⟩
  · rcases hattempt : (x.attempt ctx q t).value with ⟨answer, y⟩
    rw [hattempt] at hrun
    cases answer with
    | ok id => exact ⟨id, y, hrun, attempt_ok hx hattempt⟩
    | error e =>
        have hrecoverable := (attempt_error hx hfits hattempt).1
        rw [hfinal e y hattempt] at hrecoverable
        cases hrecoverable
  · have hhasRoom : w.cache.displayList.hasRoom = true := by
      have hlength := hw.length_le
      rw [DisplayList.hasRoom, hw.inOrder.nodeCapacity, decide_eq_true_eq]
      omega
    obtain ⟨id, y, hattempt⟩ := attempt_of_fits hw.inOrder hfits hw.models hhasRoom t
    exact ⟨id, y, hrun.trans hattempt, attempt_ok hw.inOrder hattempt⟩

end Drawing

namespace Renderer

variable {β τ : Type} [Backend β] [TextureManager τ]

theorem isInOrder_create {config : Config} {b b' : β} {r : Renderer}
    (hcreate : (create config b).value = (.ok r, b')) (source : ModelSource) :
    (r.cache source).IsInOrder (config.limits source) (r.cache source).bufferCapacity := by
  obtain ⟨buffer, capacity, hcache⟩ := cache_of_create hcreate source
  rw [hcache]
  exact ModelCache.isInOrder_empty (config.limits source) source buffer capacity

/-- Both caches are in order after any calls, with the capacities that they were
created with. -/
theorem isInOrder_run {config : Config} {b b' : β} {r : Renderer}
    (hcreate : (create config b).value = (.ok r, b')) (calls : List (RendererCall β τ))
    (source : ModelSource) : ((r.run calls).cache source).IsInOrder (config.limits source)
      (r.cache source).bufferCapacity :=
  cache_run (fun source => ModelCache.IsInOrder.keeps (config.limits source)
    (r.cache source).bufferCapacity) (isInOrder_create hcreate) calls source

/-- After any calls, a model that an empty cache would take is drawn, if the display
list has room for two appends. -/
theorem drawModel_of_cached_alone {config : Config} {b b' : β} {r₀ r : Renderer}
    (hcreate : (create config b).value = (.ok r₀, b')) {calls : List (RendererCall β τ)}
    (hrun : r₀.run calls = r) {host aside : Host β τ} {q : ModelRequest} {t : Transform}
    {buffer : BufferHandle} {offset : UInt16} {id₀ : ModelId}
    (halone : ((ModelCache.empty (config.limits q.source) q.source buffer
      (r.cache q.source).bufferCapacity).cacheModel aside (r.decodeContext host.textures q t)
      q.lutIndex offset q.words).value.1 = .ok id₀)
    (hnodes : 4 ≤ (config.limits q.source).displayListEntries) :
    ∃ id r' host', (r.drawModel host q t).value = (.ok id, r', host') ∧
      (r'.cache q.source).HasDrawn q t id := by
  have hx := isInOrder_run hcreate calls q.source
  rw [hrun] at hx
  have hfits := ModelCache.fits_of_empty halone
  rw [hx.bufferCapacity] at hfits
  obtain ⟨id, y, hvalue, hdrawn⟩ := Drawing.run_of_fits (x := ⟨r.cache q.source, r.stats, host⟩)
    hx hfits hnodes r.viewport t
  refine ⟨id, _, _, drawModel_of_run hvalue, ?_⟩
  have hcache : ({ r.setCache q.source y.cache with stats := y.stats } : Renderer).cache q.source =
      y.cache := r.cache_setCache_self q.source y.cache
  rw [hcache]
  exact hdrawn

/-- A cache for one model is full, and has to be cleared for the next one. -/
theorem drawModel_of_cached_alone_second :
    let limits : CacheLimits := ⟨64, 32, 1, 16, 8⟩
    let config : Config := ⟨limits, limits, .unlessWord4, 1⟩
    let words : List UInt32 := [0, 4, 0, 0, 0, 0, 1, 1, 2, 3, 4, 5, 6, 7, 8, 9, 10, 11, 12]
    let first : ModelRequest := ⟨.static, 3, 0, 0, 0, words, #[]⟩
    let second : ModelRequest := ⟨.static, 5, 0, 0, 0, words, #[]⟩
    let host : Host Recorder TextureLog := ⟨.empty none, .empty 16 .origin⟩
    let r₀ : Renderer :=
      ⟨config, .empty limits .static ⟨0⟩ 64, .empty limits .dynamic ⟨1⟩ 64, none, .zero⟩
    let r := r₀.run [.setViewport .screen, .drawModel host first .identity]
    (∃ b', (create config (Recorder.empty none)).value = (.ok r₀, b')) ∧
      ∃ id r' host', (r.drawModel host second .identity).value = (.ok id, r', host') ∧
        (r'.cache .static).HasDrawn second .identity id := by
  intro limits config words first second host r₀ r
  have hstatic : (ModelCache.create limits .static (Recorder.empty none)).value = (.ok _, _) :=
    ModelCache.create_of_granted rfl
  have hcreate : (create config (Recorder.empty none)).value = (.ok r₀, _) :=
    create_of_created hstatic (ModelCache.create_of_granted rfl)
  have hcapacity : (r.cache .static).bufferCapacity = 64 :=
    (isInOrder_run hcreate _ .static).bufferCapacity
  have halone : ((ModelCache.empty limits .static ⟨0⟩
      (r.cache .static).bufferCapacity).cacheModel host
        (r.decodeContext host.textures second .identity) 5 0 words).value.1 = .ok ⟨0⟩ := by
    rw [hcapacity, ModelCache.answer_cacheModel rfl, Decoder.events_of_step_yielded rfl rfl,
      Decoder.events_of_finished rfl]
    rfl
  exact ⟨⟨_, hcreate⟩, drawModel_of_cached_alone hcreate rfl halone (by decide)⟩

end Renderer

end PolygonRenderer
