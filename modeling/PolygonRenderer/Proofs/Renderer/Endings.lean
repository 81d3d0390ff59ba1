import PolygonRenderer.Proofs.ModelCache.Rejection
import PolygonRenderer.Proofs.Renderer.Retry

/-!
# How draws end

There are two attempts at a draw, with a clear in between, and each may fail while the
model is cached or when it is appended. Still there are only three ways for a draw to
fail (`Drawing.Fails`): at once, with the cache intact, or after a clear, with a cache that
holds the viewport and perhaps the model. The viewport itself always goes back, for it was
accepted by a list of the same capacity.

Nothing else comes out of a renderer. The errors for a wrong use of a cache never do, as no
model is being staged between two calls (`Renderer.IsReady`) and every number that is used
was just found or given out.
-/

namespace PolygonRenderer

/-- The model is one that a request asks for. -/
structure CachedModel.IsFor (m : CachedModel) (q : ModelRequest) : Prop where
  lutIndex : m.lutIndex = q.lutIndex
  textureOffset : m.textureOffset = q.textureOffset

/-- The error is a reason to reject the model of a request. -/
def ModelRequest.IsRejectedWith (q : ModelRequest) (limits : CacheLimits) (vertexFactor : Float32)
    (e : RenderError) : Prop :=
  e.IsRejection limits.stagingVertices limits.lutEntries q.lutIndex
    (Decoder.start q.words vertexFactor).items

/-- The cache was used in a wrong way. -/
def RenderError.isMisuse : RenderError → Bool
  | .stagingInProgress | .noModelInProgress | .unknownModel _ => true
  | _ => false

namespace ModelRequest.IsRejectedWith

variable {q : ModelRequest} {limits : CacheLimits} {vertexFactor : Float32} {e : RenderError}

theorem isMisuse_eq (h : q.IsRejectedWith limits vertexFactor e) : e.isMisuse = false := by
  cases h <;> rfl

theorem ne_displayListFull (h : q.IsRejectedWith limits vertexFactor e) :
    e ≠ .displayListFull := by
  cases h <;> exact nofun

end ModelRequest.IsRejectedWith

namespace ModelCache

variable {β τ : Type} [Backend β] [TextureManager τ] {limits : CacheLimits} {capacity : Nat}
  {c c' : ModelCache} {host host' : Host β τ} {ctx : DecodeContext}

theorem IsInOrder.isRejectedWith (h : IsInOrder limits capacity c) {q : ModelRequest}
    {e : RenderError}
    (hvalue : (c.cacheModel host ctx q.lutIndex q.textureOffset q.words).value =
      (.error e, c', host')) : q.IsRejectedWith limits ctx.vertexFactor e := by
  rw [ModelRequest.IsRejectedWith, ← h.stagingCapacity, ← h.lutSize]
  exact isRejection_of_cacheModel h.slot_eq_none (congrArg (·.1) hvalue)

/-- A list that has taken a viewport would always take one when it is empty. -/
theorem IsInOrder.nodesPerAppend_le (h : IsInOrder limits capacity c) {v : Viewport}
    (happend : c.appendViewport v = .ok c') :
    DisplayList.nodesPerAppend ≤ limits.displayListEntries := by
  obtain ⟨l, hl, -⟩ := appendViewport_ok happend
  rw [← h.nodeCapacity]
  exact DisplayList.nodesPerAppend_le_of_appendViewport hl

/-- A model that enters an empty cache is the only one. -/
theorem models_of_cacheModel (hmodels : c.models = #[]) {q : ModelRequest} {id : ModelId}
    (hvalue : (c.cacheModel host ctx q.lutIndex q.textureOffset q.words).value =
      (.ok id, c', host')) : id = ⟨0⟩ ∧ ∃ m, c'.models = #[m] ∧ m.IsFor q := by
  obtain ⟨hid, -, textures, hpush⟩ := cacheModel_pushes hvalue
  rw [hmodels] at hid hpush
  exact ⟨hid, _, hpush, rfl, rfl⟩

end ModelCache

namespace Drawing

open ModelCache

variable {β τ : Type} [Backend β] [TextureManager τ] {limits : CacheLimits} {capacity : Nat}
  {x y : Drawing β τ} {viewport : Option Viewport} {ctx : DecodeContext} {q : ModelRequest}
  {t : Transform} {id : ModelId} {e : RenderError}

/-- An attempt fails because the model is rejected, or because the list is full. -/
theorem attempt_error_cases (hx : IsInOrder limits capacity x.cache)
    (hvalue : (x.attempt ctx q t).value = (.error e, y)) :
    q.IsRejectedWith limits ctx.vertexFactor e ∧ x.cache.Intact y.cache ∨
      e = .displayListFull ∧ ∃ id, (x.obtain ctx q).value = (.ok id, y) := by
  rcases of_attempt_error hvalue with hobtain | ⟨id, hobtain, happend⟩
  · obtain ⟨stats, -, ⟨id', -, hhit⟩ | ⟨answer, c, host, hcache, hmiss⟩⟩ := x.obtain_cases ctx q
    · rw [hhit] at hobtain
      cases hobtain
    · rw [hmiss] at hobtain
      cases hobtain
      exact .inl ⟨hx.isRejectedWith hcache, intact_of_cacheModel hcache⟩
  · obtain ⟨hz, -, hfound⟩ := obtain_ok hx hobtain
    obtain ⟨m, hm, -⟩ := hz.linked.exists_of_lookUp hfound
    exact .inr ⟨(appendModel_error hm happend).2, id, hobtain⟩

/-- In a bare cache nothing is found, so what is obtained there is the only model. -/
theorem models_of_obtain (hx : IsBare limits capacity viewport x.cache)
    (hvalue : (x.obtain ctx q).value = (.ok id, y)) :
    id = ⟨0⟩ ∧ ∃ m, y.cache.models = #[m] ∧ m.IsFor q := by
  have hmissing := hx.lookUp q.lutIndex q.textureOffset
  obtain ⟨stats, -, ⟨id', hfound, -⟩ | ⟨answer, c, host, hcache, hmiss⟩⟩ := x.obtain_cases ctx q
  · rw [hmissing] at hfound
    cases hfound
  · rw [hmiss] at hvalue
    cases hvalue
    exact models_of_cacheModel hx.models hcache

/-- A draw that succeeds gives out the number of a model that was asked for. -/
theorem isFor_of_run (hx : IsInOrder limits capacity x.cache)
    (hvalue : (x.run viewport ctx q t).value = (.ok id, y)) :
    ∃ m, y.cache.model? id = some m ∧ m.IsFor q := by
  have hy := (IsInOrder.keeps limits capacity).moves (.of_run hvalue) hx
  obtain ⟨m, hm, hindex, hoffset⟩ := hy.linked.exists_of_lookUp (run_ok hx hvalue).lookUp
  exact ⟨m, hm, hindex, hoffset⟩

/-- How a draw fails, and what it leaves behind then. -/
inductive Fails (limits : CacheLimits) (viewport : Option Viewport) (ctx : DecodeContext)
    (q : ModelRequest) (x : Drawing β τ) : RenderError → Drawing β τ → Prop
  /-- The model is rejected, and a clear would not help. -/
  | rejected {e : RenderError} {y : Drawing β τ}
      (hclears : ∀ source, y.stats.clears source = x.stats.clears source)
      (hreason : q.IsRejectedWith limits ctx.vertexFactor e) (hfinal : e.isRecoverable = false)
      (hintact : x.cache.Intact y.cache) : Fails limits viewport ctx q x e y
  /-- The cache is cleared, and the model is rejected by the bare cache. -/
  | uncached {e : RenderError} {y : Drawing β τ}
      (hclears : ∀ source, y.stats.clears source =
        x.stats.clears source + if source = q.source then 1 else 0)
      (hreason : q.IsRejectedWith limits ctx.vertexFactor e) (hmodels : y.cache.models = #[])
      (hcontents : ∀ p, y.cache.displayList.contents p = viewport.toList.map .viewport) :
      Fails limits viewport ctx q x e y
  /-- The cache is cleared and takes the model, but there is no room to list it. -/
  | unlisted {m : CachedModel} {y : Drawing β τ}
      (hclears : ∀ source, y.stats.clears source =
        x.stats.clears source + if source = q.source then 1 else 0)
      (hmodels : y.cache.models = #[m]) (hm : m.IsFor q)
      (hfound : y.cache.lookUp q.lutIndex q.textureOffset = some ⟨0⟩)
      (hcontents : ∀ p, y.cache.displayList.contents p = viewport.toList.map .viewport) :
      Fails limits viewport ctx q x .displayListFull y

omit [Backend β] [TextureManager τ] in
theorem Fails.reason (h : x.Fails limits viewport ctx q e y) :
    e = .displayListFull ∨ q.IsRejectedWith limits ctx.vertexFactor e := by
  cases h with
  | rejected _ hreason | uncached _ hreason => exact .inr hreason
  | unlisted => exact .inl rfl

omit [Backend β] [TextureManager τ] in
theorem Fails.clears_of_ne (h : x.Fails limits viewport ctx q e y) {other : ModelSource}
    (hother : other ≠ q.source) : y.stats.clears other = x.stats.clears other := by
  cases h with
  | rejected hclears => exact hclears other
  | uncached hclears | unlisted hclears =>
      have hcounted := hclears other
      rw [if_neg hother] at hcounted
      exact hcounted

/-- There is no other way to fail. -/
theorem fails_of_run (hx : IsInOrder limits capacity x.cache)
    (hviewport : viewport.isSome = true → DisplayList.nodesPerAppend ≤ limits.displayListEntries)
    (hvalue : (x.run viewport ctx q t).value = (.error e, y)) :
    x.Fails limits viewport ctx q e y := by
  rcases run_cases_of_isInOrder hx hviewport ctx q t with
    ⟨hrun, hfinal⟩ | ⟨e₁, z, w, hfirst, hroom, hw, hrun⟩
  · have hattempt := hrun.symm.trans hvalue
    have hfinal := hfinal e y hattempt
    rcases attempt_error_cases hx hattempt with ⟨hreason, hintact⟩ | ⟨rfl, -⟩
    · exact .rejected (clears_of_attempt hattempt) hreason hfinal hintact
    · -- a full list is a reason to clear
      cases hfinal
  · have hattempt := hrun.symm.trans hvalue
    have hclears : ∀ source, y.stats.clears source =
        x.stats.clears source + if source = q.source then 1 else 0 := by
      intro source
      rw [clears_of_attempt hattempt, stats_of_makeRoom hroom, FrameStats.clears_countClear_eq,
        clears_of_attempt hfirst]
    rcases attempt_error_cases hw.inOrder hattempt with ⟨hreason, hintact⟩ | ⟨rfl, id, hobtain⟩
    · refine .uncached hclears hreason (hintact.models_eq.trans hw.models) ?_
      intro p
      rw [hintact.displayList_eq, hw.contents]
    · obtain ⟨-, hdisplay, hfound⟩ := obtain_ok hw.inOrder hobtain
      obtain ⟨rfl, m, hmodels, hm⟩ := models_of_obtain hw hobtain
      refine .unlisted hclears hmodels hm hfound ?_
      intro p
      rw [hdisplay, hw.contents]

end Drawing

namespace Renderer

variable {β τ : Type} [Backend β] [TextureManager τ] {config : Config}
  {capacity : ModelSource → Nat} {r : Renderer}

/-- What holds of a renderer between two calls: both caches are in order, and each would
take the viewport again if it were empty. -/
structure IsReady (config : Config) (capacity : ModelSource → Nat) (r : Renderer) : Prop where
  inOrder : ∀ source, (r.cache source).IsInOrder (config.limits source) (capacity source)
  fits : r.viewport.isSome = true → ∀ source,
    DisplayList.nodesPerAppend ≤ (config.limits source).displayListEntries

namespace IsReady

theorem create {b b' : β} (hcreate : (Renderer.create config b).value = (.ok r, b')) :
    r.IsReady config fun source => (r.cache source).bufferCapacity where
  inOrder := isInOrder_create hcreate
  fits hsome := by
    obtain ⟨c, c', b₁, -, -, rfl⟩ := create_ok hcreate
    cases hsome

theorem step (h : r.IsReady config capacity) (call : RendererCall β τ) :
    (r.step call).IsReady config capacity where
  inOrder := cache_step
    (fun source => ModelCache.IsInOrder.keeps (config.limits source) (capacity source))
    h.inOrder call
  fits := by
    cases call with
    | beginFrame => exact nofun
    | setViewport v =>
        rw [Renderer.step]
        rcases r.setViewport_cases v with he | ⟨c, c', hstatic, hdynamic, hok⟩
        · rw [he]
          exact h.fits
        · intro _ source
          cases source with
          | static => exact (h.inOrder .static).nodesPerAppend_le hstatic
          | dynamic => exact (h.inOrder .dynamic).nodesPerAppend_le hdynamic
    | drawModel host q t =>
        rcases hvalue : (Drawing.run ⟨r.cache q.source, r.stats, host⟩ r.viewport
          (r.decodeContext host.textures q t) q t).value with ⟨answer, y⟩
        rw [step_drawModel hvalue]
        simp only [viewport_setCache]
        exact h.fits

theorem run (h : r.IsReady config capacity) (calls : List (RendererCall β τ)) :
    (r.run calls).IsReady config capacity := by
  induction calls generalizing r with
  | nil => exact h
  | cons call calls ih => exact ih (h.step call)

end IsReady

/-- A draw that fails leaves the viewport and the other cache alone, and no model is being
staged afterwards. Either no clear was counted, the error is not recoverable, and the cache
is intact; or one clear was counted, and the cache holds the viewport and nothing else, or
the model as well if all that failed was to list it. That the viewport does not fit again
is not among the reasons. -/
theorem intact_or_bare_of_error {b b' : β} {r₀ r r' : Renderer}
    (hcreate : (create config b).value = (.ok r₀, b')) {calls : List (RendererCall β τ)}
    (hrun : r₀.run calls = r) {host host' : Host β τ} {q : ModelRequest} {t : Transform}
    {e : RenderError} (h : (r.drawModel host q t).value = (.error e, r', host')) :
    let c := r.cache q.source
    let c' := r'.cache q.source
    r'.viewport = r.viewport ∧ (∀ source, (r'.cache source).staging.slot = none) ∧
      (∀ other, other ≠ q.source → r'.cache other = r.cache other ∧
        r'.stats.clears other = r.stats.clears other) ∧
      (∀ e₁ y, (Drawing.attempt ⟨c, r.stats, host⟩ (r.decodeContext host.textures q t) q t).value =
        (.error e₁, y) → ∃ z, (y.makeRoom q.source r.viewport).value = (.ok (), z)) ∧
      (r'.stats.clears q.source = r.stats.clears q.source ∧ e.isRecoverable = false ∧
          c.Intact c' ∨
        r'.stats.clears q.source = r.stats.clears q.source + 1 ∧
          (∀ p, c'.displayList.contents p = r.viewport.toList.map .viewport) ∧
          if e = .displayListFull then
            (∃ m, c'.models = #[m] ∧ m.IsFor q) ∧
              c'.lookUp q.lutIndex q.textureOffset = some ⟨0⟩
          else c'.models = #[] ∧ ∀ i o, c'.lookUp i o = none) := by
  intro c c'
  have hready := (IsReady.create hcreate).run calls
  rw [hrun] at hready
  have hviewport := fun hsome => hready.fits hsome q.source
  obtain ⟨y, hvalue, hr', hcache⟩ := exists_run_of_drawModel h
  have hfails := Drawing.fails_of_run (hready.inOrder q.source) hviewport hvalue
  have hafter := (hready.step (.drawModel host q t)).inOrder
  rw [step_drawModel hvalue, ← hr'] at hafter
  refine ⟨?_, fun source => (hafter source).slot_eq_none, ?_, ?_, ?_⟩
  · rw [hr']
    exact r.viewport_setCache q.source y.cache
  · intro other hother
    rw [hr']
    exact ⟨r.cache_setCache_of_ne y.cache hother, hfails.clears_of_ne hother⟩
  · intro e₁ z hfirst
    obtain ⟨w, hroom, -⟩ := Drawing.makeRoom_of_attempt (hready.inOrder q.source) hviewport hfirst
    exact ⟨w, hroom⟩
  · have hlinked := (hafter q.source).linked
    have hstats : r'.stats = y.stats := by rw [hr']
    rw [show c' = y.cache from hcache, hstats]
    rw [hcache] at hlinked
    cases hfails with
    | rejected hclears _ hfinal hintact => exact .inl ⟨hclears q.source, hfinal, hintact⟩
    | uncached hclears hreason hmodels hcontents =>
        have hcounted := hclears q.source
        rw [if_pos rfl] at hcounted
        rw [if_neg hreason.ne_displayListFull]
        exact .inr ⟨hcounted, hcontents, hmodels, hlinked.lookUp_of_isEmpty hmodels⟩
    | unlisted hclears hmodels hm hfound hcontents =>
        have hcounted := hclears q.source
        rw [if_pos rfl] at hcounted
        rw [if_pos rfl]
        exact .inr ⟨hcounted, hcontents, ⟨_, hmodels, hm⟩, hfound⟩

/-- A list of three nodes takes the viewport, but no instance besides. The model is cached
once more after the clear, and stays. -/
theorem bare_of_short_list :
    let limits : CacheLimits := ⟨64, 32, 4, 16, 3⟩
    let config : Config := ⟨limits, limits, .unlessWord4, 1⟩
    let words : List UInt32 := [0, 4, 0, 0, 0, 0, 1, 1, 2, 3, 4, 5, 6, 7, 8, 9, 10, 11, 12]
    let q : ModelRequest := ⟨.static, 3, 0, 0, 0, words, #[]⟩
    let host : Host Recorder TextureLog := ⟨.empty none, .empty 16 .origin⟩
    let r₀ : Renderer :=
      ⟨config, .empty limits .static ⟨0⟩ 64, .empty limits .dynamic ⟨1⟩ 64, none, .zero⟩
    let r := r₀.run [(.setViewport .screen : RendererCall Recorder TextureLog)]
    (∃ b', (create config (Recorder.empty none)).value = (.ok r₀, b')) ∧
      ∃ r' host', (r.drawModel host q .identity).value = (.error .displayListFull, r', host') ∧
        r'.viewport = some .screen ∧
        r'.stats.clears .static = 1 ∧
        (∀ p, (r'.cache .static).displayList.contents p = [.viewport .screen]) ∧
        (∃ m, (r'.cache .static).models = #[m] ∧ m.IsFor q) ∧
        (r'.cache .static).lookUp 3 0 = some ⟨0⟩ := by
  intro limits config words q host r₀ r
  have hstatic : (ModelCache.create limits .static (Recorder.empty none)).value = (.ok _, _) :=
    ModelCache.create_of_granted rfl
  have hcreate : (create config (Recorder.empty none)).value = (.ok r₀, _) :=
    create_of_created hstatic (ModelCache.create_of_granted rfl)
  have hanswer : (r.drawModel host q .identity).value.1.toOption = none := by
    decide +kernel
  have hclears : (r.drawModel host q .identity).value.2.1.stats.clears .static = 1 := by
    decide +kernel
  have hsize : ((r.drawModel host q .identity).value.2.1.cache .static).models.size = 1 := by
    decide +kernel
  rcases hvalue : (r.drawModel host q .identity).value with ⟨answer, r', host'⟩
  rw [hvalue] at hanswer hclears hsize
  cases answer with
  | ok id => cases hanswer
  | error e =>
      obtain ⟨hviewport, -, -, -, ⟨hcounted, -, -⟩ | ⟨-, hcontents, hmodels⟩⟩ :=
        intact_or_bare_of_error hcreate rfl hvalue
      · cases hclears.symm.trans hcounted
      · by_cases he : e = .displayListFull
        · subst he
          exact ⟨⟨_, hcreate⟩, r', host', rfl, hviewport, hclears, hcontents, hmodels⟩
        · -- any other error would leave no model
          rw [if_neg he] at hmodels
          rw [show (r'.cache .static).models = #[] from hmodels.1] at hsize
          cases hsize

/-- After any calls, no model is being staged, a viewport is refused for want of room
only, and a draw gives out the number that a model of its key has by then. If it fails,
then because the list is full or because the model is rejected, and not because a cache
was used in a wrong way. -/
theorem answers_run {b b' : β} {r₀ : Renderer}
    (hcreate : (create config b).value = (.ok r₀, b')) (calls : List (RendererCall β τ)) :
    let r := r₀.run calls
    (∀ source, (r.cache source).staging.slot = none) ∧
      (∀ v e, (r.setViewport v).value.1 = .error e → e = .displayListFull) ∧
      (∀ (host host' : Host β τ) q t id r', (r.drawModel host q t).value = (.ok id, r', host') →
        ∃ m, (r'.cache q.source).model? id = some m ∧ m.IsFor q) ∧
      ∀ (host host' : Host β τ) q t e r', (r.drawModel host q t).value = (.error e, r', host') →
        e.isMisuse = false ∧ (e = .displayListFull ∨
          q.IsRejectedWith (config.limits q.source) r.config.vertexFactor e) := by
  intro r
  have hready := (IsReady.create hcreate).run calls
  refine ⟨fun source => (hready.inOrder source).slot_eq_none, ?_, ?_, ?_⟩
  · intro v e hrefused
    rcases r.setViewport_cases v with he | ⟨c, c', -, -, hok⟩
    · rw [he] at hrefused
      cases hrefused
      rfl
    · rw [hok] at hrefused
      cases hrefused
  · intro host host' q t id r' h
    obtain ⟨y, hvalue, -, hcache⟩ := exists_run_of_drawModel h
    rw [hcache]
    exact Drawing.isFor_of_run (hready.inOrder q.source) hvalue
  · intro host host' q t e r' h
    obtain ⟨y, hvalue, -⟩ := exists_run_of_drawModel h
    have hfails := Drawing.fails_of_run (hready.inOrder q.source)
      (fun hsome => hready.fits hsome q.source) hvalue
    rcases hfails.reason with rfl | hreason
    · exact ⟨rfl, .inl rfl⟩
    · exact ⟨hreason.isMisuse_eq, .inr hreason⟩

/-- A model is drawn for the second time, and another one breaks off in its first
vertex. -/
theorem answers_after_draw :
    let limits : CacheLimits := ⟨64, 32, 4, 16, 8⟩
    let config : Config := ⟨limits, limits, .unlessWord4, 1⟩
    let words : List UInt32 := [0, 4, 0, 0, 0, 0, 1, 1, 2, 3, 4, 5, 6, 7, 8, 9, 10, 11, 12]
    let q : ModelRequest := ⟨.static, 3, 0, 0, 0, words, #[]⟩
    let cut : ModelRequest := { q with textureOffset := 0x10, words := words.take 8 }
    let host : Host Recorder TextureLog := ⟨.empty none, .empty 16 .origin⟩
    let r₀ : Renderer :=
      ⟨config, .empty limits .static ⟨0⟩ 64, .empty limits .dynamic ⟨1⟩ 64, none, .zero⟩
    let r := r₀.run [.setViewport .screen, .drawModel host q .identity]
    (∃ b', (create config (Recorder.empty none)).value = (.ok r₀, b')) ∧
      (∀ source, (r.cache source).staging.slot = none) ∧
      (∃ id r' host', (r.drawModel host q .identity).value = (.ok id, r', host') ∧
        ∃ m, (r'.cache .static).model? id = some m ∧ m.IsFor q) ∧
      ∃ e r' host', (r.drawModel host cut .identity).value = (.error e, r', host') ∧
        e.isMisuse = false ∧
        (e = .displayListFull ∨ cut.IsRejectedWith limits r.config.vertexFactor e) := by
  intro limits config words q cut host r₀ r
  have hstatic : (ModelCache.create limits .static (Recorder.empty none)).value = (.ok _, _) :=
    ModelCache.create_of_granted rfl
  have hcreate : (create config (Recorder.empty none)).value = (.ok r₀, _) :=
    create_of_created hstatic (ModelCache.create_of_granted rfl)
  obtain ⟨hslot, -, hdrawn, hfailed⟩ :=
    answers_run hcreate [.setViewport .screen, .drawModel host q .identity]
  refine ⟨⟨_, hcreate⟩, hslot, ?_, ?_⟩
  · have hanswer : (r.drawModel host q .identity).value.1.toOption = some ⟨0⟩ := by
      decide +kernel
    rcases hvalue : (r.drawModel host q .identity).value with ⟨answer, r', host'⟩
    rw [hvalue] at hanswer
    cases answer with
    | error e => cases hanswer
    | ok id => exact ⟨id, r', host', rfl, hdrawn _ _ _ _ _ _ hvalue⟩
  · have hanswer : (r.drawModel host cut .identity).value.1.toOption = none := by
      decide +kernel
    rcases hvalue : (r.drawModel host cut .identity).value with ⟨answer, r', host'⟩
    rw [hvalue] at hanswer
    cases answer with
    | ok id => cases hanswer
    | error e => exact ⟨e, r', host', rfl, hfailed _ _ _ _ _ _ hvalue⟩

end Renderer

end PolygonRenderer
