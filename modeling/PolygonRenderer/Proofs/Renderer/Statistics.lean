import PolygonRenderer.Proofs.Renderer.Exchanges
import PolygonRenderer.Proofs.Renderer.Retry

/-!
# The statistics of a frame

A frame counts what its draws do. The calls that a draw makes of its cache are known
(`Drawing.runCalls`), and so are their answers, which is what the counters are compared to
here: the models that enter, the clears, and the models that the display list has no room
for.

`Drawing.Tallies` is the comparison for a part of a draw, and adds up from part to part.
`Renderer.Balances` is the comparison for a part of a frame. A draw counts before it fails as
well as before it succeeds, so neither asks what comes of it.
-/

namespace PolygonRenderer

theorem FrameStats.polygonsInserted_countMiss (s : FrameStats) (polygons : Nat)
    (answer : Except RenderError ModelId) :
    (s.countMiss polygons answer).polygonsInserted = s.polygonsInserted + polygons := by
  cases answer <;> rfl

namespace ModelCache

variable {β τ : Type} [Backend β] [TextureManager τ] {c c' : ModelCache} {host host' : Host β τ}
  {ctx : DecodeContext} {index : UInt32} {offset : UInt16} {words : List UInt32}
  {answer : Except RenderError ModelId}

/-- The count of polygons never goes down. -/
theorem polygonsInserted_le_of_cacheModel
    (h : (c.cacheModel host ctx index offset words).value = (answer, c', host')) :
    c.polygonsInserted ≤ c'.polygonsInserted := by
  have hcount := cacheModel_countFrom c.polygonsInserted { c with polygonsInserted := 0 } host ctx
    index offset words
  change (c.cacheModel host ctx index offset words).value = _ at hcount
  rw [h] at hcount
  have hcache : c' = countFrom c.polygonsInserted _ := congrArg (·.2.1) hcount
  rw [hcache]
  exact Nat.le_add_right ..

end ModelCache

namespace CacheSession

variable {β τ : Type} [Backend β] [TextureManager τ] {s s' : CacheSession β τ}

/-- A model that enters is one more. -/
theorem size_models_step {call : CacheCall β τ} {answer : CacheAnswer}
    (hsteps : s.Steps call answer s') (hcall : call.isClear = false) :
    s'.cache.models.size = s.cache.models.size +
      if isCommit (call, answer) then 1 else 0 := by
  cases hsteps with
  | refused | begun | appendedModel | appendedViewport | clearedDisplayList | elsewhere => rfl
  | inserted _ hstages | requested _ _ hstages => exact congrArg Array.size hstages.models_eq
  | dropped | abandoned => exact congrArg Array.size (s.cache.models_abandon _)
  | ended => exact Array.size_push ..
  | cached _ _ _ hstages =>
      have hmodels := congrArg Array.size hstages.models_eq
      exact (Array.size_push ..).trans (congrArg (· + 1) hmodels)
  | uncached _ _ _ hstages =>
      exact congrArg Array.size ((ModelCache.models_abandon _ _).trans hstages.models_eq)
  | cleared => cases hcall

theorem size_models_run {calls : List (CacheCall β τ)}
    (hcalls : calls.countP CacheCall.isClear = 0) :
    (s.run calls).cache.models.size =
      s.cache.models.size + (s.exchanges calls).countP isCommit := by
  induction calls generalizing s with
  | nil => rfl
  | cons call calls ih =>
      rw [List.countP_cons] at hcalls
      have hcall : call.isClear = false := by
        cases hclear : call.isClear with
        | false => rfl
        | true => simp [hclear] at hcalls
      have hstep := size_models_step (s.steps call) hcall
      have hrest := ih (s := (s.step call).2) (Nat.eq_zero_of_add_eq_zero_right hcalls)
      rw [run_cons, hrest, hstep, exchanges, List.countP_cons, Nat.add_right_comm, Nat.add_assoc]

end CacheSession

namespace Drawing

variable {β τ : Type} [Backend β] [TextureManager τ] {source : ModelSource}
  {x y z : Drawing β τ} {calls calls' : List (CacheCall β τ)} {n n' : Nat}

/-- A part of a draw leads from one drawing to the other by calls of the cache, and obtains
`n` models, found or cached. The counters tell of all of it. -/
structure Tallies (source : ModelSource) (x y : Drawing β τ) (calls : List (CacheCall β τ))
    (n : Nat) : Prop where
  session : x.session.run calls = y.session
  grows : x.cache.polygonsInserted ≤ y.cache.polygonsInserted
  polygons : y.stats.polygonsInserted + x.cache.polygonsInserted =
    x.stats.polygonsInserted + y.cache.polygonsInserted
  cached : y.stats.modelsCached =
    x.stats.modelsCached + (x.session.exchanges calls).countP CacheSession.isCommit
  obtained : y.stats.cacheHits + y.stats.modelsCached =
    x.stats.cacheHits + x.stats.modelsCached + n
  clears : ∀ other, y.stats.clears other =
    x.stats.clears other + if other = source then calls.countP CacheCall.isClear else 0

namespace Tallies

theorem trans (h : Tallies source x y calls n) (h' : Tallies source y z calls' n') :
    Tallies source x z (calls ++ calls') (n + n') where
  session := by rw [CacheSession.run_append, h.session, h'.session]
  grows := Nat.le_trans h.grows h'.grows
  polygons := by
    have hfirst := h.polygons
    have hsecond := h'.polygons
    omega
  cached := by
    rw [h'.cached, h.cached, CacheSession.exchanges_append, h.session, List.countP_append,
      Nat.add_assoc]
  obtained := by rw [h'.obtained, h.obtained, Nat.add_assoc]
  clears other := by
    rw [h'.clears, h.clears, List.countP_append]
    split <;> omega

/-- A call that changes nothing but the display list. -/
theorem of_displayList {call : CacheCall β τ} {l : DisplayList} {answer : CacheAnswer}
    (hstep : x.session.step call = (answer, ⟨{ x.cache with displayList := l }, x.host⟩))
    (hcommit : CacheSession.isCommit (call, answer) = false) (hclear : call.isClear = false) :
    Tallies source x { x with cache := { x.cache with displayList := l } } [call] 0 where
  session := by rw [CacheSession.run_cons, hstep]; rfl
  grows := Nat.le_refl _
  polygons := rfl
  cached := by simp [CacheSession.exchanges, hstep, hcommit]
  obtained := rfl
  clears other := by simp [hclear]

end Tallies

/-- A model is found or cached, or it is not obtained. -/
theorem tallies_obtain (source : ModelSource) {ctx : DecodeContext} {q : ModelRequest}
    {answer : Except RenderError ModelId} (h : (x.obtain ctx q).value = (answer, y)) :
    Tallies source x y (x.obtainCalls ctx q) answer.isOk.toNat := by
  cases hfound : x.cache.lookUp q.lutIndex q.textureOffset with
  | some id =>
      have hcalls : x.obtainCalls ctx q = [] := by rw [obtainCalls, hfound]
      rw [obtain_of_found hfound] at h
      cases h
      rw [hcalls]
      exact
        { session := rfl
          grows := Nat.le_refl _
          polygons := rfl
          cached := rfl
          obtained := Nat.add_right_comm ..
          clears := fun other => by cases other <;> simp [FrameStats.clears] }
  | none =>
      have hcalls : x.obtainCalls ctx q =
          [.cacheModel ctx q.lutIndex q.textureOffset q.words] := by
        rw [obtainCalls, hfound]
      rcases hcache : (x.cache.cacheModel x.host ctx q.lutIndex q.textureOffset q.words).value with
        ⟨answer', c, host⟩
      have hstep := CacheSession.step_cacheModel (s := x.session) hcache
      have hclears := clears_of_obtain h
      have hgrows := ModelCache.polygonsInserted_le_of_cacheModel hcache
      rw [obtain_of_missing hfound hcache] at h
      cases h
      rw [hcalls]
      exact
        { session := by rw [CacheSession.run_cons, hstep]; rfl
          grows := hgrows
          polygons := by
            rw [FrameStats.polygonsInserted_countMiss, Nat.add_assoc, Nat.sub_add_cancel hgrows]
          cached := by
            rw [CacheSession.exchanges, hstep]
            cases answer <;> rfl
          obtained := by cases answer <;> rfl
          clears := fun other => by rw [hclears]; simp [CacheCall.isClear] }

theorem countP_isRefusal_obtainCalls (x : Drawing β τ) (ctx : DecodeContext) (q : ModelRequest) :
    (x.session.exchanges (x.obtainCalls ctx q)).countP CacheSession.isRefusal = 0 := by
  unfold obtainCalls
  split <;> rfl

theorem countP_isRefusal_roomCalls (s : CacheSession β τ) (viewport : Option Viewport) :
    (s.exchanges (roomCalls viewport)).countP CacheSession.isRefusal = 0 := by
  cases viewport <;> rfl

/-- Once the model is obtained, only appending it can be refused. -/
theorem countP_isRefusal_attemptCalls {ctx : DecodeContext} {q : ModelRequest} {t : Transform}
    {id : ModelId} (hobtain : (x.obtain ctx q).value = (.ok id, y)) :
    (x.session.exchanges (x.attemptCalls ctx q t)).countP CacheSession.isRefusal =
      (y.session.exchanges [.appendModel id t]).countP CacheSession.isRefusal := by
  have hsession := (tallies_obtain .static hobtain).session
  rw [attemptCalls_of_ok hobtain, CacheSession.exchanges_append, hsession, List.countP_append,
    countP_isRefusal_obtainCalls, Nat.zero_add]

/-- Every model that an attempt obtains is drawn, unless the display list has no room for it. -/
theorem tallies_attempt (source : ModelSource) {limits : CacheLimits} {capacity : Nat}
    (hx : x.cache.IsInOrder limits capacity) {ctx : DecodeContext} {q : ModelRequest}
    {t : Transform} {answer : Except RenderError ModelId}
    (h : (x.attempt ctx q t).value = (answer, y)) :
    Tallies source x y (x.attemptCalls ctx q t) (answer.isOk.toNat +
      (x.session.exchanges (x.attemptCalls ctx q t)).countP CacheSession.isRefusal) := by
  rcases x.attempt_cases ctx q t with
    ⟨e, z, hobtain, hattempt⟩ | ⟨id, z, hobtain, ⟨e, happend, hattempt⟩ | ⟨c, happend, hattempt⟩⟩
  · rw [hattempt] at h
    cases h
    rw [attemptCalls_of_error hobtain, countP_isRefusal_obtainCalls]
    exact tallies_obtain source hobtain
  · rw [hattempt] at h
    cases h
    -- the model is in the cache, so it can only be the display list that is full
    obtain ⟨hy, -, hfound⟩ := obtain_ok hx hobtain
    obtain ⟨m, hm, -⟩ := hy.linked.exists_of_lookUp hfound
    obtain ⟨-, rfl⟩ := ModelCache.appendModel_error hm happend
    have hstep := CacheSession.step_appendModel_error (s := y.session) happend
    rw [countP_isRefusal_attemptCalls hobtain, attemptCalls_of_ok hobtain, CacheSession.exchanges,
      hstep]
    exact (tallies_obtain source hobtain).trans (.of_displayList hstep rfl rfl)
  · rw [hattempt] at h
    cases h
    obtain ⟨m, l, -, -, rfl⟩ := ModelCache.appendModel_ok happend
    have hstep := CacheSession.step_appendModel (s := z.session) happend
    rw [countP_isRefusal_attemptCalls hobtain, attemptCalls_of_ok hobtain, CacheSession.exchanges,
      hstep]
    exact (tallies_obtain source hobtain).trans (.of_displayList hstep rfl rfl)

theorem tallies_cleared (x : Drawing β τ) (source : ModelSource) :
    Tallies source x (x.cleared source) [.clear] 0 where
  session := rfl
  grows := Nat.le_refl _
  polygons := by cases source <;> rfl
  cached := by cases source <;> rfl
  obtained := by cases source <;> rfl
  clears other := x.stats.clears_countClear_eq source other

/-- The cache is cleared once, and no model is obtained. -/
theorem tallies_makeRoom {viewport : Option Viewport} {answer : Except RenderError Unit}
    (h : (x.makeRoom source viewport).value = (answer, y)) :
    Tallies source x y (roomCalls viewport) 0 := by
  have hcleared := x.tallies_cleared source
  rcases x.makeRoom_cases source viewport with
    ⟨v, e, rfl, happend, he⟩ | ⟨rfl, hnone⟩ | ⟨v, c, rfl, happend, hsome⟩
  · rw [he] at h
    cases h
    have hstep := CacheSession.step_appendViewport_error (s := (x.cleared source).session) happend
    exact hcleared.trans (.of_displayList hstep rfl rfl)
  · rw [hnone] at h
    cases h
    exact hcleared
  · rw [hsome] at h
    cases h
    obtain ⟨l, -, rfl⟩ := ModelCache.appendViewport_ok happend
    have hstep := CacheSession.step_appendViewport (s := (x.cleared source).session) happend
    exact hcleared.trans (.of_displayList hstep rfl rfl)

theorem tallies_run {limits : CacheLimits} {capacity : Nat}
    (hx : x.cache.IsInOrder limits capacity) {viewport : Option Viewport} {ctx : DecodeContext}
    {q : ModelRequest} {t : Transform} {answer : Except RenderError ModelId}
    (h : (x.run viewport ctx q t).value = (answer, y)) :
    Tallies q.source x y (x.runCalls viewport ctx q t) (answer.isOk.toNat +
      (x.session.exchanges (x.runCalls viewport ctx q t)).countP CacheSession.isRefusal) := by
  rcases x.run_cases viewport ctx q t with ⟨hrun, hfinal⟩ | ⟨e, z, hfirst, hrecoverable, hretry⟩
  · rw [runCalls_of_attempt hfinal]
    exact tallies_attempt q.source hx (hrun.symm.trans h)
  · have hz := tallies_attempt q.source hx hfirst
    rcases hretry with ⟨e', w, hroom, hrun⟩ | ⟨w, hroom, hrun⟩
    · rw [hrun] at h
      cases h
      have hw := tallies_makeRoom hroom
      rw [runCalls_of_makeRoom_error hfirst hrecoverable hroom, CacheSession.exchanges_append,
        List.countP_append, countP_isRefusal_roomCalls]
      exact hz.trans hw
    · have hw := tallies_makeRoom hroom
      have hinOrder := (ModelCache.IsInOrder.keeps limits capacity).moves
        ((Moves.of_attempt hfirst).trans (.of_makeRoom hroom)) hx
      have hy := tallies_attempt q.source hinOrder (hrun.symm.trans h)
      rw [runCalls_of_makeRoom hfirst hrecoverable hroom, CacheSession.exchanges_append,
        CacheSession.exchanges_append, List.countP_append, List.countP_append,
        countP_isRefusal_roomCalls, hz.session, hw.session, Nat.zero_add, Nat.add_left_comm]
      have htallies := hz.trans (hw.trans hy)
      simpa [Except.isOk, Except.toBool] using htallies

end Drawing

/-! ## Frames -/

/-- A draw, and the calls that it made of the cache for its source. -/
structure DrawRecord (β τ : Type) where
  source : ModelSource
  before : CacheSession β τ
  calls : List (CacheCall β τ)
  after : CacheSession β τ
  answer : Except RenderError ModelId

namespace DrawRecord

variable {β τ : Type}

def exchanges [Backend β] [TextureManager τ] (d : DrawRecord β τ) :
    List (CacheCall β τ × CacheAnswer) :=
  d.before.exchanges d.calls

/-- The cache was cleared on the way. -/
def hasCleared (d : DrawRecord β τ) : Bool :=
  d.calls.any CacheCall.isClear

theorem countP_isClear {d : DrawRecord β τ} (h : d.calls.countP CacheCall.isClear ≤ 1) :
    d.calls.countP CacheCall.isClear = d.hasCleared.toNat := by
  cases hcleared : d.hasCleared with
  | false => simpa [hasCleared, List.countP_eq_zero] using hcleared
  | true =>
      have hpos : 0 < d.calls.countP CacheCall.isClear := by
        simpa [hasCleared, List.countP_pos_iff] using hcleared
      exact Nat.le_antisymm h hpos

end DrawRecord

namespace Renderer

variable {β τ : Type} [Backend β] [TextureManager τ]

/-- What there is to a draw. -/
def record (r : Renderer) (host : Host β τ) (q : ModelRequest) (t : Transform) :
    DrawRecord β τ :=
  let x : Drawing β τ := ⟨r.cache q.source, r.stats, host⟩
  let drawn := (r.drawModel host q t).value
  { source := q.source
    before := x.session
    calls := x.runCalls r.viewport (r.decodeContext host.textures q t) q t
    after := ⟨drawn.2.1.cache q.source, drawn.2.2⟩
    answer := drawn.1 }

/-- The draws among the calls of a run, in order. -/
def draws (r : Renderer) : List (RendererCall β τ) → List (DrawRecord β τ)
  | [] => []
  | .drawModel host q t :: calls =>
    r.record host q t :: draws (r.step (.drawModel host q t)) calls
  | call :: calls => draws (r.step call) calls

/-- A number of both caches together. -/
def total (r : Renderer) (f : ModelCache → Nat) : Nat :=
  f r.staticCache + f r.dynamicCache

theorem total_setCache (r : Renderer) (source : ModelSource) (c : ModelCache)
    (f : ModelCache → Nat) :
    (r.setCache source c).total f + f (r.cache source) = r.total f + f c := by
  cases source <;> simp only [total, setCache, cache] <;> omega

/-- A cache that gives way to a larger one leaves no cache smaller than it was. -/
theorem le_cache_setCache {r : Renderer} {source : ModelSource} {c : ModelCache}
    (f : ModelCache → Nat) (h : f (r.cache source) ≤ f c) (other : ModelSource) :
    f (r.cache other) ≤ f ((r.setCache source c).cache other) := by
  by_cases hother : other = source
  · rwa [hother, cache_setCache_self]
  · exact Nat.le_of_eq (congrArg f (r.cache_setCache_of_ne c hother)).symm

/-- From one renderer to the other, the counters tell of all that the draws did. -/
structure Balances (r r' : Renderer) (ds : List (DrawRecord β τ)) : Prop where
  grows : ∀ source, (r.cache source).polygonsInserted ≤ (r'.cache source).polygonsInserted
  polygons : r'.stats.polygonsInserted + r.total (·.polygonsInserted) =
    r.stats.polygonsInserted + r'.total (·.polygonsInserted)
  clears : ∀ source, r'.stats.clears source =
    r.stats.clears source + ds.countP fun d => d.source = source ∧ d.hasCleared
  cached : r'.stats.modelsCached =
    r.stats.modelsCached + (ds.flatMap (·.exchanges)).countP CacheSession.isCommit
  obtained : r'.stats.cacheHits + r'.stats.modelsCached =
    r.stats.cacheHits + r.stats.modelsCached +
      (ds.countP (·.answer.isOk) + (ds.flatMap (·.exchanges)).countP CacheSession.isRefusal)
  models : (∀ d ∈ ds, d.hasCleared = false) →
    (∀ source, (r.cache source).models.size ≤ (r'.cache source).models.size) ∧
      r'.stats.modelsCached + r.total (·.models.size) =
        r.stats.modelsCached + r'.total (·.models.size)
  records : ∀ d ∈ ds, d.before.run d.calls = d.after ∧ d.calls.countP CacheCall.isClear ≤ 1

namespace Balances

variable {r r' r'' : Renderer} {ds ds' : List (DrawRecord β τ)}

/-- Nothing is counted. -/
theorem of_eq (hstats : r'.stats = r.stats)
    (hpolygons : ∀ source, (r'.cache source).polygonsInserted = (r.cache source).polygonsInserted)
    (hmodels : ∀ source, (r'.cache source).models = (r.cache source).models) :
    Balances r r' ([] : List (DrawRecord β τ)) where
  grows source := Nat.le_of_eq (hpolygons source).symm
  polygons := by
    have hstatic := hpolygons .static
    have hdynamic := hpolygons .dynamic
    simp only [cache] at hstatic hdynamic
    simp only [total, hstats, hstatic, hdynamic]
  clears source := by rw [hstats]; rfl
  cached := by rw [hstats]; rfl
  obtained := by rw [hstats]; rfl
  models _ := by
    have hstatic := hmodels .static
    have hdynamic := hmodels .dynamic
    simp only [cache] at hstatic hdynamic
    refine ⟨fun source => Nat.le_of_eq (by rw [hmodels]), ?_⟩
    simp only [total, hstats, hstatic, hdynamic]
  records := List.forall_mem_nil _

theorem trans (h : Balances r r' ds) (h' : Balances r' r'' ds') :
    Balances r r'' (ds ++ ds') where
  grows source := Nat.le_trans (h.grows source) (h'.grows source)
  polygons := by
    have hfirst := h.polygons
    have hsecond := h'.polygons
    omega
  clears source := by rw [h'.clears, h.clears, List.countP_append, Nat.add_assoc]
  cached := by
    rw [h'.cached, h.cached, List.flatMap_append, List.countP_append, Nat.add_assoc]
  obtained := by
    rw [h'.obtained, h.obtained, List.flatMap_append, List.countP_append, List.countP_append]
    omega
  models hcleared := by
    obtain ⟨hfirst, hsecond⟩ := List.forall_mem_append.1 hcleared
    obtain ⟨hgrows, hsum⟩ := h.models hfirst
    obtain ⟨hgrows', hsum'⟩ := h'.models hsecond
    refine ⟨fun source => Nat.le_trans (hgrows source) (hgrows' source), ?_⟩
    omega
  records := List.forall_mem_append.2 ⟨h.records, h'.records⟩

end Balances

theorem record_of_run {r : Renderer} {host : Host β τ} {q : ModelRequest} {t : Transform}
    {answer : Except RenderError ModelId} {y : Drawing β τ}
    (h : (Drawing.run ⟨r.cache q.source, r.stats, host⟩ r.viewport
      (r.decodeContext host.textures q t) q t).value = (answer, y)) :
    r.record host q t = ⟨q.source, ⟨r.cache q.source, host⟩,
      Drawing.runCalls ⟨r.cache q.source, r.stats, host⟩ r.viewport
        (r.decodeContext host.textures q t) q t, y.session, answer⟩ := by
  have hcache : ({ r.setCache q.source y.cache with stats := y.stats } : Renderer).cache q.source =
      y.cache := r.cache_setCache_self q.source y.cache
  simp only [record, drawModel_of_run h, hcache]
  rfl

/-- A draw is counted as its own part of the frame. -/
theorem Balances.of_tallies {r : Renderer} {source : ModelSource} {x y : Drawing β τ}
    {calls : List (CacheCall β τ)} {answer : Except RenderError ModelId}
    (hcache : x.cache = r.cache source) (hstats : x.stats = r.stats)
    (h : Drawing.Tallies source x y calls
      (answer.isOk.toNat + (x.session.exchanges calls).countP CacheSession.isRefusal))
    (hclears : calls.countP CacheCall.isClear ≤ 1) :
    Balances r { r.setCache source y.cache with stats := y.stats }
      [⟨source, x.session, calls, y.session, answer⟩] where
  grows := le_cache_setCache (·.polygonsInserted) (hcache ▸ h.grows)
  polygons := by
    have hpolygons := h.polygons
    have htotal := r.total_setCache source y.cache (·.polygonsInserted)
    rw [hcache, hstats] at hpolygons
    change y.stats.polygonsInserted + _ = _ + (r.setCache source y.cache).total (·.polygonsInserted)
    omega
  clears other := by
    change y.stats.clears other = _
    have hcount := DrawRecord.countP_isClear (d := ⟨source, x.session, calls, y.session, answer⟩)
      hclears
    rw [h.clears, hstats, hcount]
    by_cases hother : other = source
    · subst hother
      cases hcleared : (DrawRecord.mk other x.session calls y.session answer).hasCleared <;>
        simp [hcleared]
    · simp [hother, Ne.symm hother]
  cached := by
    change y.stats.modelsCached = _
    rw [h.cached, hstats]
    simp [DrawRecord.exchanges]
  obtained := by
    change y.stats.cacheHits + y.stats.modelsCached = _
    rw [h.obtained, hstats]
    cases answer <;> simp [DrawRecord.exchanges, Except.isOk, Except.toBool]
  models hcleared := by
    have hnone : calls.countP CacheCall.isClear = 0 := by
      rw [DrawRecord.countP_isClear (d := ⟨source, x.session, calls, y.session, answer⟩) hclears,
        hcleared _ (List.mem_singleton_self _)]
      rfl
    have hsize := CacheSession.size_models_run (s := x.session) hnone
    have hcached := h.cached
    have htotal := r.total_setCache source y.cache (·.models.size)
    rw [h.session] at hsize
    change y.cache.models.size = x.cache.models.size + _ at hsize
    rw [hcache] at hsize
    rw [hstats] at hcached
    refine ⟨le_cache_setCache (·.models.size) ?_, ?_⟩
    · rw [hsize]
      exact Nat.le_add_right ..
    · change y.stats.modelsCached + _ = _ + (r.setCache source y.cache).total (·.models.size)
      omega
  records := List.forall_mem_singleton.2 ⟨h.session, hclears⟩

theorem balances_drawModel {limits : CacheLimits} {capacity : Nat} {r : Renderer}
    {q : ModelRequest} (hr : (r.cache q.source).IsInOrder limits capacity) (host : Host β τ)
    (t : Transform) : Balances r (r.step (.drawModel host q t)) [r.record host q t] := by
  rcases hvalue : (Drawing.run ⟨r.cache q.source, r.stats, host⟩ r.viewport
    (r.decodeContext host.textures q t) q t).value with ⟨answer, y⟩
  rw [step_drawModel hvalue, record_of_run hvalue]
  exact .of_tallies rfl rfl (Drawing.tallies_run hr hvalue)
    (Drawing.countP_isClear_runCalls_le _ _ _ _ _)

theorem balances_setViewport (r : Renderer) (v : Viewport) :
    Balances r (r.step (.setViewport v : RendererCall β τ)) ([] : List (DrawRecord β τ)) := by
  rw [step]
  rcases r.setViewport_cases v with he | ⟨c, c', hstatic, hdynamic, hok⟩
  · rw [he]
    exact .of_eq rfl (fun _ => rfl) fun _ => rfl
  · obtain ⟨l, -, rfl⟩ := ModelCache.appendViewport_ok hstatic
    obtain ⟨l', -, rfl⟩ := ModelCache.appendViewport_ok hdynamic
    rw [hok]
    refine .of_eq rfl ?_ ?_
    · intro source
      cases source <;> rfl
    · intro source
      cases source <;> rfl

theorem balances_run {limits : ModelSource → CacheLimits} {capacity : ModelSource → Nat}
    {r : Renderer} (hr : ∀ source, (r.cache source).IsInOrder (limits source) (capacity source))
    {calls : List (RendererCall β τ)} (hcalls : ∀ call ∈ calls, call ≠ .beginFrame) :
    Balances r (r.run calls) (r.draws calls) := by
  induction calls generalizing r with
  | nil => exact .of_eq rfl (fun _ => rfl) fun _ => rfl
  | cons call calls ih =>
      obtain ⟨hcall, hcalls⟩ := List.forall_mem_cons.1 hcalls
      have hstep := cache_step
        (fun source => ModelCache.IsInOrder.keeps (limits source) (capacity source)) hr call
      have hrest := ih hstep hcalls
      cases call with
      | beginFrame => exact absurd rfl hcall
      | setViewport v => exact (balances_setViewport r v).trans hrest
      | drawModel host q t => exact (balances_drawModel (hr q.source) host t).trans hrest

/-- Nothing is counted in a new renderer, nor at the start of a frame. -/
theorem stats_of_start {config : Config} {b b' : β} {r : Renderer}
    (hcreate : (create config b).value = (.ok r, b')) {before : List (RendererCall β τ)}
    (hstart : before = [] ∨ ∃ earlier, before = earlier ++ [.beginFrame]) :
    (r.run before).stats = .zero := by
  rcases hstart with rfl | ⟨earlier, rfl⟩
  · obtain ⟨c, c', b₁, -, -, rfl⟩ := create_ok hcreate
    rfl
  · rw [run_append]
    rfl

/-- The statistics of a frame balance, whatever comes of its draws.

Each draw is recorded with the calls that it makes of the cache for its source, which lead
from the cache before to the cache after. The polygons that are counted are those by which the
counts of both caches grow. The clears of a source are the draws that clear its cache, which
none does twice. The models that are counted are those that enter a cache, and without a clear
both caches grow by as many. Each model that is found or enters is drawn, or is refused by a
display list without room. -/
theorem stats_balance {config : Config} {b b' : β} {r₀ : Renderer}
    (hcreate : (create config b).value = (.ok r₀, b')) {before calls : List (RendererCall β τ)}
    (hstart : before = [] ∨ ∃ earlier, before = earlier ++ [.beginFrame])
    (hcalls : ∀ call ∈ calls, call ≠ .beginFrame) :
    let r := r₀.run before
    let r' := r.run calls
    let ds := r.draws calls
    let exchanges := ds.flatMap (·.exchanges)
    (∀ d ∈ ds, d.before.run d.calls = d.after ∧ d.calls.countP CacheCall.isClear ≤ 1) ∧
      ((∀ source, (r.cache source).polygonsInserted ≤ (r'.cache source).polygonsInserted) ∧
        r'.stats.polygonsInserted =
          (r'.staticCache.polygonsInserted - r.staticCache.polygonsInserted) +
            (r'.dynamicCache.polygonsInserted - r.dynamicCache.polygonsInserted)) ∧
      r'.stats.staticClears = ds.countP (fun d => d.source = .static ∧ d.hasCleared) ∧
      r'.stats.dynamicClears = ds.countP (fun d => d.source = .dynamic ∧ d.hasCleared) ∧
      r'.stats.modelsCached = exchanges.countP CacheSession.isCommit ∧
      ((∀ d ∈ ds, d.hasCleared = false) →
        (∀ source, (r.cache source).models.size ≤ (r'.cache source).models.size) ∧
          r'.stats.modelsCached =
            (r'.staticCache.models.size - r.staticCache.models.size) +
              (r'.dynamicCache.models.size - r.dynamicCache.models.size)) ∧
      r'.stats.cacheHits + r'.stats.modelsCached =
        ds.countP (·.answer.isOk) + exchanges.countP CacheSession.isRefusal := by
  intro r r' ds exchanges
  have hbalances : Balances r r' ds := balances_run (isInOrder_run hcreate before) hcalls
  have hzero : r.stats = .zero := stats_of_start hcreate hstart
  have hclears : ∀ source, r'.stats.clears source =
      ds.countP fun d => d.source = source ∧ d.hasCleared := by
    intro source
    rw [hbalances.clears, hzero]
    cases source <;> exact Nat.zero_add _
  have hcached : r'.stats.modelsCached = exchanges.countP CacheSession.isCommit := by
    rw [hbalances.cached, hzero]
    exact Nat.zero_add _
  refine ⟨hbalances.records, ⟨hbalances.grows, ?_⟩, hclears .static, hclears .dynamic, hcached,
    ?_, ?_⟩
  · have hstatic := hbalances.grows .static
    have hdynamic := hbalances.grows .dynamic
    have hsum := hbalances.polygons
    rw [hzero] at hsum
    simp only [FrameStats.zero, total, cache] at hstatic hdynamic hsum
    omega
  · intro hcleared
    obtain ⟨hgrows, hsum⟩ := hbalances.models hcleared
    have hstatic := hgrows .static
    have hdynamic := hgrows .dynamic
    rw [hzero] at hsum
    simp only [FrameStats.zero, total, cache] at hstatic hdynamic hsum
    refine ⟨hgrows, ?_⟩
    omega
  · rw [hbalances.obtained, hzero]
    exact Nat.zero_add _

/-- A triangle that is drawn twice in the second frame. -/
theorem stats_balance_of_second_frame :
    let limits : CacheLimits := ⟨64, 32, 4, 16, 8⟩
    let config : Config := ⟨limits, limits, .unlessWord4, 1⟩
    let words : List UInt32 := [0, 4, 0, 0, 0, 0, 1, 1, 2, 3, 4, 5, 6, 7, 8, 9, 10, 11, 12]
    let q : ModelRequest := ⟨.static, 3, 0, 0, 0, words, #[]⟩
    ∃ r₀ b', (create config (Recorder.empty none)).value = (.ok r₀, b') ∧
      let draw : RendererCall Recorder TextureLog := .drawModel ⟨b', .empty 16 .origin⟩ q .identity
      let r := r₀.run [draw, .beginFrame]
      let r' := r.run [draw, draw]
      let ds := r.draws [draw, draw]
      ds.length = 2 ∧ (∀ d ∈ ds, d.before.run d.calls = d.after) ∧
        r'.stats.cacheHits + r'.stats.modelsCached = ds.countP (·.answer.isOk) +
          (ds.flatMap (·.exchanges)).countP CacheSession.isRefusal := by
  intro limits config words q
  have hstatic : (ModelCache.create limits .static (Recorder.empty none)).value = (.ok _, _) :=
    ModelCache.create_of_granted rfl
  have hcreate : (create config (Recorder.empty none)).value = (.ok _, _) :=
    create_of_created hstatic (ModelCache.create_of_granted rfl)
  refine ⟨_, _, hcreate, ?_⟩
  intro draw
  have hstart : [draw, .beginFrame] = [] ∨
      ∃ earlier, [draw, .beginFrame] = earlier ++ [.beginFrame] := .inr ⟨[draw], rfl⟩
  have hcalls : ∀ call ∈ [draw, draw], call ≠ .beginFrame := by simp [draw]
  obtain ⟨hrecords, -, -, -, -, -, hobtained⟩ := stats_balance hcreate hstart hcalls
  exact ⟨by simp [draw, draws], fun d hd => (hrecords d hd).1, hobtained⟩

end Renderer

end PolygonRenderer
