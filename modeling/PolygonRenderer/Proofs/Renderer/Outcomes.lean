import PolygonRenderer.Proofs.ModelCache.Outcomes
import PolygonRenderer.Renderer.Draw

/-!
# What drawing a model can do

A model is found or cached, then an instance of it is appended, and if that does
not work out the cache may be cleared for one more attempt. Each of these is
taken apart here into its outcomes.
-/

namespace PolygonRenderer

namespace FrameStats

/-- How often the cache for a source was cleared because it was full. -/
def clears (s : FrameStats) : ModelSource → Nat
  | .static => s.staticClears
  | .dynamic => s.dynamicClears

theorem clears_countClear (s : FrameStats) (source : ModelSource) :
    (s.countClear source).clears source = s.clears source + 1 := by
  cases source <;> rfl

/-- A clear is counted for its own source. -/
theorem clears_countClear_eq (s : FrameStats) (source other : ModelSource) :
    (s.countClear source).clears other = s.clears other + if other = source then 1 else 0 := by
  cases source <;> cases other <;> rfl

/-- Count a model that was not found, whatever came of caching it. -/
def countMiss (s : FrameStats) (polygons : Nat) : Except RenderError ModelId → FrameStats
  | .ok _ =>
    { s with
      polygonsInserted := s.polygonsInserted + polygons
      modelsCached := s.modelsCached + 1 }
  | .error _ => { s with polygonsInserted := s.polygonsInserted + polygons }

theorem clears_countMiss (s : FrameStats) (polygons : Nat) (answer : Except RenderError ModelId)
    (source : ModelSource) : (s.countMiss polygons answer).clears source = s.clears source := by
  cases answer <;> cases source <;> rfl

end FrameStats

namespace Drawing

variable {β τ : Type}

/-- The drawing with the cache cleared, and the clear counted. -/
def cleared (x : Drawing β τ) (source : ModelSource) : Drawing β τ :=
  ⟨x.cache.cleared, x.stats.countClear source, x.host⟩

theorem makeRoom_cases (x : Drawing β τ) (source : ModelSource) (viewport : Option Viewport) :
    (∃ v e, viewport = some v ∧ x.cache.cleared.appendViewport v = .error e ∧
        (x.makeRoom source viewport).value = (.error e, x.cleared source)) ∨
      viewport = none ∧ (x.makeRoom source viewport).value = (.ok (), x.cleared source) ∨
      ∃ v c, viewport = some v ∧ x.cache.cleared.appendViewport v = .ok c ∧
        (x.makeRoom source viewport).value = (.ok (), { x.cleared source with cache := c }) := by
  have hclear : x.cache.clear.value = x.cache.cleared := rfl
  unfold makeRoom
  simp only [Logged.value_bind, hclear]
  cases viewport with
  | none => exact .inr (.inl ⟨rfl, rfl⟩)
  | some v =>
      cases happend : x.cache.cleared.appendViewport v with
      | error e =>
          refine .inl ⟨v, e, rfl, happend, ?_⟩
          simp only [happend, Logged.value_pure, cleared]
      | ok c =>
          refine .inr (.inr ⟨v, c, rfl, happend, ?_⟩)
          simp only [happend, Logged.value_pure, cleared]

/-- A clear is counted, whether or not the viewport fits then. -/
theorem stats_of_makeRoom {x y : Drawing β τ} {source : ModelSource}
    {viewport : Option Viewport} {answer : Except RenderError Unit}
    (h : (x.makeRoom source viewport).value = (answer, y)) :
    y.stats = x.stats.countClear source := by
  rcases x.makeRoom_cases source viewport with
    ⟨v, e, -, -, he⟩ | ⟨-, hnone⟩ | ⟨v, c, -, -, hsome⟩
  · rw [he] at h
    cases h
    rfl
  · rw [hnone] at h
    cases h
    rfl
  · rw [hsome] at h
    cases h
    rfl

theorem clears_of_makeRoom {x y : Drawing β τ} {source : ModelSource}
    {viewport : Option Viewport} {answer : Except RenderError Unit}
    (h : (x.makeRoom source viewport).value = (answer, y)) :
    y.stats.clears source = x.stats.clears source + 1 := by
  rw [stats_of_makeRoom h, FrameStats.clears_countClear]

variable [Backend β] [TextureManager τ]

/-- A model that is found is counted, and nothing else is done. -/
theorem obtain_of_found {x : Drawing β τ} {q : ModelRequest} {id : ModelId}
    (hfound : x.cache.lookUp q.lutIndex q.textureOffset = some id) (ctx : DecodeContext) :
    (x.obtain ctx q).value = (.ok id, { x with stats.cacheHits := x.stats.cacheHits + 1 }) := by
  unfold Drawing.obtain
  rw [hfound]
  rfl

theorem obtain_of_missing {x : Drawing β τ} {ctx : DecodeContext} {q : ModelRequest}
    {answer : Except RenderError ModelId} {c : ModelCache} {host : Host β τ}
    (hmissing : x.cache.lookUp q.lutIndex q.textureOffset = none)
    (hcache : (x.cache.cacheModel x.host ctx q.lutIndex q.textureOffset q.words).value =
      (answer, c, host)) :
    (x.obtain ctx q).value = (answer,
      ⟨c, x.stats.countMiss (c.polygonsInserted - x.cache.polygonsInserted) answer, host⟩) := by
  unfold Drawing.obtain
  simp only [hmissing, Logged.value_bind, hcache]
  cases answer <;> rfl

/-- No clear is counted while a model is found or cached. -/
theorem obtain_cases (x : Drawing β τ) (ctx : DecodeContext) (q : ModelRequest) :
    ∃ stats, (∀ source, stats.clears source = x.stats.clears source) ∧
      ((∃ id, x.cache.lookUp q.lutIndex q.textureOffset = some id ∧
          (x.obtain ctx q).value = (.ok id, ⟨x.cache, stats, x.host⟩)) ∨
        ∃ answer c host,
          (x.cache.cacheModel x.host ctx q.lutIndex q.textureOffset q.words).value =
            (answer, c, host) ∧
          (x.obtain ctx q).value = (answer, ⟨c, stats, host⟩)) := by
  cases hfound : x.cache.lookUp q.lutIndex q.textureOffset with
  | some id =>
      refine ⟨_, ?_, .inl ⟨id, rfl, obtain_of_found hfound ctx⟩⟩
      intro source
      cases source <;> rfl
  | none =>
      exact ⟨_, x.stats.clears_countMiss _ _, .inr ⟨_, _, _, rfl, obtain_of_missing hfound rfl⟩⟩

theorem attempt_cases (x : Drawing β τ) (ctx : DecodeContext) (q : ModelRequest)
    (t : Transform) :
    (∃ e y, (x.obtain ctx q).value = (.error e, y) ∧
        (x.attempt ctx q t).value = (.error e, y)) ∨
      ∃ id y, (x.obtain ctx q).value = (.ok id, y) ∧
        ((∃ e, y.cache.appendModel id t = .error e ∧
            (x.attempt ctx q t).value = (.error e, y)) ∨
          ∃ c, y.cache.appendModel id t = .ok c ∧
            (x.attempt ctx q t).value = (.ok id, { y with cache := c })) := by
  unfold attempt
  rcases hvalue : (x.obtain ctx q).value with ⟨answer, y⟩
  simp only [Logged.value_bind, hvalue]
  cases answer with
  | error e => exact .inl ⟨e, y, rfl, rfl⟩
  | ok id =>
      refine .inr ⟨id, y, rfl, ?_⟩
      cases happend : y.cache.appendModel id t with
      | error e => exact .inl ⟨e, rfl, by simp only [happend, Logged.value_pure]⟩
      | ok c => exact .inr ⟨c, rfl, by simp only [happend, Logged.value_pure]⟩

/-- An attempt that succeeds has found or cached the model, and appended it. -/
theorem of_attempt_ok {x y : Drawing β τ} {ctx : DecodeContext} {q : ModelRequest} {t : Transform}
    {id : ModelId} (h : (x.attempt ctx q t).value = (.ok id, y)) :
    ∃ z c, (x.obtain ctx q).value = (.ok id, z) ∧ z.cache.appendModel id t = .ok c ∧
      y = { z with cache := c } := by
  rcases x.attempt_cases ctx q t with
    ⟨e, z, -, hattempt⟩ | ⟨id', z, hobtain, ⟨e, -, hattempt⟩ | ⟨c, happend, hattempt⟩⟩
  all_goals
    rw [hattempt] at h
    cases h
  exact ⟨z, c, hobtain, happend, rfl⟩

theorem of_attempt_error {x y : Drawing β τ} {ctx : DecodeContext} {q : ModelRequest}
    {t : Transform} {e : RenderError} (h : (x.attempt ctx q t).value = (.error e, y)) :
    (x.obtain ctx q).value = (.error e, y) ∨
      ∃ id, (x.obtain ctx q).value = (.ok id, y) ∧ y.cache.appendModel id t = .error e := by
  rcases x.attempt_cases ctx q t with
    ⟨e', z, hobtain, hattempt⟩ | ⟨id, z, hobtain, ⟨e', happend, hattempt⟩ | ⟨c, -, hattempt⟩⟩
  all_goals
    rw [hattempt] at h
    cases h
  · exact .inl hobtain
  · exact .inr ⟨id, hobtain, happend⟩

theorem clears_of_obtain {x y : Drawing β τ} {ctx : DecodeContext} {q : ModelRequest}
    {answer : Except RenderError ModelId} (h : (x.obtain ctx q).value = (answer, y))
    (source : ModelSource) : y.stats.clears source = x.stats.clears source := by
  obtain ⟨stats, hclears, ⟨id, -, hhit⟩ | ⟨answer', c, host, -, hmiss⟩⟩ := x.obtain_cases ctx q
  · rw [hhit] at h
    cases h
    exact hclears source
  · rw [hmiss] at h
    cases h
    exact hclears source

/-- An attempt makes no clear. -/
theorem clears_of_attempt {x y : Drawing β τ} {ctx : DecodeContext} {q : ModelRequest}
    {t : Transform} {answer : Except RenderError ModelId}
    (h : (x.attempt ctx q t).value = (answer, y)) (source : ModelSource) :
    y.stats.clears source = x.stats.clears source := by
  rcases x.attempt_cases ctx q t with
    ⟨e, z, hobtain, hattempt⟩ | ⟨id, z, hobtain, ⟨e, -, hattempt⟩ | ⟨c, -, hattempt⟩⟩
  all_goals
    rw [hattempt] at h
    cases h
    exact clears_of_obtain hobtain source

theorem run_cases (x : Drawing β τ) (viewport : Option Viewport) (ctx : DecodeContext)
    (q : ModelRequest) (t : Transform) :
    (x.run viewport ctx q t).value = (x.attempt ctx q t).value ∧
        (∀ e y, (x.attempt ctx q t).value = (.error e, y) → e.isRecoverable = false) ∨
      ∃ e y, (x.attempt ctx q t).value = (.error e, y) ∧ e.isRecoverable = true ∧
        ((∃ e' z, (y.makeRoom q.source viewport).value = (.error e', z) ∧
            (x.run viewport ctx q t).value = (.error e', z)) ∨
          ∃ z, (y.makeRoom q.source viewport).value = (.ok (), z) ∧
            (x.run viewport ctx q t).value = (z.attempt ctx q t).value) := by
  unfold run
  rcases hvalue : (x.attempt ctx q t).value with ⟨answer, y⟩
  simp only [Logged.value_bind, hvalue]
  cases answer with
  | ok id =>
      refine .inl ⟨rfl, ?_⟩
      rintro _ _ ⟨⟩
  | error e =>
      dsimp only
      by_cases hrecoverable : e.isRecoverable = true
      · refine .inr ⟨e, y, rfl, hrecoverable, ?_⟩
        simp only [hrecoverable, if_true, Logged.value_bind]
        rcases hroom : (y.makeRoom q.source viewport).value with ⟨answer, z⟩
        cases answer with
        | error e' => exact .inl ⟨e', z, rfl, rfl⟩
        | ok => exact .inr ⟨z, rfl, rfl⟩
      · rw [if_neg hrecoverable]
        refine .inl ⟨rfl, ?_⟩
        rintro _ _ ⟨⟩
        exact Bool.eq_false_iff.2 hrecoverable

/-- One of the things that a draw may do. -/
inductive Move (viewport : Option Viewport) (ctx : DecodeContext) (q : ModelRequest)
    (t : Transform) : Drawing β τ → Drawing β τ → Prop
  | found {x : Drawing β τ} {id : ModelId}
      (hfound : x.cache.lookUp q.lutIndex q.textureOffset = some id) :
      Move viewport ctx q t x { x with stats.cacheHits := x.stats.cacheHits + 1 }
  | cached {x : Drawing β τ} {answer : Except RenderError ModelId} {c : ModelCache}
      {host : Host β τ} (hmissing : x.cache.lookUp q.lutIndex q.textureOffset = none)
      (hcache : (x.cache.cacheModel x.host ctx q.lutIndex q.textureOffset q.words).value =
        (answer, c, host)) :
      Move viewport ctx q t x
        ⟨c, x.stats.countMiss (c.polygonsInserted - x.cache.polygonsInserted) answer, host⟩
  | appendedModel {x : Drawing β τ} {id : ModelId} {c : ModelCache}
      (happend : x.cache.appendModel id t = .ok c) :
      Move viewport ctx q t x { x with cache := c }
  | cleared {x : Drawing β τ} : Move viewport ctx q t x (x.cleared q.source)
  | appendedViewport {x : Drawing β τ} {v : Viewport} {c : ModelCache}
      (happend : x.cache.appendViewport v = .ok c) :
      Move viewport ctx q t x { x with cache := c }

/-- The clears are counted. -/
theorem Move.clears_le {viewport : Option Viewport} {ctx : DecodeContext} {q : ModelRequest}
    {t : Transform} {x y : Drawing β τ} (h : Move viewport ctx q t x y) :
    x.stats.clears q.source ≤ y.stats.clears q.source := by
  cases h with
  | found => cases q.source <;> exact Nat.le_refl _
  | cached => exact Nat.le_of_eq (x.stats.clears_countMiss _ _ _).symm
  | appendedModel | appendedViewport => exact Nat.le_refl _
  | cleared =>
      have hcounted := x.stats.clears_countClear q.source
      exact hcounted ▸ Nat.le_succ _

/-- Any number of such things, one after the other. -/
inductive Moves (viewport : Option Viewport) (ctx : DecodeContext) (q : ModelRequest)
    (t : Transform) : Drawing β τ → Drawing β τ → Prop
  | refl {x : Drawing β τ} : Moves viewport ctx q t x x
  | tail {x y z : Drawing β τ} (h : Moves viewport ctx q t x y)
      (hmove : Move viewport ctx q t y z) : Moves viewport ctx q t x z

namespace Moves

variable {viewport : Option Viewport} {ctx : DecodeContext} {q : ModelRequest} {t : Transform}
  {x y z : Drawing β τ}

theorem trans (h : Moves viewport ctx q t x y) (h' : Moves viewport ctx q t y z) :
    Moves viewport ctx q t x z := by
  induction h' with
  | refl => exact h
  | tail _ hmove ih => exact ih.tail hmove

theorem clears_le (h : Moves viewport ctx q t x y) :
    x.stats.clears q.source ≤ y.stats.clears q.source := by
  induction h with
  | refl => exact Nat.le_refl _
  | tail _ hlast ih => exact Nat.le_trans ih hlast.clears_le

/-- What outlasts each of the things outlasts all of them. -/
theorem keeps {P : Drawing β τ → Prop} (h : Moves viewport ctx q t x y) (hx : P x)
    (hmove : ∀ {y z : Drawing β τ}, Moves viewport ctx q t x y → Move viewport ctx q t y z →
      P y → P z) : P y := by
  induction h with
  | refl => exact hx
  | tail hfirst hlast ih => exact hmove hfirst hlast ih

theorem of_obtain {answer : Except RenderError ModelId}
    (hvalue : (x.obtain ctx q).value = (answer, y)) : Moves viewport ctx q t x y := by
  cases hfound : x.cache.lookUp q.lutIndex q.textureOffset with
  | some id =>
      rw [obtain_of_found hfound] at hvalue
      cases hvalue
      exact .tail .refl (.found hfound)
  | none =>
      rw [obtain_of_missing hfound rfl] at hvalue
      cases hvalue
      exact .tail .refl (.cached hfound rfl)

theorem of_attempt {answer : Except RenderError ModelId}
    (hvalue : (x.attempt ctx q t).value = (answer, y)) : Moves viewport ctx q t x y := by
  rcases x.attempt_cases ctx q t with
    ⟨e, z, hobtain, hattempt⟩ | ⟨id, z, hobtain, ⟨e, -, hattempt⟩ | ⟨c, happend, hattempt⟩⟩
  all_goals
    rw [hattempt] at hvalue
    cases hvalue
  · exact of_obtain hobtain
  · exact of_obtain hobtain
  · exact (of_obtain hobtain).tail (.appendedModel happend)

theorem of_makeRoom {answer : Except RenderError Unit}
    (hvalue : (x.makeRoom q.source viewport).value = (answer, y)) : Moves viewport ctx q t x y := by
  have hcleared : Moves viewport ctx q t x (x.cleared q.source) := .tail .refl .cleared
  rcases x.makeRoom_cases q.source viewport with
    ⟨v, e, -, -, he⟩ | ⟨-, hnone⟩ | ⟨v, c, -, happend, hsome⟩
  · rw [he] at hvalue
    cases hvalue
    exact hcleared
  · rw [hnone] at hvalue
    cases hvalue
    exact hcleared
  · rw [hsome] at hvalue
    cases hvalue
    exact hcleared.tail (.appendedViewport happend)

/-- There is nothing else that a draw does. -/
theorem of_run {answer : Except RenderError ModelId}
    (hvalue : (x.run viewport ctx q t).value = (answer, y)) : Moves viewport ctx q t x y := by
  rcases x.run_cases viewport ctx q t with ⟨hrun, -⟩ | ⟨e, z, hfirst, -, hretry⟩
  · exact of_attempt (hrun.symm.trans hvalue)
  · rcases hretry with ⟨e', w, hroom, hrun⟩ | ⟨w, hroom, hrun⟩
    · rw [hrun] at hvalue
      cases hvalue
      exact (of_attempt hfirst).trans (of_makeRoom hroom)
    · rw [hrun] at hvalue
      exact ((of_attempt hfirst).trans (of_makeRoom hroom)).trans (of_attempt hvalue)

end Moves

theorem serviced_run {x y : Drawing β τ} {viewport : Option Viewport} {ctx : DecodeContext}
    {q : ModelRequest} {t : Transform} {answer : Except RenderError ModelId}
    (hvalue : (x.run viewport ctx q t).value = (answer, y)) :
    Serviced x.host.textures y.host.textures := by
  refine (Moves.of_run hvalue).keeps (P := fun y => Serviced x.host.textures y.host.textures)
    .refl ?_
  intro y z _ hmove hy
  cases hmove with
  | cached _ hcache =>
      have hserviced := y.cache.serviced_cacheModel y.host ctx q.lutIndex q.textureOffset q.words
      rw [hcache] at hserviced
      exact hy.trans hserviced
  | found | appendedModel | cleared | appendedViewport => exact hy

end Drawing

namespace Renderer

theorem fullList?_eq_none_iff {r : Renderer} :
    r.fullList? = none ↔ ∀ source, (r.cache source).displayList.hasRoom = true := by
  rw [fullList?, List.find?_eq_none]
  refine ⟨fun h source => ?_, fun h source _ => by simp [h source]⟩
  cases source with
  | static => simpa using h .static (by simp)
  | dynamic => simpa using h .dynamic (by simp)

/-- A viewport is set for both caches or for none. It is refused for want of room only,
which is known before anything is appended. -/
theorem setViewport_cases (r : Renderer) (v : Viewport) :
    (r.setViewport v).value = (.error .displayListFull, r) ∨
      ∃ c c', r.staticCache.appendViewport v = .ok c ∧ r.dynamicCache.appendViewport v = .ok c' ∧
        (r.setViewport v).value =
          (.ok (), { r with staticCache := c, dynamicCache := c', viewport := some v }) := by
  unfold setViewport
  cases hlook : r.fullList? with
  | some source => exact .inl rfl
  | none =>
      have hroom := fullList?_eq_none_iff.1 hlook
      obtain ⟨l, -, hstatic⟩ := ModelCache.appendViewport_of_hasRoom (hroom .static) v
      obtain ⟨l', -, hdynamic⟩ := ModelCache.appendViewport_of_hasRoom (hroom .dynamic) v
      simp only [cache] at hstatic hdynamic
      simp only [hstatic, hdynamic]
      exact .inr ⟨_, _, rfl, rfl, rfl⟩

theorem drawModel_of_run {β τ : Type} [Backend β] [TextureManager τ] {r : Renderer}
    {host : Host β τ} {q : ModelRequest} {t : Transform} {answer : Except RenderError ModelId}
    {y : Drawing β τ}
    (h : (Drawing.run ⟨r.cache q.source, r.stats, host⟩ r.viewport
      (r.decodeContext host.textures q t) q t).value = (answer, y)) :
    (r.drawModel host q t).value =
      (answer, { r.setCache q.source y.cache with stats := y.stats }, y.host) := by
  unfold drawModel
  simp only [Logged.value_bind, h, Logged.value_pure]

/-- A draw is a run on the cache for its source, which is put back afterwards. -/
theorem exists_run_of_drawModel {β τ : Type} [Backend β] [TextureManager τ] {r r' : Renderer}
    {host host' : Host β τ} {q : ModelRequest} {t : Transform}
    {answer : Except RenderError ModelId}
    (h : (r.drawModel host q t).value = (answer, r', host')) :
    ∃ y : Drawing β τ, (Drawing.run ⟨r.cache q.source, r.stats, host⟩ r.viewport
        (r.decodeContext host.textures q t) q t).value = (answer, y) ∧
      r' = { r.setCache q.source y.cache with stats := y.stats } ∧
      r'.cache q.source = y.cache := by
  rcases hvalue : (Drawing.run ⟨r.cache q.source, r.stats, host⟩ r.viewport
    (r.decodeContext host.textures q t) q t).value with ⟨answer', y⟩
  rw [drawModel_of_run hvalue] at h
  cases h
  exact ⟨y, rfl, rfl, r.cache_setCache_self q.source y.cache⟩

theorem serviced_drawModel {β τ : Type} [Backend β] [TextureManager τ] (r : Renderer)
    (host : Host β τ) (q : ModelRequest) (t : Transform) :
    Serviced host.textures (r.drawModel host q t).value.2.2.textures := by
  rcases hvalue : (Drawing.run ⟨r.cache q.source, r.stats, host⟩ r.viewport
    (r.decodeContext host.textures q t) q t).value with ⟨answer, y⟩
  rw [drawModel_of_run hvalue]
  exact Drawing.serviced_run hvalue

/-- A new renderer has two new caches, and nothing has been drawn. -/
theorem create_ok {β : Type} [Backend β] {config : Config} {b b' : β} {r : Renderer}
    (h : (create config b).value = (.ok r, b')) :
    ∃ c c' b₁, (ModelCache.create config.staticCache .static b).value = (.ok c, b₁) ∧
      (ModelCache.create config.dynamicCache .dynamic b₁).value = (.ok c', b') ∧
      r = ⟨config, c, c', none, .zero⟩ := by
  unfold create at h
  rw [Logged.value_bind] at h
  rcases hstatic : (ModelCache.create config.staticCache .static b).value with ⟨answer, b₁⟩
  rw [hstatic] at h
  cases answer with
  | error e => cases h
  | ok c =>
      dsimp only at h
      rw [Logged.value_bind] at h
      rcases hdynamic : (ModelCache.create config.dynamicCache .dynamic b₁).value with
        ⟨answer, b₂⟩
      rw [hdynamic] at h
      cases answer with
      | error e => cases h
      | ok c' =>
          cases h
          exact ⟨c, c', b₁, rfl, hdynamic, rfl⟩

theorem config_of_create {β : Type} [Backend β] {config : Config} {b b' : β} {r : Renderer}
    (h : (create config b).value = (.ok r, b')) : r.config = config := by
  obtain ⟨c, c', b₁, -, -, rfl⟩ := create_ok h
  rfl

theorem cache_of_create {β : Type} [Backend β] {config : Config} {b b' : β} {r : Renderer}
    (h : (create config b).value = (.ok r, b')) (source : ModelSource) :
    ∃ buffer capacity, r.cache source = .empty (config.limits source) source buffer capacity := by
  obtain ⟨c, c', b₁, hstatic, hdynamic, rfl⟩ := create_ok h
  obtain ⟨-, buffer, capacity, -, rfl, -⟩ := ModelCache.create_ok hstatic
  obtain ⟨-, buffer', capacity', -, rfl, -⟩ := ModelCache.create_ok hdynamic
  cases source with
  | static => exact ⟨buffer, capacity, rfl⟩
  | dynamic => exact ⟨buffer', capacity', rfl⟩

/-- A renderer is made of its two caches. -/
theorem create_of_created {β : Type} [Backend β] {config : Config} {b b₁ b₂ : β}
    {c c' : ModelCache}
    (h : (ModelCache.create config.staticCache .static b).value = (.ok c, b₁))
    (h' : (ModelCache.create config.dynamicCache .dynamic b₁).value = (.ok c', b₂)) :
    (create config b).value = (.ok ⟨config, c, c', none, .zero⟩, b₂) := by
  unfold create
  simp only [Logged.value_bind, h, h', Logged.value_pure]

end Renderer

end PolygonRenderer
