import PolygonRenderer.Proofs.Renderer.Retry

/-!
# Reuse of cached models

Between two clears of a cache a model is decoded once: the first draw of it that
succeeds leaves it behind, and every other draw finds it and appends an instance.

A cache would take a second model under the same key. There is none
(`ModelCache.IsUnique`) because a model is cached only after it was looked up in vain,
in the second attempt at a draw as well as in the first. `Drawing.Lasts` asks of a
property of caches that it outlasts all that happens between two clears, with a look-up
in front of all caching.
-/

namespace PolygonRenderer

namespace ModelCache

variable {β τ : Type} [Backend β] [TextureManager τ] {c c' : ModelCache} {host host' : Host β τ}
  {ctx : DecodeContext} {index : UInt32} {offset : UInt16} {words : List UInt32}
  {answer : Except RenderError ModelId}

/-- A model that was not there before is the one that is answered. -/
theorem model?_of_cacheModel
    (hvalue : (c.cacheModel host ctx index offset words).value = (answer, c', host'))
    {id : ModelId} {m : CachedModel} (hm : c'.model? id = some m) :
    c.model? id = some m ∨ answer = .ok id ∧ m.lutIndex = index ∧ m.textureOffset = offset := by
  rcases cacheModel_cases c host ctx index offset words with
    ⟨e, he⟩ | ⟨c₁, textures, ps, -, -, -, hstages, ⟨e, he⟩ | ⟨-, -, hok⟩⟩
  · rw [he] at hvalue
    cases hvalue
    exact .inl hm
  · rw [he] at hvalue
    cases hvalue
    rw [abandon, if_pos hstages.accepts_of_begun, model?, hstages.models_eq] at hm
    exact .inl hm
  · rw [hok] at hvalue
    cases hvalue
    have hmodels : c₁.models = c.models := hstages.models_eq
    rw [model?, commit, hmodels, Array.getElem?_push] at hm
    split at hm
    · rename_i hlast
      cases hm
      have hid : (⟨c.models.size⟩ : ModelId) = id := congrArg ModelId.mk hlast.symm
      exact .inr ⟨congrArg Except.ok hid, rfl, rfl⟩
    · exact .inl hm

/-- A key is looked up with this answer. -/
structure Finds (index : UInt32) (offset : UInt16) (id : ModelId) (c : ModelCache) : Prop where
  linked : c.IsLinked
  lookUp : c.lookUp index offset = some id

/-- Every model is found by its key. -/
structure IsUnique (c : ModelCache) : Prop where
  linked : c.IsLinked
  lookUp : ∀ id m, c.model? id = some m → c.lookUp m.lutIndex m.textureOffset = some id

/-- No two models have the same key. -/
theorem IsUnique.eq_of_key (h : c.IsUnique) {id id' : ModelId} {m m' : CachedModel}
    (hm : c.model? id = some m) (hm' : c.model? id' = some m')
    (hkey : (m.lutIndex, m.textureOffset) = (m'.lutIndex, m'.textureOffset)) : id = id' := by
  have hid := h.lookUp id m hm
  have hid' := h.lookUp id' m' hm'
  obtain ⟨hindex, hoffset⟩ := Prod.mk.inj hkey
  rw [hindex, hoffset, hid'] at hid
  exact (Option.some.inj hid).symm

theorem IsUnique.cleared (h : c.IsUnique) : c.cleared.IsUnique where
  linked := h.linked.cleared
  lookUp id m hm := by simp [ModelCache.cleared, model?] at hm

theorem isUnique_empty (limits : CacheLimits) (source : ModelSource) (buffer : BufferHandle)
    (capacity : Nat) : (empty limits source buffer capacity).IsUnique where
  linked := isLinked_empty limits source buffer capacity
  lookUp id m hm := by simp [empty, model?] at hm

end ModelCache

namespace Drawing

open ModelCache

variable {β τ : Type} [Backend β] [TextureManager τ]

/-- The property outlasts what draws do to a cache from one clear to the next: caching
a model that is not found, and appending. -/
structure Lasts (β τ : Type) [Backend β] [TextureManager τ] (P : ModelCache → Prop) : Prop where
  cacheModel : ∀ {c c' : ModelCache} {host host' : Host β τ} {ctx : DecodeContext}
    {index : UInt32} {offset : UInt16} {words : List UInt32}
    {answer : Except RenderError ModelId}, P c → c.lookUp index offset = none →
    (c.cacheModel host ctx index offset words).value = (answer, c', host') → P c'
  displayList : ∀ {c : ModelCache} (l : DisplayList), P c → P { c with displayList := l }

/-- A model that is not found has another key. -/
theorem lasts_finds (index : UInt32) (offset : UInt16) (id : ModelId) :
    Lasts β τ (Finds index offset id) where
  cacheModel {c c' host host' ctx i o words answer} h hmissing hvalue := by
    have hlinked := h.linked.cacheModel host ctx i o words
    have hlookUp := h.linked.lookUp_cacheModel host ctx i o words index offset
    rw [hvalue] at hlinked hlookUp
    refine ⟨hlinked, ?_⟩
    cases answer with
    | error e => exact hlookUp.trans h.lookUp
    | ok id' =>
        dsimp only at hlookUp
        rw [if_neg] at hlookUp
        · exact hlookUp.trans h.lookUp
        · rintro ⟨⟩
          cases hmissing.symm.trans h.lookUp
  displayList _ h := ⟨h.linked.of_eq rfl rfl (.inr rfl), h.lookUp⟩

theorem lasts_isUnique : Lasts β τ IsUnique where
  cacheModel {c c' host host' ctx i o words answer} h hmissing hvalue := by
    have hlinked := h.linked.cacheModel host ctx i o words
    rw [hvalue] at hlinked
    refine ⟨hlinked, ?_⟩
    intro id m hm
    rcases model?_of_cacheModel hvalue hm with hold | ⟨rfl, hindex, hoffset⟩
    · have hfinds : Finds m.lutIndex m.textureOffset id c := ⟨h.linked, h.lookUp id m hold⟩
      exact ((lasts_finds _ _ _).cacheModel hfinds hmissing hvalue).lookUp
    · rw [hindex, hoffset]
      exact h.linked.lookUp_of_cacheModel hvalue
  displayList _ h := ⟨h.linked.of_eq rfl rfl (.inr rfl), h.lookUp⟩

namespace Lasts

variable {P : ModelCache → Prop} {viewport : Option Viewport} {ctx : DecodeContext}
  {q : ModelRequest} {t : Transform} {x y : Drawing β τ} {answer : Except RenderError ModelId}

theorem move (h : Lasts β τ P) (hmove : Move viewport ctx q t x y) (hx : P x.cache)
    (hclear : y.stats.clears q.source = x.stats.clears q.source ∨
      ∀ c : ModelCache, P c → P c.cleared) : P y.cache := by
  cases hmove with
  | found => exact hx
  | cached hmissing hcache => exact h.cacheModel hx hmissing hcache
  | appendedModel happend =>
      obtain ⟨m, l, -, -, rfl⟩ := appendModel_ok happend
      exact h.displayList l hx
  | cleared =>
      have hcounted := x.stats.clears_countClear q.source
      rcases hclear with hsame | hcleared
      · rw [Drawing.cleared, hcounted] at hsame
        omega
      · exact hcleared _ hx
  | appendedViewport happend =>
      obtain ⟨l, -, rfl⟩ := appendViewport_ok happend
      exact h.displayList l hx

/-- A clear does not matter if none is made, or if the property outlasts it too. -/
theorem run (h : Lasts β τ P) (hx : P x.cache)
    (hvalue : (x.run viewport ctx q t).value = (answer, y))
    (hclear : y.stats.clears q.source = x.stats.clears q.source ∨
      ∀ c : ModelCache, P c → P c.cleared) : P y.cache := by
  -- the counter never falls, so if it ends where it started it has not moved in between
  refine (Moves.of_run hvalue).keeps (P := fun z =>
    (z.stats.clears q.source = x.stats.clears q.source ∨ ∀ c : ModelCache, P c → P c.cleared) →
      P z.cache) (fun _ => hx) ?_ hclear
  intro z w hmoves hmove hz
  have hle := hmoves.clears_le
  have hle' := hmove.clears_le
  rintro (hsame | hcleared)
  · exact h.move hmove (hz (.inl (by omega))) (.inl (by omega))
  · exact h.move hmove (hz (.inr hcleared)) (.inr hcleared)

end Lasts

theorem run_of_found {x : Drawing β τ} {q : ModelRequest} {t : Transform} {id : ModelId}
    {c : ModelCache} (hfound : x.cache.lookUp q.lutIndex q.textureOffset = some id)
    (happend : x.cache.appendModel id t = .ok c) (viewport : Option Viewport)
    (ctx : DecodeContext) :
    (x.run viewport ctx q t).value =
      (.ok id, ⟨c, { x.stats with cacheHits := x.stats.cacheHits + 1 }, x.host⟩) := by
  have hattempt : (x.attempt ctx q t).value =
      (.ok id, ⟨c, { x.stats with cacheHits := x.stats.cacheHits + 1 }, x.host⟩) := by
    unfold Drawing.attempt
    rw [Logged.value_bind, obtain_of_found hfound]
    dsimp only
    rw [happend]
    rfl
  rcases x.run_cases viewport ctx q t with ⟨hrun, -⟩ | ⟨e, y, hfailed, -⟩
  · rw [hrun, hattempt]
  · rw [hattempt] at hfailed
    cases hfailed

end Drawing

namespace Renderer

open Drawing

variable {β τ : Type} [Backend β] [TextureManager τ]

/-- A call does not clear the cache for a source. A draw that clears it counts that. -/
def Spares (r : Renderer) (source : ModelSource) : RendererCall β τ → Prop
  | .beginFrame => source = .static
  | .setViewport _ => True
  | .drawModel host q t =>
    (r.step (.drawModel host q t)).stats.clears source = r.stats.clears source

/-- None of the calls clears the cache for a source. -/
def SparesAll (r : Renderer) (source : ModelSource) : List (RendererCall β τ) → Prop
  | [] => True
  | call :: calls => r.Spares source call ∧ SparesAll (r.step call) source calls

section Lasts

variable {P : ModelCache → Prop} {source : ModelSource} {r : Renderer}

theorem lasts_step (h : Lasts β τ P) (hr : P (r.cache source)) (call : RendererCall β τ)
    (hclear : r.Spares source call ∨ ∀ c : ModelCache, P c → P c.cleared) :
    P ((r.step call).cache source) := by
  cases call with
  | beginFrame =>
      cases source with
      | static => exact h.displayList _ hr
      | dynamic =>
          rcases hclear with hstatic | hcleared
          · cases hstatic
          · exact hcleared _ hr
  | setViewport v =>
      simp only [step]
      rcases r.setViewport_cases v with he | ⟨c, c', hstatic, hdynamic, hok⟩
      · rw [he]
        exact hr
      · rw [hok]
        obtain ⟨l, -, rfl⟩ := ModelCache.appendViewport_ok hstatic
        obtain ⟨l', -, rfl⟩ := ModelCache.appendViewport_ok hdynamic
        cases source with
        | static => exact h.displayList l hr
        | dynamic => exact h.displayList l' hr
  | drawModel host q t =>
      rcases hvalue : (Drawing.run ⟨r.cache q.source, r.stats, host⟩ r.viewport
        (r.decodeContext host.textures q t) q t).value with ⟨answer, y⟩
      rw [cache_step_drawModel hvalue]
      split
      · rename_i hsource
        subst hsource
        refine h.run hr hvalue ?_
        rw [Spares, step_drawModel hvalue] at hclear
        exact hclear
      · exact hr

theorem lasts_run (h : Lasts β τ P) (hr : P (r.cache source)) {calls : List (RendererCall β τ)}
    (hclear : r.SparesAll source calls ∨ ∀ c : ModelCache, P c → P c.cleared) :
    P ((r.run calls).cache source) := by
  induction calls generalizing r with
  | nil => exact hr
  | cons call calls ih =>
      rcases hclear with ⟨hspares, htail⟩ | hcleared
      · exact ih (lasts_step h hr call (.inl hspares)) (.inl htail)
      · exact ih (lasts_step h hr call (.inr hcleared)) (.inr hcleared)

end Lasts

theorem isUnique_create {config : Config} {b b' : β} {r : Renderer}
    (hcreate : (create config b).value = (.ok r, b')) (source : ModelSource) :
    (r.cache source).IsUnique := by
  obtain ⟨buffer, capacity, hcache⟩ := cache_of_create hcreate source
  rw [hcache]
  exact ModelCache.isUnique_empty (config.limits source) source buffer capacity

/-- A draw that succeeds leaves the instance behind. -/
theorem hasDrawn_of_drawModel {limits : CacheLimits} {capacity : Nat} {r r₁ : Renderer}
    {host host₁ : Host β τ} {q : ModelRequest} {t : Transform} {id : ModelId}
    (h : (r.cache q.source).IsInOrder limits capacity)
    (hdraw : (r.drawModel host q t).value = (.ok id, r₁, host₁)) :
    r₁ = r.step (.drawModel host q t) ∧ (r₁.cache q.source).HasDrawn q t id := by
  have hr₁ : r₁ = r.step (.drawModel host q t) := by
    rw [step, hdraw]
  rcases hvalue : (Drawing.run ⟨r.cache q.source, r.stats, host⟩ r.viewport
    (r.decodeContext host.textures q t) q t).value with ⟨answer, y⟩
  have hanswer := congrArg Prod.fst ((drawModel_of_run hvalue).symm.trans hdraw)
  cases hanswer
  refine ⟨hr₁, ?_⟩
  rw [hr₁, cache_step_drawModel hvalue, if_pos rfl]
  exact Drawing.run_ok h hvalue

/-- With room for it, a model that is found is drawn by appending an instance. -/
theorem drawModel_of_found {r : Renderer} {q : ModelRequest} {id : ModelId} {m : CachedModel}
    {l : DisplayList} {t : Transform}
    (hfound : (r.cache q.source).lookUp q.lutIndex q.textureOffset = some id)
    (hm : (r.cache q.source).model? id = some m)
    (hl : (r.cache q.source).displayList.appendModel m.ranges t = .ok l) (host : Host β τ) :
    (r.drawModel host q t).value =
      (.ok id, { r.setCache q.source { r.cache q.source with displayList := l } with
        stats := { r.stats with cacheHits := r.stats.cacheHits + 1 } }, host) := by
  have happend : (r.cache q.source).appendModel id t =
      .ok { r.cache q.source with displayList := l } := by
    rw [ModelCache.appendModel, hm]
    dsimp only
    rw [hl]
    rfl
  exact drawModel_of_run (run_of_found (x := ⟨r.cache q.source, r.stats, host⟩) hfound happend _ _)

/-- After any calls, no two models of a cache have the same key. Once a model was drawn,
and for as long as its cache is not cleared, every draw with room for it answers the same
model. It appends the instance, which is counted as a hit, and touches neither the host
nor anything else of the renderer. -/
theorem drawModel_of_drawn {config : Config} {b b' : β} {r₀ : Renderer}
    (hcreate : (create config b).value = (.ok r₀, b')) (calls : List (RendererCall β τ)) :
    let r := r₀.run calls
    (∀ source id id' m m', (r.cache source).model? id = some m →
        (r.cache source).model? id' = some m' →
        (m.lutIndex, m.textureOffset) = (m'.lutIndex, m'.textureOffset) → id = id') ∧
      ∀ (host : Host β τ) q t id r₁ host₁, (r.drawModel host q t).value = (.ok id, r₁, host₁) →
        ∀ later : List (RendererCall β τ), r₁.SparesAll q.source later →
          let r' := r₁.run later
          let c := r'.cache q.source
          ∀ (host' : Host β τ) q' t', q'.source = q.source → q'.lutIndex = q.lutIndex →
            q'.textureOffset = q.textureOffset → c.displayList.hasRoom = true →
            ∃ m l, c.model? id = some m ∧
              (r'.drawModel host' q' t').value =
                (.ok id, { r'.setCache q.source { c with displayList := l } with
                  stats := { r'.stats with cacheHits := r'.stats.cacheHits + 1 } }, host') ∧
              ∀ p, l.contents p = c.displayList.contents p ++
                if (m.ranges.get p).count ≠ 0 then
                  [.model ⟨m.ranges.get p, t'.modelView,
                    Winding.ofTransform t'.modelView t'.zSign⟩]
                else [] := by
  intro r
  refine ⟨?_, ?_⟩
  · intro source id id' m m' hm hm' hkey
    have hunique : ((r₀.run calls).cache source).IsUnique :=
      lasts_run lasts_isUnique (isUnique_create hcreate source) (.inr fun _ h => h.cleared)
    exact hunique.eq_of_key hm hm' hkey
  · intro host q t id r₁ host₁ hdraw later hspares r' c host' q' t' hsource hindex hoffset hroom
    obtain ⟨hr₁, hdrawn⟩ := hasDrawn_of_drawModel (isInOrder_run hcreate calls q.source) hdraw
    have hreached : r' = r₀.run (calls ++ .drawModel host q t :: later) := by
      rw [run_append, run, ← hr₁]
    have horder := isInOrder_run hcreate (calls ++ .drawModel host q t :: later) q.source
    rw [← hreached] at horder
    have hlinked := isInOrder_run hcreate (calls ++ [.drawModel host q t]) q.source
    rw [run_append, run, run, ← hr₁] at hlinked
    have hfinds : c.Finds q.lutIndex q.textureOffset id :=
      lasts_run (lasts_finds _ _ _) ⟨hlinked.linked, hdrawn.lookUp⟩ (.inl hspares)
    obtain ⟨m, hm, -⟩ := horder.linked.exists_of_lookUp hfinds.lookUp
    cases hl : c.displayList.appendModel m.ranges t' with
    | error e =>
        have hfull := (DisplayList.appendModel_error hl).1
        rw [hroom] at hfull
        cases hfull
    | ok l =>
        refine ⟨m, l, hm, ?_, (horder.threaded.appendModel hl).2⟩
        have hfound := hfinds.lookUp
        rw [← hindex, ← hoffset] at hfound
        simp only [c] at hfound hm hl ⊢
        rw [← hsource] at hfound hm hl ⊢
        exact drawModel_of_found hfound hm hl host'

/-- A static model is drawn, and once more in the next frame, from other words and with
another transform. -/
theorem drawModel_of_drawn_next_frame :
    let limits : CacheLimits := ⟨64, 32, 4, 16, 8⟩
    let config : Config := ⟨limits, limits, .unlessWord4, 1⟩
    let words : List UInt32 := [0, 4, 0, 0, 0, 0, 1, 1, 2, 3, 4, 5, 6, 7, 8, 9, 10, 11, 12]
    let q : ModelRequest := ⟨.static, 3, 0x10, 0, 0, words, #[]⟩
    let q' : ModelRequest := { q with words := [] }
    let t' : Transform := { Transform.identity with zSign := -1 }
    let host : Host Recorder TextureLog := ⟨.empty none, .empty 16 .origin⟩
    let later : List (RendererCall Recorder TextureLog) := [.beginFrame, .setViewport .screen]
    ∃ r₀ b' id r₁ host₁, (create config (Recorder.empty none)).value = (.ok r₀, b') ∧
      (r₀.drawModel host q .identity).value = (.ok id, r₁, host₁) ∧
      ∃ r₂, ((r₁.run later).drawModel host q' t').value = (.ok id, r₂, host) ∧
        r₂.stats = ⟨0, 1, 0, 0, 0⟩ := by
  intro limits config words q q' t' host later
  have hstatic : (ModelCache.create limits .static (Recorder.empty none)).value = (.ok _, _) :=
    ModelCache.create_of_granted rfl
  have hcreate : (create config (Recorder.empty none)).value = (.ok _, _) :=
    create_of_created hstatic (ModelCache.create_of_granted rfl)
  let r₀ : Renderer :=
    ⟨config, .empty limits .static ⟨0⟩ 64, .empty limits .dynamic ⟨1⟩ 64, none, .zero⟩
  have hanswer : (r₀.drawModel host q .identity).value.1.toOption = some ⟨0⟩ := by decide +kernel
  have hroom : (((r₀.drawModel host q .identity).value.2.1.run later).cache
      .static).displayList.hasRoom = true := by decide +kernel
  have hstats : ((r₀.drawModel host q .identity).value.2.1.run later).stats = .zero := by
    decide +kernel
  rcases hdraw : (r₀.drawModel host q .identity).value with ⟨answer, r₁, host₁⟩
  rw [hdraw] at hanswer hroom hstats
  cases answer with
  | error e => cases hanswer
  | ok id =>
      obtain ⟨m, l, -, hvalue, -⟩ := (drawModel_of_drawn hcreate []).2 host q .identity _ _ _ hdraw
        later ⟨rfl, trivial, trivial⟩ host q' t' rfl rfl rfl hroom
      refine ⟨r₀, _, id, r₁, host₁, hcreate, hdraw, _, hvalue, ?_⟩
      rw [hstats]
      rfl

end Renderer

end PolygonRenderer
