import PolygonRenderer.Proofs.DisplayList.Session
import PolygonRenderer.Proofs.ModelCache.Instances
import PolygonRenderer.Proofs.ModelCache.Ladder
import PolygonRenderer.Proofs.Renderer.Statistics

/-!
# Widths of the numbers

The numbers that a renderer stores, from the links of a display list to the counters of a
frame, are natural numbers here. Machine words take their place as long as they stay within
a bound, which is what this module is about.

The numbers of a cache follow from its limits, whatever calls are made
(`Renderer.isWithin_run`): with limits below `2 ^ 32`, every link, every number of a model and
every range of vertices is below `2 ^ 32` as well. The counters of a frame follow from the
number of its calls (`Renderer.counters_le_run`).
-/

namespace PolygonRenderer

namespace CacheLimits

/-- What the numbers of a cache follow from does not exceed a bound. -/
structure IsWithin (n : Nat) (l : CacheLimits) : Prop where
  bufferVertices : l.bufferVertices ≤ n
  stagingVertices : l.stagingVertices ≤ n
  maxModels : l.maxModels ≤ n
  displayListEntries : l.displayListEntries ≤ n

example : CacheLimits.static.IsWithin 0xFFFFFFFF :=
  ⟨by decide, by decide, by decide, by decide⟩

theorem IsWithin.le_of_mem_ladder {n size : Nat} {l : CacheLimits} (h : l.IsWithin n)
    (hsize : size ∈ l.ladder) : size ≤ n := by
  rcases List.mem_append.1 hsize with hrung | hlast
  · obtain ⟨-, -, k, hk⟩ := mem_rungs.1 hrung
    exact Nat.le_trans (Nat.le.intro hk) h.bufferVertices
  · rw [List.mem_singleton.1 hlast]
    exact h.stagingVertices

end CacheLimits

namespace DisplayList

/-- The places that a display list stores lie below a bound, and so does its length. -/
structure IsWithin (n : Nat) (l : DisplayList) : Prop where
  length : l.length ≤ n
  head : ∀ p i, l.head.get p = some i → i < n
  tail : ∀ p i, l.tail.get p = some i → i < n
  next : ∀ node ∈ l.nodes, ∀ i, node.next = some i → i < n

theorem Thread.lt_size {nodes : Array DisplayNode} {i : Nat} {path : List (Nat × NodeContent)}
    (h : Thread nodes (some i) path) : i < nodes.size := by
  cases h with
  | cons hnode _ => exact (Array.getElem?_eq_some_iff.1 hnode).1

/-- A list that stands for plain lists stores no place beyond its nodes, and has no more nodes
than its capacity. -/
theorem Represents.isWithin {n : Nat} {l : DisplayList} {k : PlainLists} (h : l.Represents k)
    (hcapacity : l.capacity ≤ n) : l.IsWithin n := by
  obtain ⟨paths, hpaths⟩ := h.linked
  have hlength : l.length ≤ n := by
    rw [h.length_eq]
    exact Nat.le_trans h.length_le (h.capacity ▸ hcapacity)
  refine ⟨hlength, ?_, ?_, ?_⟩
  · intro p i hi
    have hthread := hpaths.head p
    rw [hi] at hthread
    exact Nat.lt_of_lt_of_le hthread.lt_size hlength
  · intro p i hi
    rw [hpaths.tail] at hi
    exact Nat.lt_of_lt_of_le (hpaths.lt_size (List.mem_of_getLast? hi)) hlength
  · intro node hnode i hi
    obtain ⟨k, hk⟩ := Array.getElem?_of_mem hnode
    exact Nat.lt_of_lt_of_le (h.forward k node i hk hi).2 hlength

end DisplayList

namespace ModelCache

/-- The display list of a cache stands for plain lists. -/
def IsPlain (c : ModelCache) : Prop :=
  ∃ k, c.displayList.Represents k

theorem isPlain_empty (limits : CacheLimits) (source : ModelSource) (buffer : BufferHandle)
    (capacity : Nat) : IsPlain (empty limits source buffer capacity) :=
  ⟨_, .empty limits.displayListEntries⟩

/-- What a call of a display list leaves stands for plain lists again. -/
theorem IsPlain.of_step {c : ModelCache} {l : DisplayList} (h : c.IsPlain) (call : DisplayCall)
    (hl : (c.displayList.step call).2 = l) : IsPlain { c with displayList := l } := by
  obtain ⟨k, hk⟩ := h
  exact ⟨_, hl ▸ (hk.step call).2⟩

variable {β τ : Type} [Backend β] [TextureManager τ]

theorem keeps_isPlain : Renderer.Keeps β τ IsPlain where
  clearDisplayList h := h.of_step .clear rfl
  cleared h := h.of_step .clear rfl
  appendViewport h happend := by
    obtain ⟨l, hl, rfl⟩ := appendViewport_ok happend
    exact h.of_step (.appendViewport _) (by rw [DisplayList.step, hl])
  appendModel h happend := by
    obtain ⟨m, l, -, hl, rfl⟩ := appendModel_ok happend
    exact h.of_step (.appendModel _ _) (by rw [DisplayList.step, hl])
  cacheModel h hvalue := by
    unfold IsPlain
    rw [(cacheModel_keeps hvalue).1]
    exact h

theorem keeps_isBacked : Renderer.Keeps β τ IsBacked where
  clearDisplayList _ := .of_clear rfl
  cleared _ := .of_clear rfl
  appendViewport h happend := by
    obtain ⟨l, hl, rfl⟩ := appendViewport_ok happend
    exact h.appendViewport hl
  appendModel h happend := by
    obtain ⟨m, l, hm, hl, rfl⟩ := appendModel_ok happend
    exact h.appendModel hm hl
  cacheModel h hvalue := by
    obtain ⟨hlist, -, -, hkept⟩ := cacheModel_keeps hvalue
    exact h.of_displayList_eq hlist hkept

/-- A cache is created with a size of its ladder. -/
theorem bufferCapacity_mem_ladder {limits : CacheLimits} {source : ModelSource} {b b' : β}
    {c : ModelCache} (hcreate : (create limits source b).value = (.ok c, b')) :
    c.bufferCapacity ∈ limits.ladder := by
  have hladder := create_ladder limits source b
  rw [hcreate] at hladder
  obtain ⟨-, before, after, b₁, heq, -⟩ := hladder
  rw [heq]
  exact List.mem_append_right _ List.mem_cons_self

/-- None of the numbers that a cache stores exceeds a bound. -/
structure IsWithin (n : Nat) (c : ModelCache) : Prop where
  cursor : c.cursor ≤ n
  models : c.models.size ≤ n
  ranges : ∀ m ∈ c.models, ∀ p, (m.ranges.get p).first + (m.ranges.get p).count ≤ n
  newest : ∀ index id, c.lut.get? index = some id → id.index < n
  variants : ∀ m ∈ c.models, ∀ id, m.nextVariant = some id → id.index < n
  displayList : c.displayList.IsWithin n
  instances : ∀ p i, .model i ∈ c.displayList.contents p → i.range.first + i.range.count ≤ n

/-- The models tile the buffer, and are numbered in the order in which they lie there. -/
theorem isWithin_of_isInOrder {n capacity : Nat} {limits : CacheLimits} {c : ModelCache}
    (h : c.IsInOrder limits capacity) (hplain : c.IsPlain) (hbacked : c.IsBacked)
    (hlimits : limits.IsWithin n) (hcapacity : capacity ≤ n) : c.IsWithin n := by
  have haccounted := h.accounts.accounted
  have hcursor : c.cursor ≤ n :=
    Nat.le_trans haccounted.cursor_le (h.bufferCapacity ▸ hcapacity)
  have hmodels : c.models.size ≤ n :=
    Nat.le_trans haccounted.models_le (h.maxModels ▸ hlimits.maxModels)
  have hranges : ∀ m ∈ c.models, ∀ p, (m.ranges.get p).first + (m.ranges.get p).count ≤ n := by
    intro m hm p
    exact Nat.le_trans (haccounted.range_le hm p) hcursor
  have hnewest : ∀ {accept : CachedModel → Bool} {k : Nat} {id : ModelId}, k ≤ c.models.size →
      newest accept c.models k = some id → id.index < n := by
    intro accept k id hk hid
    exact Nat.lt_of_lt_of_le (exists_of_newest hid).1 (Nat.le_trans hk hmodels)
  obtain ⟨k, hk⟩ := hplain
  refine ⟨hcursor, hmodels, hranges, ?_, ?_, hk.isWithin ?_, ?_⟩
  · intro index id hid
    rw [h.linked.head] at hid
    exact hnewest (Nat.le_refl _) hid
  · intro m hm id hid
    obtain ⟨k, hk⟩ := Array.getElem?_of_mem hm
    rw [h.linked.next k m hk] at hid
    exact hnewest (Nat.le_of_lt (Array.getElem?_eq_some_iff.1 hk).1) hid
  · rw [h.nodeCapacity]
    exact hlimits.displayListEntries
  · intro p i hi
    obtain ⟨-, id, m, hm, hrange⟩ := hbacked.backs p i hi
    rw [hrange]
    exact hranges m (Array.mem_of_getElem? hm) p

end ModelCache

namespace Drawing

variable {β τ : Type} [Backend β] [TextureManager τ] {x y : Drawing β τ} {ctx : DecodeContext}
  {q : ModelRequest} {t : Transform}

/-- Looking for a model counts one at most, found or cached. -/
theorem obtained_obtain_le {answer : Except RenderError ModelId}
    (h : (x.obtain ctx q).value = (answer, y)) :
    y.stats.cacheHits + y.stats.modelsCached ≤
      x.stats.cacheHits + x.stats.modelsCached + 1 := by
  rw [(tallies_obtain q.source h).obtained]
  exact Nat.add_le_add_left (Bool.toNat_le _) _

theorem obtained_attempt_le {answer : Except RenderError ModelId}
    (h : (x.attempt ctx q t).value = (answer, y)) :
    y.stats.cacheHits + y.stats.modelsCached ≤
      x.stats.cacheHits + x.stats.modelsCached + 1 := by
  rcases x.attempt_cases ctx q t with
    ⟨e, z, hobtain, hattempt⟩ | ⟨id, z, hobtain, ⟨e, -, hattempt⟩ | ⟨c, -, hattempt⟩⟩
  all_goals
    rw [hattempt] at h
    cases h
    have hz := obtained_obtain_le hobtain
    exact hz

/-- A draw counts two models at most, one in each attempt. -/
theorem obtained_run_le {viewport : Option Viewport} {answer : Except RenderError ModelId}
    (h : (x.run viewport ctx q t).value = (answer, y)) :
    y.stats.cacheHits + y.stats.modelsCached ≤
      x.stats.cacheHits + x.stats.modelsCached + 2 := by
  rcases x.run_cases viewport ctx q t with ⟨hrun, -⟩ | ⟨e, z, hfirst, -, hretry⟩
  · exact Nat.le_succ_of_le (obtained_attempt_le (hrun.symm.trans h))
  · have hz := obtained_attempt_le hfirst
    rcases hretry with ⟨e', w, hroom, hrun⟩ | ⟨w, hroom, hrun⟩
    · have hw := (tallies_makeRoom hroom).obtained
      rw [hrun] at h
      cases h
      omega
    · have hw := (tallies_makeRoom hroom).obtained
      have hy := obtained_attempt_le (hrun.symm.trans h)
      omega

/-- A draw counts one clear at most. -/
theorem clears_run_le {viewport : Option Viewport} {answer : Except RenderError ModelId}
    (h : (x.run viewport ctx q t).value = (answer, y)) (source : ModelSource) :
    y.stats.clears source ≤ x.stats.clears source + 1 := by
  have hcount : ∀ s : FrameStats, (s.countClear q.source).clears source ≤ s.clears source + 1 := by
    intro s
    rw [s.clears_countClear_eq]
    split <;> omega
  rcases x.run_cases viewport ctx q t with ⟨hrun, -⟩ | ⟨e, z, hfirst, -, hretry⟩
  · rw [clears_of_attempt (hrun.symm.trans h)]
    exact Nat.le_succ _
  · rw [← clears_of_attempt hfirst]
    rcases hretry with ⟨e', w, hroom, hrun⟩ | ⟨w, hroom, hrun⟩
    · rw [hrun] at h
      cases h
      rw [stats_of_makeRoom hroom]
      exact hcount z.stats
    · rw [clears_of_attempt (hrun.symm.trans h), stats_of_makeRoom hroom]
      exact hcount z.stats

end Drawing

namespace Renderer

variable {β τ : Type} [Backend β] [TextureManager τ]

theorem bufferCapacity_le {config : Config} {b b' : β} {r : Renderer}
    (hcreate : (create config b).value = (.ok r, b')) {source : ModelSource} {n : Nat}
    (hlimits : (config.limits source).IsWithin n) : (r.cache source).bufferCapacity ≤ n := by
  obtain ⟨c, c', b₁, hstatic, hdynamic, rfl⟩ := create_ok hcreate
  cases source with
  | static => exact hlimits.le_of_mem_ladder (ModelCache.bufferCapacity_mem_ladder hstatic)
  | dynamic => exact hlimits.le_of_mem_ladder (ModelCache.bufferCapacity_mem_ladder hdynamic)

/-- Whatever calls are made, the numbers that a cache stores do not exceed what bounds its
limits. -/
theorem isWithin_run {config : Config} {b b' : β} {r : Renderer}
    (hcreate : (create config b).value = (.ok r, b')) (calls : List (RendererCall β τ))
    {source : ModelSource} {n : Nat} (hlimits : (config.limits source).IsWithin n) :
    ((r.run calls).cache source).IsWithin n := by
  have hempty : ∀ source, (r.cache source).IsPlain ∧ (r.cache source).IsBacked := by
    intro source
    obtain ⟨buffer, capacity, hcache⟩ := cache_of_create hcreate source
    rw [hcache]
    exact ⟨ModelCache.isPlain_empty _ _ _ _, .of_clear rfl⟩
  have hplain :=
    cache_run (fun _ => ModelCache.keeps_isPlain) (fun source => (hempty source).1) calls source
  have hbacked :=
    cache_run (fun _ => ModelCache.keeps_isBacked) (fun source => (hempty source).2) calls source
  exact ModelCache.isWithin_of_isInOrder (isInOrder_run hcreate calls source) hplain hbacked hlimits
    (bufferCapacity_le hcreate hlimits)

/-- A call counts two models and one clear of each cache at most. -/
theorem counters_le_step (r : Renderer) (call : RendererCall β τ) :
    (r.step call).stats.cacheHits + (r.step call).stats.modelsCached ≤
        r.stats.cacheHits + r.stats.modelsCached + 2 ∧
      ∀ source, (r.step call).stats.clears source ≤ r.stats.clears source + 1 := by
  cases call with
  | beginFrame =>
      refine ⟨Nat.zero_le _, ?_⟩
      intro source
      cases source <;> exact Nat.zero_le _
  | setViewport v =>
      have hstats : (r.step (.setViewport v : RendererCall β τ)).stats = r.stats := by
        rw [step]
        rcases r.setViewport_cases v with he | ⟨c, c', -, -, hok⟩
        · rw [he]
        · rw [hok]
      rw [hstats]
      exact ⟨Nat.le_add_right _ _, fun source => Nat.le_succ _⟩
  | drawModel host q t =>
      rcases hvalue : (Drawing.run ⟨r.cache q.source, r.stats, host⟩ r.viewport
        (r.decodeContext host.textures q t) q t).value with ⟨answer, y⟩
      rw [step_drawModel hvalue]
      exact ⟨Drawing.obtained_run_le hvalue, Drawing.clears_run_le hvalue⟩

/-- The counters of a frame, apart from that of the polygons, are bounded by the number of
calls since the renderer was created. -/
theorem counters_le_run (r : Renderer) (calls : List (RendererCall β τ)) :
    (r.run calls).stats.cacheHits + (r.run calls).stats.modelsCached ≤
        r.stats.cacheHits + r.stats.modelsCached + 2 * calls.length ∧
      ∀ source, (r.run calls).stats.clears source ≤ r.stats.clears source + calls.length := by
  induction calls generalizing r with
  | nil => exact ⟨Nat.le_refl _, fun source => Nat.le_refl _⟩
  | cons call calls ih =>
      obtain ⟨hobtained, hclears⟩ := r.counters_le_step call
      obtain ⟨hobtained', hclears'⟩ := ih (r.step call)
      rw [List.length_cons, run]
      refine ⟨by omega, ?_⟩
      intro source
      have hsource := hclears source
      have hsource' := hclears' source
      omega

end Renderer

end PolygonRenderer
