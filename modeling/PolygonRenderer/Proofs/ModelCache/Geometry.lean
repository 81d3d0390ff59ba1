import PolygonRenderer.Proofs.ModelCache.Contents

/-!
# Geometry of cached models

The vertices of a model pass through staging buffers that all models use, to a place
in the vertex buffer that was perhaps set aside before, for a model that was
abandoned. What is stored are the vertices of the polygons of the model all the same,
and they stay until the cache is cleared.

A client knows these polygons: `InsertionHistory` notes those that were inserted for
the model being staged, and for each cached model those that it was ended with. The
main statement is about runs in which every call is made with the current handle,
and in which nobody else writes to the vertex buffer of the cache.
-/

namespace PolygonRenderer

/-- A polygon that was inserted, with the context it was inserted in. -/
structure Insertion where
  ctx : DecodeContext
  polygon : Polygon Float32

namespace Insertion

/-- The vertices of one pass that insertions lead to, in order. -/
def vertices (insertions : List Insertion) (p : Pass) : List BufferVertex :=
  (insertions.filter (·.polygon.pass = p)).flatMap fun i =>
    ModelCache.polygonVertices i.polygon i.ctx

theorem vertices_append (is js : List Insertion) (p : Pass) :
    vertices (is ++ js) p = vertices is p ++ vertices js p := by
  rw [vertices, List.filter_append, List.flatMap_append, vertices, vertices]

end Insertion

/-- What was inserted into a cache, as far as the answers tell. -/
structure InsertionHistory where
  /-- What was inserted for the model that was begun last. -/
  staged : List Insertion
  /-- What was inserted for each model that has entered since the cache was last
  cleared, oldest first. -/
  committed : List (List Insertion)

namespace InsertionHistory

variable {β τ : Type}

/-- Nothing has been inserted yet. -/
def start : InsertionHistory :=
  ⟨[], []⟩

/-- Take note of an answer. A model that is cached as a whole has the polygons of its
stream inserted. -/
def note (k : InsertionHistory) : CacheCall β τ → CacheAnswer → InsertionHistory
  | .beginModel, .begun _ => { k with staged := [] }
  | .insertPolygon _ p ctx, .done => { k with staged := k.staged ++ [⟨ctx, p⟩] }
  | .endModel .., .cached _ => { k with committed := k.committed ++ [k.staged] }
  | .cacheModel ctx _ _ words, .cached _ =>
    { k with committed := k.committed ++ [(ModelCache.modelPolygons ctx words).map (⟨ctx, ·⟩)] }
  | .clear, .done => start
  | _, _ => k

theorem note_failed (k : InsertionHistory) (call : CacheCall β τ) (e : RenderError) :
    k.note call (.failed e) = k := by
  cases call <;> rfl

variable [Backend β] [TextureManager τ]

/-- Take note of all answers of a run. -/
def after (k : InsertionHistory) (s : CacheSession β τ) : List (CacheCall β τ) → InsertionHistory
  | [] => k
  | call :: calls => after (k.note call (s.step call).1) (s.step call).2 calls

end InsertionHistory

namespace ModelCache

variable {c c' : ModelCache} {r r' : Recorder} {k : InsertionHistory}

/-- What is staged fits behind the models that are there. -/
theorem Accounts.staged_le {handle : StagingHandle} (h : Accounts (some handle) c) :
    handle.firstVertex + c.stagedCount .solid + c.stagedCount .blended ≤ c.bufferCapacity := by
  have hcursor := h.accounted.cursor
  have hle := h.accounted.cursor_le
  cases h.current with
  | staging hslot =>
      rw [pendingCount, hslot, Option.isSome_some, if_pos rfl] at hcursor
      dsimp only
      omega

/-- The models that are there end before the one that is being staged. -/
theorem Accounts.range_le {handle : StagingHandle} (h : Accounts (some handle) c)
    {m : CachedModel} (hm : m ∈ c.models) (p : Pass) :
    (m.ranges.get p).first + (m.ranges.get p).count ≤ handle.firstVertex := by
  have hend := h.accounted.tiles.range_le (Array.mem_toList_iff.2 hm) p
  cases h.current with
  | staging => rwa [Nat.zero_add] at hend

/-- Each model holds what was inserted for it, and the staging buffers what was
inserted since. -/
structure Retains (k : InsertionHistory) (r : Recorder) (c : ModelCache) : Prop where
  hasRoom : r.HasRoom c.buffer c.bufferCapacity
  size_eq : c.models.size = k.committed.length
  holds : ∀ (n : Nat) m insertions, c.models[n]? = some m → k.committed[n]? = some insertions →
    c.Holds r m (Insertion.vertices insertions)
  staged : c.staging.slot.isSome = true →
    ∀ p, (c.staging.vertices.get p).toList = Insertion.vertices k.staged p

namespace Retains

theorem empty {buffer : BufferHandle} {capacity : Nat} (hroom : r.HasRoom buffer capacity)
    (limits : CacheLimits) (source : ModelSource) :
    Retains .start r (empty limits source buffer capacity) where
  hasRoom := hroom
  size_eq := rfl
  holds n m insertions hm _ := by simp [ModelCache.empty] at hm
  staged hslot := by cases hslot

/-- Other buffers do not count. -/
theorem of_buffer?_eq (h : Retains k r c) (hsame : r'.buffer? c.buffer = r.buffer? c.buffer) :
    Retains k r' c where
  hasRoom := h.hasRoom.congr hsame
  size_eq := h.size_eq
  holds n m insertions hm hinsertions p := by
    rw [Recorder.fetch?_congr hsame]
    exact h.holds n m insertions hm hinsertions p
  staged := h.staged

/-- The display list does not count. -/
theorem of_displayList (h : Retains k r c) (l : DisplayList) :
    Retains k r { c with displayList := l } :=
  ⟨h.hasRoom, h.size_eq, h.holds, h.staged⟩

theorem begun (h : Retains k r c) : Retains { k with staged := [] } r c.begun where
  hasRoom := h.hasRoom
  size_eq := h.size_eq
  holds := h.holds
  staged _ p := by cases p <;> rfl

theorem of_stagesOn {insertions : List Insertion} (h : Retains k r c)
    (hstages : c.StagesOn c' (Insertion.vertices insertions)) :
    Retains { k with staged := k.staged ++ insertions } r c' where
  hasRoom := by
    rw [hstages.buffer_eq, hstages.bufferCapacity_eq]
    exact h.hasRoom
  size_eq := by
    rw [hstages.models_eq]
    exact h.size_eq
  holds n m insertions hm hinsertions := by
    rw [hstages.models_eq] at hm
    rw [Holds, hstages.buffer_eq]
    exact h.holds n m insertions hm hinsertions
  staged hslot p := by
    rw [hstages.slot] at hslot
    rw [hstages.vertices, h.staged hslot, Insertion.vertices_append]

/-- What was staged is lost, and nothing else. -/
theorem abandon (h : Retains k r c) {handle : StagingHandle} (haccepts : c.accepts handle = true)
    (staged : List Insertion) : Retains { k with staged := staged } r (c.abandon handle) := by
  rw [ModelCache.abandon, if_pos haccepts]
  refine ⟨h.hasRoom, h.size_eq, h.holds, ?_⟩
  intro hslot
  cases hslot

/-- The staged model is uploaded behind the models that are there, which keep what they
hold. -/
theorem commit {handle : StagingHandle} (h : Retains k r c) (haccounts : Accounts (some handle) c)
    (index : UInt32) (offset : UInt16) (staged : List Insertion) :
    Retains ⟨staged, k.committed ++ [k.staged]⟩ (c.uploaded handle r)
      (c.commit handle index offset) := by
  obtain ⟨hroom, hself, hbelow, -⟩ := fetch?_uploaded h.hasRoom handle haccounts.staged_le
  refine ⟨hroom, ?_, ?_, ?_⟩
  · rw [List.length_append, ← h.size_eq]
    exact Array.size_push _
  · intro n m insertions hm hinsertions p
    simp only [ModelCache.commit] at hm
    rcases Nat.lt_trichotomy n c.models.size with hn | rfl | hn
    · rw [Array.getElem?_push_lt hn, ← Array.getElem?_eq_getElem hn] at hm
      rw [List.getElem?_append_left (h.size_eq ▸ hn)] at hinsertions
      have hend := haccounts.range_le (Array.mem_of_getElem? hm) p
      exact (hbelow _ hend).trans (h.holds n m insertions hm hinsertions p)
    · rw [Array.getElem?_push_size] at hm
      rw [h.size_eq, List.getElem?_concat_length] at hinsertions
      cases hm
      cases hinsertions
      have hslot := Option.isSome_of_eq_some (accepts_iff.1 haccounts.accepts)
      rw [← h.staged hslot]
      exact hself p
    · rw [Array.getElem?_eq_none (by rw [Array.size_push]; exact hn)] at hm
      cases hm
  · intro hslot
    cases hslot

theorem cleared (h : Retains k r c) : Retains .start r c.cleared where
  hasRoom := h.hasRoom
  size_eq := rfl
  holds n m insertions hm _ := by simp [ModelCache.cleared] at hm
  staged hslot := by cases hslot

end Retains

/-- Models that enter go behind those that are there. -/
theorem model?_commit {id : ModelId} {m : CachedModel} (hm : c.model? id = some m)
    (handle : StagingHandle) (index : UInt32) (offset : UInt16) :
    (c.commit handle index offset).model? id = some m := by
  have hlt : id.index < c.models.size := (Array.getElem?_eq_some_iff.1 hm).1
  exact (Array.getElem?_push_lt hlt).trans ((Array.getElem?_eq_getElem hlt).symm.trans hm)

theorem model?_abandon (c : ModelCache) (handle : StagingHandle) (id : ModelId) :
    (c.abandon handle).model? id = c.model? id := by
  unfold ModelCache.abandon
  split <;> rfl

theorem StagesOn.model?_eq {new : Pass → List BufferVertex} (h : c.StagesOn c' new) (id : ModelId) :
    c'.model? id = c.model? id := by
  rw [model?, h.models_eq, model?]

end ModelCache

namespace CacheSession

section AnyBackend

variable {β τ : Type} [Backend β] [TextureManager τ]

/-- A model keeps its number until the cache is cleared. -/
theorem model?_step {s s' : CacheSession β τ} {call : CacheCall β τ} {answer : CacheAnswer}
    (hsteps : s.Steps call answer s') (hcall : call ≠ .clear) {id : ModelId} {m : CachedModel}
    (hm : s.cache.model? id = some m) : s'.cache.model? id = some m := by
  cases hsteps with
  | cleared => exact absurd rfl hcall
  | inserted _ hstages | requested _ _ hstages => exact (hstages.model?_eq id).trans hm
  | ended => exact ModelCache.model?_commit hm _ _ _
  | dropped | abandoned => exact (s.cache.model?_abandon _ id).trans hm
  | cached _ _ _ hstages => exact ModelCache.model?_commit ((hstages.model?_eq id).trans hm) _ _ _
  | uncached _ _ _ hstages =>
      exact (ModelCache.model?_abandon _ _ id).trans ((hstages.model?_eq id).trans hm)
  | refused | begun | appendedModel | appendedViewport | clearedDisplayList | elsewhere => exact hm

end AnyBackend

variable {τ : Type} [TextureManager τ]

/-- Nobody else writes to the buffer of the cache. -/
def IsUndisturbed (s : CacheSession Recorder τ) : List (CacheCall Recorder τ) → Prop
  | [] => True
  | call :: calls =>
    (∀ host, call = .elsewhere host →
      host.backend.buffer? s.cache.buffer = s.host.backend.buffer? s.cache.buffer) ∧
    IsUndisturbed (s.step call).2 calls

end CacheSession

end PolygonRenderer
