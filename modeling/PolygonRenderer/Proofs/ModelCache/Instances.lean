import PolygonRenderer.Proofs.DisplayList.Threads
import PolygonRenderer.Proofs.ModelCache.Geometry

/-!
# Instances in the display list

A node of the display list copies the range of vertices that it draws, so nothing but the
calls ties it to the model that it was appended for. `ModelCache.IsBacked` says that every
range is still that of a model in the cache. Models only ever go all at once, and the nodes go
with them, so each call keeps it.
-/

namespace PolygonRenderer

namespace ModelCache

variable {c c' : ModelCache}

/-- The instance has vertices, and they are those that a model of the cache has for the
pass. -/
def Backs (c : ModelCache) (p : Pass) (i : ModelInstance) : Prop :=
  0 < i.range.count ∧ ∃ id m, c.model? id = some m ∧ i.range = m.ranges.get p

theorem Backs.of_model? {p : Pass} {i : ModelInstance} (h : c.Backs p i)
    (hkept : ∀ id m, c.model? id = some m → c'.model? id = some m) : c'.Backs p i := by
  obtain ⟨hcount, id, m, hm, hrange⟩ := h
  exact ⟨hcount, id, m, hkept id m hm, hrange⟩

/-- Every instance in the display list is backed by a model. -/
structure IsBacked (c : ModelCache) : Prop where
  threaded : c.displayList.IsLinked
  backs : ∀ p i, .model i ∈ c.displayList.contents p → c.Backs p i

namespace IsBacked

theorem of_clear {capacity : Nat} (h : c.displayList = .empty capacity) : c.IsBacked where
  threaded := h ▸ DisplayList.isLinked_empty capacity
  backs p i hi := by
    rw [h, DisplayList.contents_empty] at hi
    exact absurd hi List.not_mem_nil

theorem of_displayList_eq (h : c.IsBacked) (hlist : c'.displayList = c.displayList)
    (hkept : ∀ id m, c.model? id = some m → c'.model? id = some m) : c'.IsBacked where
  threaded := hlist ▸ h.threaded
  backs p i hi := (h.backs p i (hlist ▸ hi)).of_model? hkept

/-- The nodes that are new have the ranges of the model. -/
theorem appendModel (h : c.IsBacked) {id : ModelId} {m : CachedModel} {t : Transform}
    {l : DisplayList} (hm : c.model? id = some m)
    (hl : c.displayList.appendModel m.ranges t = .ok l) :
    IsBacked { c with displayList := l } := by
  obtain ⟨hthreaded, hcontents⟩ := h.threaded.appendModel hl
  refine ⟨hthreaded, ?_⟩
  intro p i hi
  change NodeContent.model i ∈ l.contents p at hi
  rw [hcontents, List.mem_append] at hi
  rcases hi with hold | hnew
  · exact h.backs p i hold
  · split at hnew
    · rename_i hcount
      cases List.mem_singleton.1 hnew
      exact ⟨Nat.pos_of_ne_zero hcount, id, m, hm, rfl⟩
    · exact absurd hnew List.not_mem_nil

theorem appendViewport (h : c.IsBacked) {v : Viewport} {l : DisplayList}
    (hl : c.displayList.appendViewport v = .ok l) : IsBacked { c with displayList := l } := by
  obtain ⟨hthreaded, hcontents⟩ := h.threaded.appendViewport hl
  refine ⟨hthreaded, ?_⟩
  intro p i hi
  change NodeContent.model i ∈ l.contents p at hi
  rw [hcontents, List.mem_append] at hi
  rcases hi with hold | hnew
  · exact h.backs p i hold
  · cases List.mem_singleton.1 hnew

end IsBacked

end ModelCache

/-- Whether a call is about the display list, or drops it. -/
def CacheCall.isForDisplayList {β τ : Type} : CacheCall β τ → Bool
  | .appendModel .. | .appendViewport _ | .clearDisplayList | .clear => true
  | _ => false

namespace CacheSession

variable {β τ : Type} [Backend β] [TextureManager τ] {s s' : CacheSession β τ}
  {call : CacheCall β τ} {answer : CacheAnswer}

/-- No other call touches a node, whatever comes of it. -/
theorem displayList_step (hsteps : s.Steps call answer s')
    (hcall : call.isForDisplayList = false) : s'.cache.displayList = s.cache.displayList := by
  cases hsteps with
  | refused | begun | ended | elsewhere => rfl
  | inserted _ hstages | requested _ _ hstages => exact hstages.displayList_eq
  | dropped | abandoned => exact s.cache.displayList_abandon _
  | cached _ _ _ hstages => exact hstages.displayList_eq
  | uncached _ _ _ hstages =>
      exact (ModelCache.displayList_abandon _ _).trans hstages.displayList_eq
  | appendedModel | appendedViewport | clearedDisplayList | cleared => cases hcall

/-- Neither does a call that fails. -/
theorem displayList_of_failed {e : RenderError} (hsteps : s.Steps call (.failed e) s') :
    s'.cache.displayList = s.cache.displayList := by
  cases hsteps with
  | refused => rfl
  | dropped => exact s.cache.displayList_abandon _
  | uncached _ _ _ hstages =>
      exact (ModelCache.displayList_abandon _ _).trans hstages.displayList_eq

theorem isBacked_step (hsteps : s.Steps call answer s') (h : s.cache.IsBacked) :
    s'.cache.IsBacked := by
  by_cases hcall : call.isForDisplayList = true
  · cases hsteps with
    | refused => exact h
    | appendedModel hm hl => exact h.appendModel hm hl
    | appendedViewport hl => exact h.appendViewport hl
    | clearedDisplayList | cleared => exact .of_clear rfl
    | _ => cases hcall
  · have hlist := displayList_step hsteps (Bool.eq_false_iff.2 hcall)
    refine h.of_displayList_eq hlist fun id m => model?_step hsteps ?_
    rintro rfl
    exact hcall rfl

theorem isBacked_run (h : s.cache.IsBacked) (calls : List (CacheCall β τ)) :
    (s.run calls).cache.IsBacked := by
  induction calls generalizing s with
  | nil => exact h
  | cons call calls ih => exact ih (isBacked_step (s.steps call) h)

/-- After any calls with any handles, every model node has vertices, and its range is what a
model that is still in the cache has for the pass. When the cache is cleared, no node is left.
A model that is abandoned or not taken leaves the nodes as they are, as does any other call
that fails. -/
theorem instances_backed_of_run {limits : CacheLimits} {source : ModelSource} {b b' : β}
    {c : ModelCache} (hcreate : (ModelCache.create limits source b).value = (.ok c, b'))
    (textures : τ) (calls : List (CacheCall β τ)) :
    let s := (CacheSession.mk c ⟨b', textures⟩).run calls
    (∀ p i, .model i ∈ s.cache.displayList.contents p →
        0 < i.range.count ∧ ∃ id m, s.cache.model? id = some m ∧ i.range = m.ranges.get p) ∧
      ((s.step .clear).2.cache.displayList.nodes = #[] ∧
        ∀ p, (s.step .clear).2.cache.displayList.contents p = []) ∧
      (∀ h, (s.step (.abandon h)).2.cache.displayList = s.cache.displayList) ∧
      ∀ call e, (s.step call).1 = .failed e →
        (s.step call).2.cache.displayList = s.cache.displayList := by
  intro s
  obtain ⟨-, buffer, capacity, -, rfl, -⟩ := ModelCache.create_ok hcreate
  have hbacked : s.cache.IsBacked := isBacked_run (.of_clear rfl) calls
  refine ⟨hbacked.backs, ⟨rfl, fun p => DisplayList.contents_empty _ p⟩,
    fun h => displayList_step (s.steps (.abandon h)) rfl, ?_⟩
  intro call e hfailed
  exact displayList_of_failed (hfailed ▸ s.steps call)

/-- A triangle that is drawn once, while the next model is staged. -/
theorem instances_backed_of_triangle :
    let triangle : Polygon Float32 := ⟨⟨0, 0, 0, 0, 0, 0, 0x80⟩, .zero, 3, 0, .solid⟩
    let ctx : DecodeContext := ⟨1, -1, 0, 0, #[], .unlessWord4, .origin⟩
    let limits : CacheLimits := ⟨128, 64, 4, 16, 8⟩
    let calls : List (CacheCall Recorder TextureLog) :=
      [.beginModel, .insertPolygon ⟨0, 0⟩ triangle ctx, .endModel ⟨0, 0⟩ 3 0x10,
        .appendModel ⟨0⟩ .identity, .beginModel, .insertPolygon ⟨1, 3⟩ triangle ctx]
    ∃ c b', (ModelCache.create limits .static (Recorder.empty none)).value = (.ok c, b') ∧
      let s := (CacheSession.mk c ⟨b', TextureLog.empty 16 .origin⟩).run calls
      (s.cache.displayList.contents .solid).length = 1 ∧
        ∀ p i, .model i ∈ s.cache.displayList.contents p →
          0 < i.range.count ∧ ∃ id m, s.cache.model? id = some m ∧ i.range = m.ranges.get p := by
  intro triangle ctx limits calls
  have hcreate : (ModelCache.create limits .static (Recorder.empty none)).value = (.ok _, _) :=
    ModelCache.create_of_granted rfl
  exact ⟨_, _, hcreate, by decide +kernel,
    (instances_backed_of_run hcreate (TextureLog.empty 16 .origin) calls).1⟩

end CacheSession

end PolygonRenderer
