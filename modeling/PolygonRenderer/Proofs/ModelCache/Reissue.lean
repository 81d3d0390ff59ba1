import PolygonRenderer.Proofs.Graphics.Pictures
import PolygonRenderer.Proofs.ModelCache.Variants

/-!
# Numbers that are given out again

A model is known by its number, in the cache as well as while it is being staged, and
a cache that is cleared numbers its models from zero again. A handle or an id from
before a clear is refused only until a model has the same number.

The main statements say when a handle and when an id is refused, whatever handles and
ids the calls before were made with. Each is followed by a run in which one from before
a clear is taken for another model.
-/

namespace PolygonRenderer

namespace ModelCache

variable {c : ModelCache}

theorem accepts_eq_false_iff {h : StagingHandle} :
    c.accepts h = false ↔ c.staging.slot ≠ some h.slot := by
  rw [← Bool.not_eq_true, accepts_iff]

theorem slot_abandon (c : ModelCache) (h : StagingHandle) :
    (c.abandon h).staging.slot =
      if c.staging.slot = some h.slot then none else c.staging.slot := by
  simp only [ModelCache.abandon, accepts_iff]
  split <;> rfl

/-- The models that have entered are those in the cache. -/
theorem mem_entries {id : ModelId} {index : UInt32} {offset : UInt16} :
    (id, index, offset) ∈ c.entries ↔
      ∃ m, c.model? id = some m ∧ m.lutIndex = index ∧ m.textureOffset = offset := by
  rw [entries, List.mem_map, model?, ← Array.getElem?_toList]
  constructor
  · rintro ⟨⟨m, n⟩, hmem, heq⟩
    cases heq
    exact ⟨m, List.mem_zipIdx_iff_getElem?.1 hmem, rfl, rfl⟩
  · rintro ⟨m, hm, rfl, rfl⟩
    exact ⟨(m, id.index), List.mem_zipIdx_iff_getElem?.2 hm, rfl⟩

theorem length_entries (c : ModelCache) : c.entries.length = c.models.size := by
  rw [entries, List.length_map, List.length_zipIdx, Array.length_toList]

end ModelCache

namespace StagingHandle

variable {β τ : Type}

/-- The model that is being staged is left, if the handle has its number. -/
def leave (current : Option StagingHandle) (h : StagingHandle) : Option StagingHandle :=
  if current.map (·.slot) = some h.slot then none else current

theorem slot_leave (current : Option StagingHandle) (h : StagingHandle) :
    (leave current h).map (·.slot) =
      if current.map (·.slot) = some h.slot then none else current.map (·.slot) := by
  unfold leave
  split <;> rfl

/-- The handle of the model that is being staged, as far as the answers tell. The
calls may be made with any handles. -/
def note (current : Option StagingHandle) : CacheCall β τ → CacheAnswer → Option StagingHandle
  | .beginModel, .begun h => some h
  | .endModel h _ _, _ => leave current h
  | .abandon h, .done => leave current h
  | .clear, .done => none
  | _, _ => current

/-- A call that fails counts only where the model was to be ended. -/
theorem note_failed {current : Option StagingHandle} {call : CacheCall β τ} (e : RenderError)
    (hcall : ∀ h index offset, call = .endModel h index offset →
      current.map (·.slot) ≠ some h.slot) : note current call (.failed e) = current := by
  cases call with
  | endModel h index offset => exact if_neg (hcall h index offset rfl)
  | _ => rfl

variable [Backend β] [TextureManager τ]

/-- Take note of all answers of a run. -/
def after (current : Option StagingHandle) (s : CacheSession β τ) :
    List (CacheCall β τ) → Option StagingHandle
  | [] => current
  | call :: calls => after (note current call (s.step call).1) (s.step call).2 calls

/-- A cache knows the number of the handle, and nothing else of it. -/
theorem slot_step {current : Option StagingHandle} {s s' : CacheSession β τ}
    {call : CacheCall β τ} {answer : CacheAnswer} (hsteps : s.Steps call answer s')
    (h : s.cache.staging.slot = current.map (·.slot)) :
    s'.cache.staging.slot = (note current call answer).map (·.slot) := by
  cases hsteps with
  | refused hended =>
      rw [note_failed]
      · exact h
      · intro handle index offset hcall
        rw [← h]
        exact ModelCache.accepts_eq_false_iff.1 (hended handle index offset hcall)
  | begun | cleared => rfl
  | inserted _ hstages | requested _ _ hstages => exact hstages.slot.trans h
  | ended haccepts =>
      have hslot := h.symm.trans (ModelCache.accepts_iff.1 haccepts)
      rw [note, leave, if_pos hslot]
      rfl
  | dropped | abandoned => rw [ModelCache.slot_abandon, note, slot_leave, h]
  | cached hslot => exact hslot.symm.trans h
  | uncached hslot _ _ hstages =>
      rw [ModelCache.slot_abandon, if_pos (ModelCache.accepts_iff.1 hstages.accepts_of_begun)]
      exact hslot.symm.trans h
  | appendedModel | appendedViewport | clearedDisplayList | elsewhere => exact h

theorem slot_run {current : Option StagingHandle} {s : CacheSession β τ}
    (h : s.cache.staging.slot = current.map (·.slot)) (calls : List (CacheCall β τ)) :
    (s.run calls).cache.staging.slot = (after current s calls).map (·.slot) := by
  induction calls generalizing current s with
  | nil => exact h
  | cons call calls ih => exact ih (slot_step (s.steps call) h)

end StagingHandle

/-- The models of a cache are told from the answers, from its creation on. -/
theorem CacheHistory.tracks_create {β τ : Type} [Backend β] [TextureManager τ]
    {limits : CacheLimits} {source : ModelSource} {b b' : β} {c : ModelCache}
    (hcreate : (ModelCache.create limits source b).value = (.ok c, b')) (textures : τ)
    (calls : List (CacheCall β τ)) :
    ModelCache.Tracks (start.after (CacheSession.mk c ⟨b', textures⟩) calls).committed
      ((CacheSession.mk c ⟨b', textures⟩).run calls).cache := by
  obtain ⟨-, buffer, capacity, -, rfl, -⟩ := ModelCache.create_ok hcreate
  exact tracks_run ⟨ModelCache.isLinked_empty limits source buffer capacity, rfl⟩ calls

namespace CacheSession

variable {β τ : Type} [Backend β] [TextureManager τ]

/-- Nothing can be done with a handle: three calls answer that no model is being
staged, and to abandon it does nothing. The cache and its host stay as they are. -/
structure Refuses (s : CacheSession β τ) (h : StagingHandle) : Prop where
  insertPolygon : ∀ p ctx, s.step (.insertPolygon h p ctx) = (.failed .noModelInProgress, s)
  requestTexture : ∀ texture, s.step (.requestTexture h texture) = (.failed .noModelInProgress, s)
  endModel : ∀ index offset, s.step (.endModel h index offset) = (.failed .noModelInProgress, s)
  abandon : s.step (.abandon h) = (.done, s)

theorem refuses_iff {s : CacheSession β τ} {h : StagingHandle} :
    s.Refuses h ↔ s.cache.accepts h = false := by
  constructor
  · intro hrefuses
    rw [Bool.eq_false_iff]
    intro haccepts
    -- to abandon the model that is being staged ends the staging
    have hcache : s.cache.abandon h = s.cache :=
      congrArg (·.2.cache) hrefuses.abandon
    have hslot := s.cache.slot_abandon h
    rw [hcache, if_pos (ModelCache.accepts_iff.1 haccepts), ModelCache.accepts_iff.1 haccepts]
      at hslot
    cases hslot
  · intro hrefused
    constructor <;> intros <;>
      simp only [step, ModelCache.insertPolygon, ModelCache.requestTexture, ModelCache.endModel,
        ModelCache.abandon, hrefused, Bool.false_eq_true, if_false] <;> rfl

/-- A handle is refused unless the model that is being staged has its number, after any
calls with any handles. This number is how many models have entered since the last
clear. -/
theorem refuses_iff_run {limits : CacheLimits} {source : ModelSource} {b b' : β} {c : ModelCache}
    (hcreate : (ModelCache.create limits source b).value = (.ok c, b')) (textures : τ)
    (calls : List (CacheCall β τ)) (h : StagingHandle) :
    let s := (CacheSession.mk c ⟨b', textures⟩).run calls
    let k := CacheHistory.start.after (CacheSession.mk c ⟨b', textures⟩) calls
    let current := StagingHandle.after none (CacheSession.mk c ⟨b', textures⟩) calls
    (s.Refuses h ↔ current = none ∨ h.slot ≠ k.committed.length) ∧
      ∀ h', current = some h' → h'.slot = k.committed.length := by
  intro s k current
  have htracks : ModelCache.Tracks k.committed s.cache :=
    CacheHistory.tracks_create hcreate textures calls
  have hslot : s.cache.staging.slot = current.map (·.slot) := by
    obtain ⟨-, buffer, capacity, -, rfl, -⟩ := ModelCache.create_ok hcreate
    exact StagingHandle.slot_run rfl calls
  have hnumber : ∀ h', current = some h' → h'.slot = k.committed.length := by
    intro h' hcurrent
    rw [hcurrent] at hslot
    rw [htracks.entries, ModelCache.length_entries]
    exact htracks.linked.slot _ hslot
  refine ⟨?_, hnumber⟩
  rw [refuses_iff, ModelCache.accepts_eq_false_iff, hslot]
  cases hcurrent : current with
  | none => simp
  | some h' => simp [hnumber h' hcurrent, eq_comm]

/-- The second handle is from before the clear. It is refused while the first model after
it is being staged. -/
theorem refuses_second_handle :
    let triangle : Polygon Float32 := ⟨⟨0, 0, 0, 0, 0, 0, 0x80⟩, .zero, 3, 0, .solid⟩
    let ctx : DecodeContext := ⟨1, -1, 0, 0, #[], .unlessWord4, .origin⟩
    let limits : CacheLimits := ⟨128, 64, 4, 16, 8⟩
    let calls : List (CacheCall Recorder TextureLog) :=
      [.beginModel, .insertPolygon ⟨0, 0⟩ triangle ctx, .endModel ⟨0, 0⟩ 1 0, .beginModel, .clear,
        .beginModel, .insertPolygon ⟨0, 0⟩ triangle ctx]
    let textures : TextureLog := .empty 16 .origin
    ∃ c b', (ModelCache.create limits .static (Recorder.empty none)).value = (.ok c, b') ∧
      let s := (CacheSession.mk c ⟨b', textures⟩).run calls
      StagingHandle.after none (CacheSession.mk c ⟨b', textures⟩) calls = some ⟨0, 0⟩ ∧
        s.Refuses ⟨1, 3⟩ := by
  intro triangle ctx limits calls textures
  have hcreate : (ModelCache.create limits .static (Recorder.empty none)).value = (.ok _, _) :=
    ModelCache.create_of_granted rfl
  refine ⟨_, _, hcreate, by decide +kernel, (refuses_iff_run hcreate textures calls ⟨1, 3⟩).1.2 ?_⟩
  right
  decide +kernel

/-- The second handle is from before the clear. It ends the second model after it, and
the upload goes where the first model has its vertices. -/
theorem cached_by_handle_from_before_clear :
    let triangle : Polygon Float32 := ⟨⟨0, 0, 0, 0, 0, 0, 0x80⟩, .zero, 3, 0, .solid⟩
    let luminous : Polygon Float32 := ⟨⟨0, 0, 0, 0, 0, 0, 0x10080⟩, .zero, 3, 0, .solid⟩
    let ctx : DecodeContext := ⟨1, -1, 0, 0, #[], .unlessWord4, .origin⟩
    let limits : CacheLimits := ⟨128, 64, 4, 16, 8⟩
    let after : List (CacheCall Recorder TextureLog) :=
      [.beginModel, .insertPolygon ⟨0, 0⟩ triangle ctx, .endModel ⟨0, 0⟩ 1 0, .beginModel,
        .insertPolygon ⟨1, 3⟩ luminous ctx]
    let textures : TextureLog := .empty 16 .origin
    ∃ c b', (ModelCache.create limits .static (Recorder.empty none)).value = (.ok c, b') ∧
      let first := (CacheSession.mk c ⟨b', textures⟩).run [.beginModel, .endModel ⟨0, 0⟩ 1 0]
      let second := first.step .beginModel
      let s := second.2.run (.clear :: after)
      let ended := s.step (.endModel ⟨1, 0⟩ 2 0)
      second.1 = .begun ⟨1, 0⟩ ∧ ¬ s.Refuses ⟨1, 0⟩ ∧ ended.1 = .cached ⟨1⟩ ∧
        (s.cache.model? ⟨0⟩).map (·.ranges.solid) = some ⟨0, 3⟩ ∧
        ended.2.host.backend.fetch? c.buffer ⟨0, 3⟩ ≠ s.host.backend.fetch? c.buffer ⟨0, 3⟩ := by
  intro triangle luminous ctx limits after textures
  have hcreate : (ModelCache.create limits .static (Recorder.empty none)).value = (.ok _, _) :=
    ModelCache.create_of_granted rfl
  refine ⟨_, _, hcreate, ?_, ?_, ?_⟩
  · decide +kernel
  · rw [refuses_iff]
    decide +kernel
  · decide +kernel

/-- No model in the cache has the id: it cannot be appended, which is not mended by
clearing the cache, and no textures are decoded for it. -/
structure IsUnknown (s : CacheSession β τ) (id : ModelId) : Prop where
  model? : s.cache.model? id = none
  appendModel : ∀ t, s.step (.appendModel id t) = (.failed (.unknownModel id.index), s)
  isRecoverable : (RenderError.unknownModel id.index).isRecoverable = false
  decodeTextures : ∀ textures : τ, s.cache.decodeTextures id textures = textures

theorem isUnknown_iff {s : CacheSession β τ} {id : ModelId} :
    s.IsUnknown id ↔ s.cache.model? id = none := by
  refine ⟨IsUnknown.model?, fun hm => ⟨hm, fun t => ?_, rfl, fun textures => ?_⟩⟩
  · simp only [step, ModelCache.appendModel, hm]
    rfl
  · rw [ModelCache.decodeTextures, hm]

/-- An id is unknown unless a model has entered with it since the last clear, after any
calls with any handles. Otherwise it is the id of that model. -/
theorem isUnknown_iff_run {limits : CacheLimits} {source : ModelSource} {b b' : β}
    {c : ModelCache} (hcreate : (ModelCache.create limits source b).value = (.ok c, b'))
    (textures : τ) (calls : List (CacheCall β τ)) (id : ModelId) :
    let s := (CacheSession.mk c ⟨b', textures⟩).run calls
    let k := CacheHistory.start.after (CacheSession.mk c ⟨b', textures⟩) calls
    (s.IsUnknown id ↔ ∀ e ∈ k.committed, e.1 ≠ id) ∧
      ∀ index offset, (id, index, offset) ∈ k.committed →
        ∃ m, s.cache.model? id = some m ∧ m.lutIndex = index ∧ m.textureOffset = offset := by
  intro s k
  have htracks : ModelCache.Tracks k.committed s.cache :=
    CacheHistory.tracks_create hcreate textures calls
  rw [isUnknown_iff, htracks.entries]
  refine ⟨⟨?_, ?_⟩, fun index offset => ModelCache.mem_entries.1⟩
  · rintro hnone ⟨id, index, offset⟩ hmem rfl
    obtain ⟨m, hm, -⟩ := ModelCache.mem_entries.1 hmem
    rw [hnone] at hm
    cases hm
  · intro hnone
    rw [Option.eq_none_iff_forall_ne_some]
    intro m hm
    exact hnone _ (ModelCache.mem_entries.2 ⟨m, hm, rfl, rfl⟩) rfl

/-- Two models enter before the clear and one after it: the second id is unknown. -/
theorem isUnknown_second_id :
    let limits : CacheLimits := ⟨128, 64, 4, 16, 8⟩
    let calls : List (CacheCall Recorder TextureLog) :=
      [.beginModel, .endModel ⟨0, 0⟩ 1 0, .beginModel, .endModel ⟨1, 0⟩ 2 0, .clear,
        .beginModel, .endModel ⟨0, 0⟩ 3 0]
    let textures : TextureLog := .empty 16 .origin
    ∃ c b', (ModelCache.create limits .static (Recorder.empty none)).value = (.ok c, b') ∧
      let s := (CacheSession.mk c ⟨b', textures⟩).run calls
      s.cache.models.size = 1 ∧ s.IsUnknown ⟨1⟩ := by
  intro limits calls textures
  have hcreate : (ModelCache.create limits .static (Recorder.empty none)).value = (.ok _, _) :=
    ModelCache.create_of_granted rfl
  refine ⟨_, _, hcreate, ?_, (isUnknown_iff_run hcreate textures calls ⟨1⟩).1.2 ?_⟩
  · decide +kernel
  · decide +kernel

/-- The id is from before the clear. It is taken for the model that is cached after it,
under another index, and that model is appended. -/
theorem appended_by_id_from_before_clear :
    let triangle : Polygon Float32 := ⟨⟨0, 0, 0, 0, 0, 0, 0x80⟩, .zero, 3, 0, .solid⟩
    let ctx : DecodeContext := ⟨1, -1, 0, 0, #[], .unlessWord4, .origin⟩
    let limits : CacheLimits := ⟨128, 64, 4, 16, 8⟩
    let after : List (CacheCall Recorder TextureLog) :=
      [.beginModel, .insertPolygon ⟨0, 0⟩ triangle ctx, .endModel ⟨0, 0⟩ 2 0]
    let textures : TextureLog := .empty 16 .origin
    ∃ c b', (ModelCache.create limits .static (Recorder.empty none)).value = (.ok c, b') ∧
      let begun := (CacheSession.mk c ⟨b', textures⟩).run [.beginModel]
      let first := begun.step (.endModel ⟨0, 0⟩ 1 0)
      let s := first.2.run (.clear :: after)
      let appended := s.step (.appendModel ⟨0⟩ .identity)
      first.1 = .cached ⟨0⟩ ∧ ¬ s.IsUnknown ⟨0⟩ ∧
        (s.cache.model? ⟨0⟩).map (·.lutIndex) = some 2 ∧ appended.1 = .done ∧
        s.cache.displayList.nodes.size = 0 ∧ appended.2.cache.displayList.nodes.size = 1 := by
  intro triangle ctx limits after textures
  have hcreate : (ModelCache.create limits .static (Recorder.empty none)).value = (.ok _, _) :=
    ModelCache.create_of_granted rfl
  refine ⟨_, _, hcreate, ?_, ?_, ?_⟩
  · decide +kernel
  · rw [isUnknown_iff]
    decide +kernel
  · decide +kernel

end CacheSession

end PolygonRenderer
