import PolygonRenderer.Proofs.Graphics.Observed
import PolygonRenderer.Proofs.ModelCache.Session

/-!
# Accounting of the vertex buffer

The models of a cache lie in its vertex buffer one behind the other, and the
cursor stands behind the last one, or behind what is staged for the next one
(`ModelCache.IsAccounted`). No limit is ever exceeded.

The cursor is moved by every polygon, set back when a model is abandoned and
left where it is when a model enters. What keeps the account is that the current
handle remembers where the models end (`ModelCache.IsCurrent`), so the main
statement is about runs in which every call is made with the current handle.
-/

namespace PolygonRenderer

namespace CachedModel

/-- The number of vertices of both passes. -/
def vertexCount (m : CachedModel) : Nat :=
  m.ranges.solid.count + m.ranges.blended.count

end CachedModel

namespace ModelCache

/-- The number of vertices of all models. -/
def totalCount : List CachedModel → Nat
  | [] => 0
  | m :: ms => m.vertexCount + totalCount ms

/-- From `first` on, the models lie one behind the other, and so do the two
ranges of each. -/
def Tiles : Nat → List CachedModel → Prop
  | _, [] => True
  | first, m :: ms => m.ranges.solid.first = first ∧
      m.ranges.blended.first = first + m.ranges.solid.count ∧ Tiles (first + m.vertexCount) ms

theorem totalCount_append (ms ms' : List CachedModel) :
    totalCount (ms ++ ms') = totalCount ms + totalCount ms' := by
  induction ms with
  | nil => simp [totalCount]
  | cons m ms ih => rw [List.cons_append, totalCount, totalCount, ih, Nat.add_assoc]

theorem tiles_append_singleton (first : Nat) (ms : List CachedModel) (m : CachedModel) :
    Tiles first (ms ++ [m]) ↔ Tiles first ms ∧
      m.ranges.solid.first = first + totalCount ms ∧
      m.ranges.blended.first = first + totalCount ms + m.ranges.solid.count := by
  induction ms generalizing first with
  | nil => simp [Tiles, totalCount]
  | cons m' ms ih => rw [List.cons_append, Tiles, Tiles, ih, totalCount, ← Nat.add_assoc, and_assoc,
      and_assoc]

/-- A model ends where the next one starts, and so not behind the last one. -/
theorem Tiles.range_le {first : Nat} {ms : List CachedModel} (h : Tiles first ms)
    {m : CachedModel} (hm : m ∈ ms) (p : Pass) :
    (m.ranges.get p).first + (m.ranges.get p).count ≤ first + totalCount ms := by
  induction ms generalizing first with
  | nil => cases hm
  | cons m' ms ih =>
      obtain ⟨hsolid, hblended, htail⟩ := h
      rw [totalCount]
      rcases List.mem_cons.1 hm with rfl | hm
      · unfold CachedModel.vertexCount
        cases p <;> simp only [PerPass.get] <;> omega
      · have hle := ih htail hm
        omega

/-- How many vertices are staged for a model that has not entered yet. -/
def pendingCount (c : ModelCache) : Nat :=
  if c.staging.slot.isSome then c.stagedCount .solid + c.stagedCount .blended else 0

/-- The vertex buffer is used without gaps from its start, and no limit is
exceeded. -/
structure IsAccounted (c : ModelCache) : Prop where
  tiles : Tiles 0 c.models.toList
  cursor : c.cursor = totalCount c.models.toList + c.pendingCount
  cursor_le : c.cursor ≤ c.bufferCapacity
  staged_le : ∀ p, c.stagedCount p ≤ c.stagingCapacity
  models_le : c.models.size ≤ c.maxModels

/-- The handle of the model that is being staged, if there is one. It knows the
number of the model and where the models before it end. -/
inductive IsCurrent (c : ModelCache) : Option StagingHandle → Prop
  | idle (hslot : c.staging.slot = none) : IsCurrent c none
  | staging (hslot : c.staging.slot = some c.models.size) (hroom : c.models.size < c.maxModels) :
      IsCurrent c (some ⟨c.models.size, totalCount c.models.toList⟩)

/-- The account holds, and a handle is current. -/
structure Accounts (handle : Option StagingHandle) (c : ModelCache) : Prop where
  accounted : c.IsAccounted
  current : c.IsCurrent handle

namespace Accounts

variable {c c' : ModelCache} {handle : Option StagingHandle}

theorem cursor_eq_of_idle (h : Accounts none c) : c.cursor = totalCount c.models.toList := by
  cases h.current with
  | idle hslot => rw [h.accounted.cursor, pendingCount, hslot, Option.isSome_none, if_neg (by simp),
      Nat.add_zero]

theorem empty (limits : CacheLimits) (source : ModelSource) (buffer : BufferHandle)
    (capacity : Nat) : Accounts none (empty limits source buffer capacity) where
  accounted :=
    { tiles := trivial
      cursor := rfl
      cursor_le := Nat.zero_le _
      staged_le p := by cases p <;> exact Nat.zero_le _
      models_le := Nat.zero_le _ }
  current := .idle rfl

/-- The display list does not count. -/
theorem of_displayList (h : Accounts handle c) (l : DisplayList) :
    Accounts handle { c with displayList := l } where
  accounted := ⟨h.accounted.tiles, h.accounted.cursor, h.accounted.cursor_le,
    h.accounted.staged_le, h.accounted.models_le⟩
  current := by
    cases h.current with
    | idle hslot => exact .idle hslot
    | staging hslot hroom => exact .staging hslot hroom

theorem begun (h : Accounts none c) (hroom : c.models.size < c.maxModels) :
    Accounts (some ⟨c.models.size, c.cursor⟩) c.begun where
  accounted :=
    { tiles := h.accounted.tiles
      cursor := h.cursor_eq_of_idle
      cursor_le := h.accounted.cursor_le
      staged_le p := by cases p <;> exact Nat.zero_le _
      models_le := h.accounted.models_le }
  current := by
    rw [h.cursor_eq_of_idle]
    exact .staging rfl hroom

/-- What is staged moves the cursor. -/
theorem of_stagesOn {current : StagingHandle} {new : Pass → List BufferVertex}
    (h : Accounts (some current) c) (hstages : c.StagesOn c' new) :
    Accounts (some current) c' := by
  have hmodels := hstages.models_eq
  have hmax := hstages.maxModels_eq
  cases h.current with
  | staging hslot hroom =>
      have hslot' : c'.staging.slot = some c'.models.size := by rw [hstages.slot, hslot, hmodels]
      refine ⟨⟨?_, ?_, ?_, ?_, ?_⟩, ?_⟩
      · rw [hmodels]
        exact h.accounted.tiles
      · have hcursor := h.accounted.cursor
        rw [pendingCount, hslot, Option.isSome_some, if_pos rfl] at hcursor
        rw [pendingCount, hslot', Option.isSome_some, if_pos rfl, hstages.cursor,
          hstages.stagedCount_eq, hstages.stagedCount_eq, hmodels]
        omega
      · rw [hstages.bufferCapacity_eq]
        -- room is checked only where vertices are staged; an empty polygon leaves the cursor
        by_cases hsome : ∃ p, new p ≠ []
        · obtain ⟨p, hp⟩ := hsome
          exact Nat.le_of_lt (hstages.fitsBuffer p hp)
        · have hnil : ∀ p, new p = [] := fun p => Classical.not_not.1 fun hp => hsome ⟨p, hp⟩
          have hle := h.accounted.cursor_le
          rw [hstages.cursor, hnil, hnil]
          exact hle
      · intro p
        rw [hstages.stagingCapacity_eq]
        by_cases hnil : new p = []
        · rw [hstages.stagedCount_eq, hnil]
          exact h.accounted.staged_le p
        · exact Nat.le_of_lt (hstages.fitsStaging p hnil)
      · rw [hmodels, hmax]
        exact h.accounted.models_le
      · rw [← hmodels]
        exact .staging hslot' (by rw [hmodels, hmax]; exact hroom)

/-- Dropping the staged model takes the cursor back to where the models end. -/
theorem abandon {current : StagingHandle} (h : Accounts (some current) c) :
    Accounts none (c.abandon current) := by
  cases h.current with
  | staging hslot hroom =>
      have hle := h.accounted.cursor_le
      rw [h.accounted.cursor] at hle
      rw [ModelCache.abandon, if_pos (accepts_iff.2 hslot)]
      exact
        { accounted :=
            { tiles := h.accounted.tiles
              cursor := rfl
              cursor_le := Nat.le_trans (Nat.le_add_right _ _) hle
              staged_le := fun p => by cases p <;> exact Nat.zero_le _
              models_le := h.accounted.models_le }
          current := .idle rfl }

/-- The staged model enters right behind the models that are there. -/
theorem commit {current : StagingHandle} (h : Accounts (some current) c) (index : UInt32)
    (offset : UInt16) : Accounts none (c.commit current index offset) := by
  have hcursor := h.accounted.cursor
  cases h.current with
  | staging hslot hroom =>
      rw [pendingCount, hslot, Option.isSome_some, if_pos rfl] at hcursor
      refine ⟨⟨?_, ?_, h.accounted.cursor_le, h.accounted.staged_le, ?_⟩, .idle rfl⟩
      · simp only [ModelCache.commit, Array.toList_push]
        rw [tiles_append_singleton]
        simp [h.accounted.tiles, stagedRanges]
      · simp only [ModelCache.commit, Array.toList_push, pendingCount, totalCount_append,
          totalCount, CachedModel.vertexCount, stagedRanges, Option.isSome_none]
        simpa using hcursor
      · simp only [ModelCache.commit, Array.size_push]
        exact hroom

theorem cleared (c : ModelCache) : Accounts none c.cleared where
  accounted :=
    { tiles := trivial
      cursor := rfl
      cursor_le := Nat.zero_le _
      staged_le p := by cases p <;> exact Nat.zero_le _
      models_le := Nat.zero_le _ }
  current := .idle rfl

theorem eq_none_of_slot (h : Accounts handle c) (hslot : c.staging.slot = none) :
    handle = none := by
  cases h.current with
  | idle => rfl
  | staging hslot' => rw [hslot] at hslot'; cases hslot'

theorem slot_eq (h : Accounts handle c) {k : Nat} (hk : c.staging.slot = some k) :
    k = c.models.size := by
  cases h.current with
  | idle hslot => rw [hslot] at hk; cases hk
  | staging hslot => rw [hslot] at hk; cases hk; rfl

theorem accepts {current : StagingHandle} (h : Accounts (some current) c) :
    c.accepts current = true := by
  cases h.current with
  | staging hslot => exact accepts_iff.2 hslot

/-- A whole model is cached with a handle of its own, which is not current any
more afterwards. -/
theorem commit_of_begun {new : Pass → List BufferVertex} (h : Accounts handle c)
    (hslot : c.staging.slot = none) (hroom : c.models.size < c.maxModels)
    (hstages : c.begun.StagesOn c' new) (index : UInt32) (offset : UInt16) :
    Accounts handle (c'.commit ⟨c.models.size, c.cursor⟩ index offset) := by
  cases h.eq_none_of_slot hslot
  exact ((h.begun hroom).of_stagesOn hstages).commit index offset

theorem abandon_of_begun {new : Pass → List BufferVertex} (h : Accounts handle c)
    (hslot : c.staging.slot = none) (hroom : c.models.size < c.maxModels)
    (hstages : c.begun.StagesOn c' new) :
    Accounts handle (c'.abandon ⟨c.models.size, c.cursor⟩) := by
  cases h.eq_none_of_slot hslot
  exact ((h.begun hroom).of_stagesOn hstages).abandon

theorem cacheModel {β τ : Type} [Backend β] [TextureManager τ] (h : Accounts handle c)
    (host : Host β τ) (ctx : DecodeContext) (index : UInt32) (offset : UInt16)
    (words : List UInt32) :
    Accounts handle (c.cacheModel host ctx index offset words).value.2.1 := by
  rcases cacheModel_cases c host ctx index offset words with
    ⟨e, he⟩ | ⟨c', textures, ps, -, hslot, hroom, hstages, ⟨e, he⟩ | ⟨-, -, hok⟩⟩
  · rw [he]
    exact h
  · rw [he]
    exact h.abandon_of_begun hslot hroom hstages
  · rw [hok]
    exact h.commit_of_begun hslot hroom hstages index offset

end Accounts

end ModelCache

namespace CacheHistory

variable {β τ : Type} [Backend β] [TextureManager τ]

theorem accounts_step {k : CacheHistory} {s s' : CacheSession β τ} {call : CacheCall β τ}
    {answer : CacheAnswer} (hsteps : s.Steps call answer s')
    (h : ModelCache.Accounts k.handle s.cache)
    (hcall : ∀ handle, call.handle? = some handle → k.handle = some handle) :
    ModelCache.Accounts (k.note call answer).handle s'.cache := by
  cases hsteps with
  | refused hended =>
      rw [note_failed]
      · exact h
      · rintro handle index offset rfl
        rw [hcall handle rfl] at h
        have haccepts := h.accepts
        rw [hended handle index offset rfl] at haccepts
        cases haccepts
  | begun hslot hroom =>
      rw [h.eq_none_of_slot hslot] at h
      exact h.begun hroom
  | inserted _ hstages | requested _ _ hstages =>
      have hhandle := hcall _ rfl
      rw [hhandle] at h
      have hstaged := h.of_stagesOn hstages
      rw [← hhandle] at hstaged
      exact hstaged
  | ended =>
      rw [hcall _ rfl] at h
      exact h.commit _ _
  | dropped | abandoned =>
      rw [hcall _ rfl] at h
      exact h.abandon
  | cached hslot hroom _ hstages => exact h.commit_of_begun hslot hroom hstages _ _
  | uncached hslot hroom _ hstages => exact h.abandon_of_begun hslot hroom hstages
  | appendedModel | appendedViewport | clearedDisplayList => exact h.of_displayList _
  | cleared => exact .cleared s.cache
  | elsewhere => exact h

theorem accounts_run {k : CacheHistory} {s : CacheSession β τ}
    (h : ModelCache.Accounts k.handle s.cache) {calls : List (CacheCall β τ)}
    (hcalls : k.IsFollowed s calls) :
    ModelCache.Accounts (k.after s calls).handle (s.run calls).cache := by
  induction calls generalizing k s with
  | nil => exact h
  | cons call calls ih => exact ih (accounts_step (s.steps call) h hcalls.1) hcalls.2

end CacheHistory

namespace ModelCache

variable {β : Type} [Backend β]

/-- The upload of one pass of a model, unless it has no vertices in that pass. -/
def uploadCalls (buffer : BufferHandle) (range : VertexRange) : List Call :=
  if range.count = 0 then []
  else [.upload buffer (BufferVertex.byteCount * range.first) (BufferVertex.byteCount * range.count)]

theorem calls_uploadPass (c : ModelCache) (h : StagingHandle) (b : Observed β) (p : Pass) :
    (c.uploadPass h b p).value.calls =
      b.calls ++ uploadCalls c.buffer ((c.stagedRanges h).get p) := by
  unfold uploadPass uploadCalls
  dsimp only
  split
  · exact (List.append_nil _).symm
  · rw [Observed.calls_upload]
    cases p <;> simp [stagedRanges, PerPass.get, stagedCount]

theorem calls_uploaded (c : ModelCache) (h : StagingHandle) (b : Observed β) :
    (c.uploaded h b).calls = b.calls ++ Pass.all.flatMap fun p =>
      uploadCalls c.buffer ((c.stagedRanges h).get p) := by
  have huploaded : c.uploaded h b =
      (c.uploadPass h (c.uploadPass h b .solid).value .blended).value := rfl
  rw [huploaded, calls_uploadPass, calls_uploadPass, List.append_assoc]
  simp [Pass.all]

/-- The call uploads one pass of a model to its place in the vertex buffer, all of
which lies inside the buffer. -/
def IsUploadOf (c : ModelCache) (m : CachedModel) (call : Call) : Prop :=
  ∃ p, call = .upload c.buffer (BufferVertex.byteCount * (m.ranges.get p).first)
      (BufferVertex.byteCount * (m.ranges.get p).count) ∧
    (m.ranges.get p).first + (m.ranges.get p).count ≤ c.bufferCapacity

/-- No model reaches beyond the cursor. -/
theorem IsAccounted.range_le {c : ModelCache} (h : c.IsAccounted) {m : CachedModel}
    (hm : m ∈ c.models) (p : Pass) :
    (m.ranges.get p).first + (m.ranges.get p).count ≤ c.cursor := by
  have hend := h.tiles.range_le (Array.mem_toList_iff.2 hm) p
  have hcursor := h.cursor
  omega

/-- What lasts as long as the cache: the vertex buffer with its size, and how much
may be staged and cached. -/
def stores (c : ModelCache) : BufferHandle × Nat × Nat × Nat :=
  (c.buffer, c.bufferCapacity, c.stagingCapacity, c.maxModels)

theorem StagesOn.stores_eq {c c' : ModelCache} {new : Pass → List BufferVertex}
    (h : c.StagesOn c' new) : c'.stores = c.stores := by
  rw [h.eq]
  rfl

theorem stores_abandon (c : ModelCache) (h : StagingHandle) :
    (c.abandon h).stores = c.stores := by
  unfold abandon
  split <;> rfl

end ModelCache

namespace CacheSession

variable {β τ : Type} [Backend β] [TextureManager τ]

theorem stores_step {s s' : CacheSession β τ} {call : CacheCall β τ} {answer : CacheAnswer}
    (hsteps : s.Steps call answer s') : s'.cache.stores = s.cache.stores := by
  cases hsteps with
  | inserted _ hstages | requested _ _ hstages => exact hstages.stores_eq
  | dropped | abandoned => exact ModelCache.stores_abandon s.cache _
  | cached _ _ _ hstages => exact hstages.stores_eq
  | uncached _ _ _ hstages => exact (ModelCache.stores_abandon _ _).trans hstages.stores_eq
  | refused | begun | ended | appendedModel | appendedViewport | clearedDisplayList | cleared
  | elsewhere => rfl

theorem stores_run (s : CacheSession β τ) (calls : List (CacheCall β τ)) :
    (s.run calls).cache.stores = s.cache.stores := by
  induction calls generalizing s with
  | nil => rfl
  | cons call calls ih => rw [run_cons, ih, stores_step (s.steps call)]

/-- The model that enters is uploaded to its place, and nowhere else. -/
theorem isUploadOf_commit {c : ModelCache} {handle : StagingHandle} {index : UInt32}
    {offset : UInt16} (haccounted : (c.commit handle index offset).IsAccounted)
    (hslot : handle.slot = c.models.size) (b : Observed β) :
    ∃ uploads, (c.uploaded handle b).calls = b.calls ++ uploads ∧
      ∀ upload ∈ uploads, ∃ m, (c.commit handle index offset).model? ⟨handle.slot⟩ = some m ∧
        (c.commit handle index offset).IsUploadOf m upload := by
  have hm : (c.commit handle index offset).model? ⟨handle.slot⟩ =
      some ⟨c.stagedRanges handle, c.staging.textures, index, offset, c.lut.get? index⟩ := by
    rw [ModelCache.model?, hslot]
    exact Array.getElem?_push_size
  refine ⟨_, ModelCache.calls_uploaded c handle b, ?_⟩
  intro upload hmem
  obtain ⟨p, -, hmem⟩ := List.mem_flatMap.1 hmem
  have hrange := haccounted.range_le (Array.mem_of_getElem? hm) p
  refine ⟨_, hm, p, ?_, Nat.le_trans hrange haccounted.cursor_le⟩
  unfold ModelCache.uploadCalls at hmem
  split at hmem
  · cases hmem
  · exact List.mem_singleton.1 hmem

/-- Each call of a cache asks the backend for nothing but the uploads of the model
that it answers. -/
theorem uploads_step {s s' : CacheSession (Observed β) τ} {k : CacheHistory}
    {call : CacheCall (Observed β) τ} {answer : CacheAnswer} (hsteps : s.Steps call answer s')
    (h : ModelCache.Accounts k.handle s.cache)
    (hhandle : ∀ handle, call.handle? = some handle → k.handle = some handle)
    (hcall : ∀ host, call ≠ .elsewhere host) :
    ∃ uploads, s'.host.backend.calls = s.host.backend.calls ++ uploads ∧
      ∀ upload ∈ uploads, ∃ id m, answer = .cached id ∧ s'.cache.model? id = some m ∧
        s'.cache.IsUploadOf m upload := by
  have haccounted := (CacheHistory.accounts_step hsteps h hhandle).accounted
  cases hsteps with
  | ended haccepts =>
      have hslot := h.slot_eq (ModelCache.accepts_iff.1 haccepts)
      obtain ⟨uploads, hcalls, hall⟩ := isUploadOf_commit haccounted hslot s.host.backend
      refine ⟨uploads, hcalls, ?_⟩
      intro upload hmem
      obtain ⟨m, hm, hupload⟩ := hall upload hmem
      exact ⟨_, m, rfl, hm, hupload⟩
  | cached _ _ _ hstages =>
      have hslot := congrArg (·.models.size) hstages.eq.symm
      obtain ⟨uploads, hcalls, hall⟩ := isUploadOf_commit haccounted hslot s.host.backend
      refine ⟨uploads, hcalls, ?_⟩
      intro upload hmem
      obtain ⟨m, hm, hupload⟩ := hall upload hmem
      exact ⟨_, m, rfl, hm, hupload⟩
  | elsewhere => exact absurd rfl (hcall _)
  | refused | begun | inserted | requested | dropped | abandoned | uncached | appendedModel
  | appendedViewport | clearedDisplayList | cleared =>
      exact ⟨[], (List.append_nil _).symm, fun _ hmem => nomatch hmem⟩

/-- After any calls that are made with the current handle, the vertex buffer is
used without gaps and no limit is exceeded. The buffer is the one that was
allocated at the start, and the next call writes to it only where the model goes
that it answers. -/
theorem isAccounted_run {limits : CacheLimits} {source : ModelSource} {b b' : Observed β}
    {c : ModelCache} (hcreate : (ModelCache.create limits source b).value = (.ok c, b'))
    {textures : τ} {calls : List (CacheCall (Observed β) τ)}
    (hfollowed : CacheHistory.start.IsFollowed ⟨c, ⟨b', textures⟩⟩ calls) :
    let s := (CacheSession.mk c ⟨b', textures⟩).run calls
    let k := CacheHistory.start.after (CacheSession.mk c ⟨b', textures⟩) calls
    s.cache.IsAccounted ∧ s.cache.stagingCapacity = limits.stagingVertices ∧
      s.cache.maxModels = limits.maxModels ∧
      (∃ b₁, Backend.allocate b₁ (BufferVertex.byteCount * s.cache.bufferCapacity)
        (ModelCache.bufferUsage source) = (.ok s.cache.buffer, b')) ∧
      ∀ call, (∀ handle, call.handle? = some handle → k.handle = some handle) →
        (∀ host, call ≠ .elsewhere host) →
        ∃ uploads, (s.step call).2.host.backend.calls = s.host.backend.calls ++ uploads ∧
          ∀ upload ∈ uploads, ∃ id m, (s.step call).1 = .cached id ∧
            (s.step call).2.cache.model? id = some m ∧
            (s.step call).2.cache.IsUploadOf m upload := by
  intro s k
  obtain ⟨b₁, buffer, capacity, -, rfl, hallocate⟩ := ModelCache.create_ok hcreate
  have haccounts : ModelCache.Accounts k.handle s.cache :=
    CacheHistory.accounts_run (ModelCache.Accounts.empty limits source buffer capacity) hfollowed
  have hstores : s.cache.stores = (buffer, capacity, limits.stagingVertices, limits.maxModels) :=
    stores_run ⟨ModelCache.empty limits source buffer capacity, ⟨b', textures⟩⟩ calls
  simp only [ModelCache.stores, Prod.mk.injEq] at hstores
  obtain ⟨hbuffer, hcapacity, hstaging, hmodels⟩ := hstores
  refine ⟨haccounts.accounted, hstaging, hmodels, ?_, ?_⟩
  · rw [hbuffer, hcapacity]
    exact ⟨b₁, hallocate⟩
  · intro call hhandle hcall
    exact uploads_step (s.steps call) haccounts hhandle hcall

/-- A triangle enters a small cache; then the cache is cleared, and the next model
is abandoned. -/
theorem isAccounted_after_clear :
    let p : Polygon Float32 := ⟨⟨0, 0, 0, 0, 0, 0, 0x80⟩, .zero, 3, 0, .solid⟩
    let ctx : DecodeContext := ⟨1, -1, 0, 0, #[], .unlessWord4, .origin⟩
    let limits : CacheLimits := ⟨64, 32, 4, 16, 8⟩
    let b : Observed Recorder := ⟨.empty none, []⟩
    let calls : List (CacheCall (Observed Recorder) TextureLog) :=
      [.beginModel, .insertPolygon ⟨0, 0⟩ p ctx, .endModel ⟨0, 0⟩ 3 0x10, .clear, .beginModel,
        .abandon ⟨0, 0⟩]
    ∃ c b', (ModelCache.create limits .static b).value = (.ok c, b') ∧
      CacheHistory.start.IsFollowed ⟨c, ⟨b', .empty 16 .origin⟩⟩ calls ∧
      ((CacheSession.mk c ⟨b', TextureLog.empty 16 .origin⟩).run calls).cache.IsAccounted := by
  intro p ctx limits b calls
  have hcreate : (ModelCache.create limits .static b).value = (.ok _, _) :=
    ModelCache.create_of_granted rfl
  refine ⟨_, _, hcreate, ?hfollowed, (isAccounted_run hcreate ?hfollowed).1⟩
  refine ⟨?_, ?_, ?_, ?_, ?_, ?_, trivial⟩ <;> rintro handle ⟨⟩ <;> rfl

end CacheSession

end PolygonRenderer
