import PolygonRenderer.Graphics.Recorder
import PolygonRenderer.Proofs.ModelCache.Session

/-!
# Chains of variants

A look-up starts at the entry of the lookup table and walks from variant to
variant. `ModelCache.Walk` is that walk without a bound on its length: each
model on it has to be in the array.

The walk finds its end because each model names the newest of those before it
with the same index (`ModelCache.IsLinked`), whatever handles are used. The main
statement is that a look-up answers the newest model that has entered the cache
under its key since the last clear, as told from the answers alone.
-/

namespace PolygonRenderer

namespace ModelCache

/-- The newest of the first `n` models that is accepted. -/
def newest (accept : CachedModel → Bool) (models : Array CachedModel) : Nat → Option ModelId
  | 0 => none
  | n + 1 => if (models[n]?).any accept then some ⟨n⟩ else newest accept models n

section Newest

variable {accept : CachedModel → Bool} {models : Array CachedModel}

theorem newest_succ_of_getElem? {n : Nat} {m : CachedModel} (h : models[n]? = some m) :
    newest accept models (n + 1) =
      if accept m = true then some ⟨n⟩ else newest accept models n := by
  rw [newest, h, Option.any_some]

/-- Models that come later do not count. -/
theorem newest_push_of_le {n : Nat} (m : CachedModel) (h : n ≤ models.size) :
    newest accept (models.push m) n = newest accept models n := by
  induction n with
  | zero => rfl
  | succ n ih =>
      have hn : (models.push m)[n]? = models[n]? := by
        rw [Array.getElem?_push, if_neg (by omega)]
      rw [newest, newest, hn, ih (by omega)]

theorem newest_push (m : CachedModel) :
    newest accept (models.push m) (models.push m).size =
      if accept m = true then some ⟨models.size⟩ else newest accept models models.size := by
  have hm : (models.push m)[models.size]? = some m := Array.getElem?_push_size
  rw [Array.size_push, newest_succ_of_getElem? hm, newest_push_of_le m (Nat.le_refl _)]

theorem exists_of_newest {n : Nat} {id : ModelId} (h : newest accept models n = some id) :
    id.index < n ∧ ∃ m, models[id.index]? = some m ∧ accept m = true := by
  induction n with
  | zero => cases h
  | succ n ih =>
      rw [newest] at h
      split at h
      · rename_i hany
        cases h
        obtain ⟨m, hm, haccept⟩ := (Option.any_eq_true _ _).1 hany
        exact ⟨Nat.lt_succ_self n, m, hm, haccept⟩
      · obtain ⟨hlt, hm⟩ := ih h
        exact ⟨by omega, hm⟩

theorem newest_eq_none {n : Nat} (h : ∀ m ∈ models, accept m = false) :
    newest accept models n = none := by
  cases hnewest : newest accept models n with
  | none => rfl
  | some id =>
      obtain ⟨-, m, hm, haccept⟩ := exists_of_newest hnewest
      rw [h m (Array.mem_of_getElem? hm)] at haccept
      cases haccept

end Newest

/-- Whether a model has an index. -/
def hasIndex (index : UInt32) (m : CachedModel) : Bool :=
  m.lutIndex == index

/-- Whether a model has an index and a texture offset. -/
def hasKey (index : UInt32) (offset : UInt16) (m : CachedModel) : Bool :=
  hasIndex index m && m.textureOffset == offset

/-- The walk of a look-up from a model on, and where it ends. It takes no step to
a model outside the array. -/
inductive Walk (models : Array CachedModel) (offset : UInt16) :
    Option ModelId → Option ModelId → Prop
  | off : Walk models offset none none
  | found {id : ModelId} {m : CachedModel} (h : models[id.index]? = some m)
      (ho : m.textureOffset = offset) : Walk models offset (some id) (some id)
  | onward {id : ModelId} {m : CachedModel} {answer : Option ModelId}
      (h : models[id.index]? = some m) (ho : m.textureOffset ≠ offset)
      (tail : Walk models offset m.nextVariant answer) : Walk models offset (some id) answer

/-- The table names the newest model of each index, and each model names the
newest one of its index before it. -/
structure IsLinked (c : ModelCache) : Prop where
  slot : ∀ k, c.staging.slot = some k → k = c.models.size
  head : ∀ index, c.lut.get? index = newest (hasIndex index) c.models c.models.size
  next : ∀ k m, c.models[k]? = some m →
    m.nextVariant = newest (hasIndex m.lutIndex) c.models k

namespace IsLinked

variable {c : ModelCache}

/-- Below `n`, the walk from the newest model of an index ends at the newest one
that has the offset as well. -/
theorem walk (h : c.IsLinked) (index : UInt32) (offset : UInt16) {n : Nat}
    (hn : n ≤ c.models.size) :
    Walk c.models offset (newest (hasIndex index) c.models n)
      (newest (hasKey index offset) c.models n) := by
  induction n with
  | zero => exact .off
  | succ n ih =>
      have hm : c.models[n]? = some c.models[n] := Array.getElem?_eq_getElem hn
      have ih := ih (by omega)
      rw [newest_succ_of_getElem? hm, newest_succ_of_getElem? hm]
      by_cases hindex : c.models[n].lutIndex = index
      · by_cases hoffset : c.models[n].textureOffset = offset
        · simp only [hasKey, hasIndex, hindex, hoffset, beq_self_eq_true, Bool.and_self, if_true]
          exact .found hm hoffset
        · -- the link of model `n` is the newest one below `n`, so the rest is the walk below `n`
          have hnext := h.next n _ hm
          rw [hindex] at hnext
          rw [← hnext] at ih
          simp only [hasKey, hasIndex, hindex, hoffset, beq_self_eq_true, beq_iff_eq, Bool.true_and,
            if_true, if_false]
          exact .onward hm hoffset ih
      · simp only [hasKey, hasIndex, hindex, beq_iff_eq, Bool.and_eq_true, false_and, if_false]
        exact ih

/-- There is a step for each model, which is enough for any walk. -/
theorem findVariant_eq (h : c.IsLinked) (index : UInt32) (offset : UInt16) {n fuel : Nat}
    (hn : n ≤ c.models.size) (hfuel : n ≤ fuel) :
    findVariant c.models offset fuel (newest (hasIndex index) c.models n) =
      newest (hasKey index offset) c.models n := by
  induction n generalizing fuel with
  | zero => cases fuel <;> rfl
  | succ n ih =>
      have hm : c.models[n]? = some c.models[n] := Array.getElem?_eq_getElem hn
      rw [newest_succ_of_getElem? hm, newest_succ_of_getElem? hm]
      by_cases hindex : c.models[n].lutIndex = index
      · -- only models of the index take a step, so the bound never runs out before `n`
        obtain ⟨fuel, rfl⟩ : ∃ k, fuel = k + 1 := ⟨fuel - 1, by omega⟩
        have hnext := h.next n _ hm
        rw [hindex] at hnext
        have ih := @ih fuel (by omega) (by omega)
        simp only [hasKey, hasIndex, hindex, beq_self_eq_true, if_true, Bool.true_and, beq_iff_eq,
          findVariant, hm, hnext, ih]
      · simp only [hasKey, hasIndex, hindex, beq_iff_eq, Bool.and_eq_true, false_and, if_false]
        exact ih (by omega) (by omega)

theorem lookUp_eq (h : c.IsLinked) (index : UInt32) (offset : UInt16) :
    c.lookUp index offset = newest (hasKey index offset) c.models c.models.size := by
  rw [lookUp, h.head, h.findVariant_eq index offset (Nat.le_refl _) (Nat.le_refl _)]

theorem lookUp_of_isEmpty (h : c.IsLinked) (hmodels : c.models = #[]) (index : UInt32)
    (offset : UInt16) : c.lookUp index offset = none := by
  rw [h.lookUp_eq, hmodels]
  rfl

theorem walk_lookUp (h : c.IsLinked) (index : UInt32) (offset : UInt16) :
    Walk c.models offset (c.lut.get? index) (c.lookUp index offset) := by
  rw [h.head, h.lookUp_eq]
  exact h.walk index offset (Nat.le_refl _)

/-- A model that is found is in the array, under its key. -/
theorem exists_of_lookUp (h : c.IsLinked) {index : UInt32} {offset : UInt16} {id : ModelId}
    (hid : c.lookUp index offset = some id) :
    ∃ m, c.model? id = some m ∧ m.lutIndex = index ∧ m.textureOffset = offset := by
  rw [h.lookUp_eq] at hid
  obtain ⟨-, m, hm, hkey⟩ := exists_of_newest hid
  rw [hasKey, hasIndex, Bool.and_eq_true, beq_iff_eq, beq_iff_eq] at hkey
  exact ⟨m, hm, hkey⟩

/-- Only the models, the table and the slot count. -/
theorem of_eq {c' : ModelCache} (h : c.IsLinked) (hmodels : c'.models = c.models)
    (hlut : c'.lut = c.lut) (hslot : c'.staging.slot = none ∨ c'.staging.slot = c.staging.slot) :
    c'.IsLinked where
  slot k hk := by
    rw [hmodels]
    rcases hslot with hnone | hsame
    · rw [hnone] at hk
      cases hk
    · exact h.slot k (hsame ▸ hk)
  head index := by
    rw [hlut, hmodels]
    exact h.head index
  next k m hm := by
    rw [hmodels] at hm ⊢
    exact h.next k m hm

theorem begun (h : c.IsLinked) : c.begun.IsLinked where
  slot _ hk := (Option.some.inj hk).symm
  head := h.head
  next := h.next

theorem of_stagesOn {c' : ModelCache} {new : Pass → List BufferVertex} (h : c.IsLinked)
    (hstages : c.StagesOn c' new) : c'.IsLinked := by
  rw [hstages.eq]
  exact h.of_eq rfl rfl (.inr hstages.slot)

theorem abandon (h : c.IsLinked) (handle : StagingHandle) : (c.abandon handle).IsLinked := by
  unfold ModelCache.abandon
  split
  · exact h.of_eq rfl rfl (.inl rfl)
  · exact h

/-- A model that enters becomes the newest one of its index, and names the one
that was. -/
theorem commit (h : c.IsLinked) {handle : StagingHandle} {index : UInt32} (offset : UInt16)
    (haccepts : c.accepts handle = true) (hindex : index.toNat < c.lut.size) :
    (c.commit handle index offset).IsLinked where
  slot _ hk := by cases hk
  head j := by
    have hslot := h.slot _ (accepts_iff.1 haccepts)
    simp only [ModelCache.commit, LookupTable.get?_set, newest_push, hindex, true_and, hslot,
      hasIndex, beq_iff_eq]
    rw [h.head]
    by_cases hj : j = index
    · rw [if_pos hj, if_pos hj.symm]
    · rw [if_neg hj, if_neg (Ne.symm hj)]
  next k m hm := by
    simp only [ModelCache.commit] at hm ⊢
    rcases Nat.lt_trichotomy k c.models.size with hk | hk | hk
    · rw [Array.getElem?_push_lt hk] at hm
      rw [newest_push_of_le _ (Nat.le_of_lt hk)]
      exact h.next k m ((Array.getElem?_eq_getElem hk).trans hm)
    · subst hk
      rw [Array.getElem?_push_size] at hm
      cases hm
      rw [newest_push_of_le _ (Nat.le_refl _)]
      exact h.head index
    · rw [Array.getElem?_eq_none (by rw [Array.size_push]; exact hk)] at hm
      cases hm

end IsLinked

theorem get?_foldl_erase (models : List CachedModel) (lut : LookupTable ModelId) (j : UInt32) :
    (models.foldl (fun lut m => lut.erase m.lutIndex) lut).get? j =
      if ∃ m ∈ models, m.lutIndex = j then none else lut.get? j := by
  induction models generalizing lut with
  | nil => simp
  | cons m models ih =>
      rw [List.foldl_cons, ih, LookupTable.get?_erase]
      by_cases htail : ∃ m ∈ models, m.lutIndex = j
      · rw [if_pos htail, if_pos]
        obtain ⟨m', hm', hj⟩ := htail
        exact ⟨m', List.mem_cons_of_mem m hm', hj⟩
      · rw [if_neg htail]
        by_cases hj : j = m.lutIndex
        · rw [if_pos hj, if_pos ⟨m, List.mem_cons_self, hj.symm⟩]
        · rw [if_neg hj, if_neg]
          rintro ⟨m', hm', hj'⟩
          rcases List.mem_cons.1 hm' with rfl | hm'
          · exact hj hj'.symm
          · exact htail ⟨m', hm', hj'⟩

theorem size_lut_cleared (c : ModelCache) : c.cleared.lut.size = c.lut.size := by
  rw [cleared, ← Array.foldl_toList]
  generalize c.models.toList = models
  generalize c.lut = lut
  induction models generalizing lut with
  | nil => rfl
  | cons m models ih => exact ih (lut.erase m.lutIndex)

/-- An entry that clearing does not erase belongs to no model, so it was absent
before. -/
theorem get?_lut_cleared {c : ModelCache} (h : c.IsLinked) (j : UInt32) :
    c.cleared.lut.get? j = none := by
  rw [cleared, ← Array.foldl_toList, get?_foldl_erase]
  split
  · rfl
  · rename_i hnone
    rw [h.head]
    apply newest_eq_none
    intro m hm
    rw [hasIndex, beq_eq_false_iff_ne]
    intro hj
    exact hnone ⟨m, Array.mem_toList_iff.2 hm, hj⟩

theorem IsLinked.cleared {c : ModelCache} (h : c.IsLinked) : c.cleared.IsLinked where
  slot _ hk := by cases hk
  head j := get?_lut_cleared h j
  next k m hm := by simp [ModelCache.cleared] at hm

theorem isLinked_empty (limits : CacheLimits) (source : ModelSource) (buffer : BufferHandle)
    (capacity : Nat) : (empty limits source buffer capacity).IsLinked where
  slot _ hk := by cases hk
  head j := LookupTable.get?_empty _ j
  next k m hm := by simp [empty] at hm

/-- The models with their numbers and keys, oldest first. -/
def entries (c : ModelCache) : List (ModelId × UInt32 × UInt16) :=
  c.models.toList.zipIdx.map fun (m, k) => (⟨k⟩, m.lutIndex, m.textureOffset)

theorem entries_commit (c : ModelCache) (h : StagingHandle) (index : UInt32) (offset : UInt16) :
    (c.commit h index offset).entries = c.entries ++ [(⟨c.models.size⟩, index, offset)] := by
  simp [entries, commit, List.zipIdx_append]

/-- The models of a cache are these, with their numbers and keys. -/
structure Tracks (committed : List (ModelId × UInt32 × UInt16)) (c : ModelCache) : Prop where
  linked : c.IsLinked
  entries : committed = c.entries

namespace Tracks

variable {committed : List (ModelId × UInt32 × UInt16)} {c c' : ModelCache}

theorem of_stagesOn {new : Pass → List BufferVertex} (h : Tracks committed c)
    (hstages : c.StagesOn c' new) : Tracks committed c' where
  linked := h.linked.of_stagesOn hstages
  entries := by
    rw [hstages.eq]
    exact h.entries

theorem abandon (h : Tracks committed c) (handle : StagingHandle) :
    Tracks committed (c.abandon handle) where
  linked := h.linked.abandon handle
  entries := by
    unfold ModelCache.abandon
    split <;> exact h.entries

/-- The model that enters has the number that is answered. -/
theorem commit (h : Tracks committed c) {handle : StagingHandle} {index : UInt32}
    (offset : UInt16) (haccepts : c.accepts handle = true) (hindex : index.toNat < c.lut.size) :
    Tracks (committed ++ [(⟨handle.slot⟩, index, offset)]) (c.commit handle index offset) where
  linked := h.linked.commit offset haccepts hindex
  entries := by
    rw [entries_commit, h.entries, h.linked.slot _ (accepts_iff.1 haccepts)]

theorem begun (h : Tracks committed c) : Tracks committed c.begun :=
  ⟨h.linked.begun, h.entries⟩

/-- A model that is cached as a whole has the number it was begun with. -/
theorem commit_of_begun {new : Pass → List BufferVertex} {index : UInt32}
    (h : Tracks committed c) (hstages : c.begun.StagesOn c' new)
    (hindex : index.toNat < c.lut.size) (offset : UInt16) :
    Tracks (committed ++ [(⟨c.models.size⟩, index, offset)])
      (c'.commit ⟨c.models.size, c.cursor⟩ index offset) := by
  have hlut : c'.lut = c.lut := hstages.lut_eq
  exact (h.begun.of_stagesOn hstages).commit offset hstages.accepts_of_begun (hlut ▸ hindex)

end Tracks

theorem IsLinked.cacheModel {β τ : Type} [Backend β] [TextureManager τ] {c : ModelCache}
    (h : c.IsLinked) (host : Host β τ) (ctx : DecodeContext) (index : UInt32) (offset : UInt16)
    (words : List UInt32) : (c.cacheModel host ctx index offset words).value.2.1.IsLinked := by
  rcases cacheModel_cases c host ctx index offset words with
    ⟨e, he⟩ | ⟨c', textures, ps, -, -, -, hstages, ⟨e, he⟩ | ⟨-, hindex, hok⟩⟩
  · rw [he]
    exact h
  · rw [he]
    exact (h.begun.of_stagesOn hstages).abandon _
  · have htracks : Tracks c.entries c := ⟨h, rfl⟩
    rw [hok]
    exact (htracks.commit_of_begun hstages hindex offset).linked

/-- Only the key of a model that enters is looked up with another answer. -/
theorem IsLinked.lookUp_cacheModel {β τ : Type} [Backend β] [TextureManager τ] {c : ModelCache}
    (h : c.IsLinked) (host : Host β τ) (ctx : DecodeContext) (index : UInt32) (offset : UInt16)
    (words : List UInt32) (i : UInt32) (o : UInt16) :
    match (c.cacheModel host ctx index offset words).value with
    | (.ok id, c', _) =>
      c'.lookUp i o = if (index, offset) = (i, o) then some id else c.lookUp i o
    | (.error _, c', _) => c'.lookUp i o = c.lookUp i o := by
  have hlinked := h.cacheModel host ctx index offset words
  rcases cacheModel_cases c host ctx index offset words with
    ⟨e, he⟩ | ⟨c', textures, ps, -, -, -, hstages, ⟨e, he⟩ | ⟨-, -, hok⟩⟩
  · rw [he]
  · rw [he] at hlinked ⊢
    have hmodels : (c'.abandon ⟨c.models.size, c.cursor⟩).models = c.models := by
      rw [ModelCache.abandon, if_pos hstages.accepts_of_begun]
      exact hstages.models_eq
    dsimp only
    rw [hlinked.lookUp_eq, h.lookUp_eq, hmodels]
  · rw [hok] at hlinked ⊢
    have hmodels : c'.models = c.models := hstages.models_eq
    dsimp only
    rw [hlinked.lookUp_eq, h.lookUp_eq, ModelCache.commit, newest_push, hmodels]
    simp only [hasKey, hasIndex, Bool.and_eq_true, beq_iff_eq, Prod.mk.injEq]

end ModelCache

namespace CacheHistory

variable {β τ : Type} [Backend β] [TextureManager τ]

theorem tracks_step {k : CacheHistory} {s s' : CacheSession β τ} {call : CacheCall β τ}
    {answer : CacheAnswer} (hsteps : s.Steps call answer s')
    (h : ModelCache.Tracks k.committed s.cache) :
    ModelCache.Tracks (k.note call answer).committed s'.cache := by
  cases hsteps with
  | refused =>
      rw [committed_note_failed]
      exact h
  | begun => exact ⟨h.linked.begun, h.entries⟩
  | inserted _ hstages | requested _ _ hstages => exact h.of_stagesOn hstages
  | ended haccepts hindex => exact h.commit _ haccepts hindex
  | dropped | abandoned => exact h.abandon _
  | cached _ _ _ hstages hindex => exact h.commit_of_begun hstages hindex _
  | uncached _ _ _ hstages => exact (h.begun.of_stagesOn hstages).abandon _
  | appendedModel | appendedViewport | clearedDisplayList =>
      exact ⟨h.linked.of_eq rfl rfl (.inr rfl), h.entries⟩
  | cleared => exact ⟨h.linked.cleared, rfl⟩
  | elsewhere => exact h

theorem tracks_run {k : CacheHistory} {s : CacheSession β τ}
    (h : ModelCache.Tracks k.committed s.cache) (calls : List (CacheCall β τ)) :
    ModelCache.Tracks (k.after s calls).committed (s.run calls).cache := by
  induction calls generalizing k s with
  | nil => exact h
  | cons call calls ih => exact ih (tracks_step (s.steps call) h)

/-- The largest number of a model that entered with an index and a texture offset,
as far as the answers tell. -/
def newest (k : CacheHistory) (index : UInt32) (offset : UInt16) : Option ModelId :=
  ((k.committed.filter (·.2 = (index, offset))).map (·.1.index)).max?.map ModelId.mk

theorem max?_append_singleton {numbers : List Nat} {n : Nat} (h : ∀ k ∈ numbers, k ≤ n) :
    (numbers ++ [n]).max? = some n := by
  rw [List.max?_eq_some_iff]
  refine ⟨by simp, ?_⟩
  intro k hk
  rcases List.mem_append.1 hk with hk | hk
  · exact h k hk
  · exact Nat.le_of_eq (List.mem_singleton.1 hk)

/-- The newest model is the one with the largest number. -/
theorem newest_eq_max? (accept : CachedModel → Bool) (models : Array CachedModel) {n : Nat}
    (hn : n ≤ models.size) :
    ModelCache.newest accept models n =
      (((models.toList.take n).zipIdx.filter (accept ·.1)).map (·.2)).max?.map ModelId.mk := by
  induction n with
  | zero => simp [ModelCache.newest]
  | succ n ih =>
      have hlength : n < models.toList.length := hn
      have hm : models[n]? = some models.toList[n] := Array.getElem?_eq_getElem hn
      have htake : 0 + (models.toList.take n).length = n := by
        rw [List.length_take, Nat.min_eq_left (Nat.le_of_lt hlength), Nat.zero_add]
      rw [ModelCache.newest_succ_of_getElem? hm, List.take_succ_eq_append_getElem hlength,
        List.zipIdx_append, List.filter_append, List.map_append, ih (Nat.le_of_succ_le hn), htake]
      generalize models.toList[n] = m
      by_cases haccept : accept m = true
      · have hle : ∀ k ∈ ((models.toList.take n).zipIdx.filter (accept ·.1)).map (·.2), k ≤ n := by
          intro k hk
          obtain ⟨⟨m, k⟩, hmem, rfl⟩ := List.mem_map.1 hk
          have hlt := (List.mem_zipIdx (List.mem_filter.1 hmem).1).2.1
          rw [htake] at hlt
          exact Nat.le_of_lt hlt
        have hlast : (([m].zipIdx n).filter (accept ·.1)).map (·.2) = [n] := by
          simp [haccept]
        rw [if_pos haccept, hlast, max?_append_singleton hle]
        rfl
      · have hlast : ([m].zipIdx n).filter (accept ·.1) = [] := by
          simp [haccept]
        rw [if_neg haccept, hlast, List.map_nil, List.append_nil]

theorem lookUp_of_tracks {k : CacheHistory} {c : ModelCache}
    (h : ModelCache.Tracks k.committed c) (index : UInt32) (offset : UInt16) :
    c.lookUp index offset = k.newest index offset := by
  have hkey : (fun m : CachedModel × Nat => decide ((m.1.lutIndex, m.1.textureOffset) =
      (index, offset))) = fun m => ModelCache.hasKey index offset m.1 := by
    funext m
    rw [Bool.eq_iff_iff]
    simp [ModelCache.hasKey, ModelCache.hasIndex]
  rw [h.linked.lookUp_eq, newest_eq_max? _ _ (Nat.le_refl _), newest, h.entries,
    ModelCache.entries, List.filter_map, List.map_map, ← Array.length_toList, List.take_length,
    ← hkey]
  rfl

/-- A model has its place in the list as its number. -/
theorem index_of_tracks {committed : List (ModelId × UInt32 × UInt16)} {c : ModelCache}
    (h : ModelCache.Tracks committed c) {i : Nat} {e : ModelId × UInt32 × UInt16}
    (he : committed[i]? = some e) : e.1.index = i := by
  rw [h.entries, ModelCache.entries, List.getElem?_map, List.getElem?_zipIdx] at he
  cases hm : c.models.toList[i]? with
  | none =>
      rw [hm] at he
      cases he
  | some m =>
      rw [hm] at he
      cases he
      exact Nat.zero_add i

theorem newest_append {committed : List (ModelId × UInt32 × UInt16)} {c : ModelCache}
    {id : ModelId} {key : UInt32 × UInt16} (h : ModelCache.Tracks (committed ++ [(id, key)]) c)
    (handle handle' : Option StagingHandle) (index : UInt32) (offset : UInt16) :
    (CacheHistory.mk handle (committed ++ [(id, key)])).newest index offset =
      if key = (index, offset) then some id
      else (CacheHistory.mk handle' committed).newest index offset := by
  have hid : id.index = committed.length := index_of_tracks h (e := (id, key)) (by simp)
  have hle : ∀ n ∈ (committed.filter (·.2 = (index, offset))).map (·.1.index), n ≤ id.index := by
    intro n hn
    obtain ⟨e, hmem, rfl⟩ := List.mem_map.1 hn
    obtain ⟨i, hi, rfl⟩ := List.getElem_of_mem (List.mem_filter.1 hmem).1
    have hindex := index_of_tracks h
      ((List.getElem?_append_left hi).trans (List.getElem?_eq_getElem hi))
    omega
  rw [newest, List.filter_append, List.map_append]
  by_cases hkey : key = (index, offset)
  · have hlast : ([(id, key)].filter (·.2 = (index, offset))).map (·.1.index) = [id.index] := by
      simp [hkey]
    rw [if_pos hkey, hlast, max?_append_singleton hle]
    rfl
  · have hlast : [(id, key)].filter (·.2 = (index, offset)) = [] := by
      simp [hkey]
    rw [if_neg hkey, hlast, List.map_nil, List.append_nil]
    rfl

end CacheHistory

/-- The index and the texture offset that a call enters a model under. -/
def CacheCall.key? {β τ : Type} : CacheCall β τ → Option (UInt32 × UInt16)
  | endModel _ index offset => some (index, offset)
  | cacheModel _ index offset _ => some (index, offset)
  | _ => none

namespace CacheSession

variable {β τ : Type} [Backend β] [TextureManager τ]

/-- Only two calls enter a model. -/
theorem note_of_cached {s : CacheSession β τ} {call : CacheCall β τ} {id : ModelId}
    (h : (s.step call).1 = .cached id) (k : CacheHistory) :
    ∃ key, call.key? = some key ∧
      (k.note call (s.step call).1).committed = k.committed ++ [(id, key)] := by
  rw [h]
  cases call with
  | endModel handle index offset => exact ⟨_, rfl, rfl⟩
  | cacheModel ctx index offset words => exact ⟨_, rfl, rfl⟩
  | beginModel | insertPolygon | requestTexture | abandon | appendModel | appendViewport
  | clearDisplayList | clear | elsewhere =>
      simp only [step] at h
      first
        | cases h
        | split at h <;> cases h

/-- A look-up finds the newest model that has entered under its key since the
last clear, after any calls with any handles. The walk behind it ends within the
array. A model that enters is found under its own key, and no other look-up
changes its answer. -/
theorem lookUp_run {limits : CacheLimits} {source : ModelSource} {b b' : β} {c : ModelCache}
    (hcreate : (ModelCache.create limits source b).value = (.ok c, b')) (textures : τ)
    (calls : List (CacheCall β τ)) (index : UInt32) (offset : UInt16) :
    let s := (CacheSession.mk c ⟨b', textures⟩).run calls
    let k := CacheHistory.start.after (CacheSession.mk c ⟨b', textures⟩) calls
    s.cache.lookUp index offset = k.newest index offset ∧
      ModelCache.Walk s.cache.models offset (s.cache.lut.get? index)
        (s.cache.lookUp index offset) ∧
      ∀ call id, (s.step call).1 = .cached id →
        (s.step call).2.cache.lookUp index offset =
          if call.key? = some (index, offset) then some id else s.cache.lookUp index offset := by
  intro s k
  obtain ⟨-, buffer, capacity, -, rfl, -⟩ := ModelCache.create_ok hcreate
  have htracks : ModelCache.Tracks k.committed s.cache :=
    CacheHistory.tracks_run ⟨ModelCache.isLinked_empty limits source buffer capacity, rfl⟩ calls
  refine ⟨CacheHistory.lookUp_of_tracks htracks index offset, htracks.linked.walk_lookUp .., ?_⟩
  intro call id hid
  obtain ⟨key, hkey, hnote⟩ := note_of_cached hid k
  have hstep := CacheHistory.tracks_step (s.steps call) htracks
  rw [hnote] at hstep
  rw [CacheHistory.lookUp_of_tracks (k := ⟨none, k.committed ++ [(id, key)]⟩) hstep index offset,
    CacheHistory.newest_append hstep none k.handle, hkey, CacheHistory.lookUp_of_tracks htracks]
  simp only [Option.some.injEq]

/-- Three variants of a model, and a look-up between them. -/
theorem lookUp_three_variants :
    let limits : CacheLimits := ⟨64, 32, 4, 16, 8⟩
    let b : Recorder := .empty none
    let calls : List (CacheCall Recorder TextureLog) :=
      [.beginModel, .endModel ⟨0, 0⟩ 3 0x10, .beginModel, .endModel ⟨1, 99⟩ 3 0x20,
        .beginModel, .endModel ⟨2, 0⟩ 3 0x10]
    ∃ c b', (ModelCache.create limits .static b).value = (.ok c, b') ∧
      ((CacheSession.mk c ⟨b', TextureLog.empty 16 .origin⟩).run calls).cache.lookUp 3 0x10 =
        some ⟨2⟩ := by
  intro limits b calls
  have hcreate : (ModelCache.create limits .static b).value = (.ok _, _) :=
    ModelCache.create_of_granted rfl
  have hlookUp := lookUp_run hcreate (TextureLog.empty 16 .origin) calls 3 0x10
  refine ⟨_, _, hcreate, ?_⟩
  rw [hlookUp.1]
  decide +kernel

end CacheSession

end PolygonRenderer
