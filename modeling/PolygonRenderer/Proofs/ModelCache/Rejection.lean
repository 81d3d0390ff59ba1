import PolygonRenderer.Proofs.ModelCache.FirstFailure

/-!
# Rejected models

A model that cannot be cached leaves no trace in the cache, at whatever point of its
stream that is found out: what was set aside for it is given back, and the backend has
not been called. A model of somebody else's that is being staged goes on being staged.

What is left is the count of polygons, and the request of textures: `ModelCache.Intact`
allows for the one, and `Serviced` tells of the other. A cache that is not staging a model
has five reasons to reject one (`RenderError.IsRejection`).
-/

namespace PolygonRenderer

namespace ModelCache

/-- Nothing of a cache has changed that outlasts the staging of a model. The same model is
being staged, if any. -/
structure Intact (c c' : ModelCache) : Prop where
  eq : c' = { c with staging := c'.staging, polygonsInserted := c'.polygonsInserted }
  slot : c'.staging.slot = c.staging.slot

namespace Intact

variable {c c' : ModelCache}

theorem refl (c : ModelCache) : c.Intact c where
  eq := rfl
  slot := rfl

theorem models_eq (h : c.Intact c') : c'.models = c.models := by
  rw [h.eq]

theorem lut_eq (h : c.Intact c') : c'.lut = c.lut := by
  rw [h.eq]

theorem displayList_eq (h : c.Intact c') : c'.displayList = c.displayList := by
  rw [h.eq]

theorem lookUp_eq (h : c.Intact c') (index : UInt32) (offset : UInt16) :
    c'.lookUp index offset = c.lookUp index offset := by
  rw [lookUp, h.models_eq, h.lut_eq, lookUp]

/-- To drop a model takes back all that was staged for it. -/
theorem abandon_of_begun {new : Pass → List BufferVertex} (hslot : c.staging.slot = none)
    (hstages : c.begun.StagesOn c' new) : c.Intact (c'.abandon ⟨c.models.size, c.cursor⟩) := by
  rw [abandon, if_pos hstages.accepts_of_begun]
  refine ⟨?_, hslot.symm⟩
  rw [hstages.eq]
  rfl

end Intact

section Failing

variable {β τ : Type} [Backend β] [TextureManager τ] {c c' : ModelCache} {host host' : Host β τ}
  {ctx : DecodeContext} {index : UInt32} {offset : UInt16} {words : List UInt32} {e : RenderError}

/-- Either no model could be begun, or one was begun and dropped again. -/
theorem cacheModel_error_cases
    (h : (c.cacheModel host ctx index offset words).value = (.error e, c', host')) :
    c' = c ∧ host' = host ∨
      c.staging.slot = none ∧ c.models.size < c.maxModels ∧ c.Intact c' ∧
        host'.backend = host.backend ∧ Serviced host.textures host'.textures := by
  rcases cacheModel_cases c host ctx index offset words with
    ⟨e', he⟩ | ⟨c₁, textures, ps, hserviced, hslot, hroom, hstages, ⟨e', he⟩ | ⟨-, -, hok⟩⟩
  · rw [he] at h
    cases h
    exact .inl ⟨rfl, rfl⟩
  · rw [he] at h
    cases h
    exact .inr ⟨hslot, hroom, .abandon_of_begun hslot hstages, rfl, hserviced⟩
  · rw [hok] at h
    cases h

theorem intact_of_cacheModel
    (h : (c.cacheModel host ctx index offset words).value = (.error e, c', host')) :
    c.Intact c' := by
  rcases cacheModel_error_cases h with ⟨rfl, -⟩ | ⟨-, -, hintact, -⟩
  · exact .refl _
  · exact hintact

end Failing

end ModelCache

/-- The reasons to reject a model with these items, for a cache that is not staging another
one. -/
inductive RenderError.IsRejection (stagingCapacity lutSize : Nat) (index : UInt32)
    (items : List (Except Truncation (Polygon Float32))) : RenderError → Prop
  | modelCacheFull : IsRejection stagingCapacity lutSize index items .modelCacheFull
  | vertexBufferOverflow : IsRejection stagingCapacity lutSize index items .vertexBufferOverflow
  | stagingBufferOverflow {p : Pass} {needed : Nat} (h : stagingCapacity ≤ needed) :
      IsRejection stagingCapacity lutSize index items
        (.stagingBufferOverflow p needed stagingCapacity)
  | truncatedModel {t : Truncation} (h : .error t ∈ items) :
      IsRejection stagingCapacity lutSize index items (.truncatedModel t)
  | lutIndexOutOfRange (h : lutSize ≤ index.toNat) :
      IsRejection stagingCapacity lutSize index items (.lutIndexOutOfRange index lutSize)

namespace ModelCache

theorem isRejection_of_failure? {stagingCapacity bufferCapacity cursor n : Nat}
    {items : List (Except Truncation (Polygon Float32))} {e : RenderError}
    (h : failure? stagingCapacity bufferCapacity cursor items n = some e) (lutSize : Nat)
    (index : UInt32) : e.IsRejection stagingCapacity lutSize index items := by
  unfold failure? at h
  dsimp only at h
  split at h
  · cases h
  · rename_i t hitem
    cases h
    exact .truncatedModel (List.mem_of_getElem? hitem)
  · split at h
    · rename_i hstaging
      cases h
      exact .stagingBufferOverflow hstaging
    · split at h
      · cases h
        exact .vertexBufferOverflow
      · cases h

theorem isRejection_of_cacheModel {β τ : Type} [Backend β] [TextureManager τ] {c : ModelCache}
    (hslot : c.staging.slot = none) {host : Host β τ} {ctx : DecodeContext} {index : UInt32}
    {offset : UInt16} {words : List UInt32} {e : RenderError}
    (h : (c.cacheModel host ctx index offset words).value.1 = .error e) :
    e.IsRejection c.stagingCapacity c.lut.size index
      (Decoder.start words ctx.vertexFactor).items := by
  by_cases hroom : c.models.size < c.maxModels
  · rw [answer_of_items hslot hroom] at h
    split at h
    · rename_i hfailure
      cases h
      obtain ⟨n, -, hn⟩ := List.exists_of_findSome?_eq_some hfailure
      exact isRejection_of_failure? hn _ index
    · split at h
      · cases h
      · rename_i hindex
        cases h
        exact .lutIndexOutOfRange (Nat.not_lt.1 hindex)
  · rw [answer_cacheModel hslot, if_pos (Nat.not_lt.1 hroom)] at h
    cases h
    exact .modelCacheFull

variable {β τ : Type} [Backend β] [TextureManager τ]

/-- A model that cannot be cached, for whatever reason and from whatever state, leaves the
cache intact: it has the same models, which are looked up with the same answers, the same
place to go on in the vertex buffer, and the same instances. The backend is as it was, and
no call was made on it. Where no model could be begun, because one is being staged or there
are too many, nothing at all has changed. -/
theorem intact_of_error {c c' : ModelCache} {host host' : Host (Observed β) τ}
    {ctx : DecodeContext} {index : UInt32} {offset : UInt16} {words : List UInt32}
    {e : RenderError}
    (h : (c.cacheModel host ctx index offset words).value = (.error e, c', host')) :
    c.Intact c' ∧ (∀ i o, c'.lookUp i o = c.lookUp i o) ∧
      host'.backend = host.backend ∧ host'.backend.calls = host.backend.calls ∧
      Serviced host.textures host'.textures ∧
      (c.staging.slot.isSome = true ∨ c.maxModels ≤ c.models.size → c' = c ∧ host' = host) := by
  have hintact := intact_of_cacheModel h
  rcases cacheModel_error_cases h with ⟨rfl, rfl⟩ | ⟨hslot, hroom, -, hbackend, hserviced⟩
  · exact ⟨hintact, hintact.lookUp_eq, rfl, rfl, .refl, fun _ => ⟨rfl, rfl⟩⟩
  · refine ⟨hintact, hintact.lookUp_eq, hbackend, congrArg _ hbackend, hserviced, ?_⟩
    rintro (hstaging | hfull)
    · rw [hslot] at hstaging
      cases hstaging
    · exact absurd hroom (Nat.not_lt.2 hfull)

/-- The stream of a textured triangle breaks off in the next header, when another model is
in the cache and drawn. Its texture has been asked for by then. -/
theorem intact_of_truncation :
    let limits : CacheLimits := ⟨64, 32, 4, 16, 8⟩
    let ctx : DecodeContext := ⟨1, -1, 0, 0, #[], .unlessWord4, .origin⟩
    let vertices : List UInt32 := [1, 2, 3, 4, 5, 6, 7, 8, 9, 10, 11, 12]
    let whole : List UInt32 := [0, 4, 0, 0, 0, 0, 1] ++ vertices
    let cut : List UInt32 := [0, 0, 0, 0, 0, 0, 0x4000000] ++ vertices ++ [0, 0]
    let calls : List (CacheCall (Observed Recorder) TextureLog) :=
      [.cacheModel ctx 3 0 whole, .appendModel ⟨0⟩ .identity]
    let b : Observed Recorder := ⟨.empty none, []⟩
    let b' := (create limits .static b).value.2
    let s := (CacheSession.mk (empty limits .static ⟨0⟩ 64) ⟨b', TextureLog.empty 16 .origin⟩).run
      calls
    s.cache.models.size = 1 ∧ s.cache.displayList.length = 1 ∧
      ∃ c' host', (s.cache.cacheModel s.host ctx 3 0x10 cut).value =
          (.error (.truncatedModel ⟨19, 7, 2⟩), c', host') ∧
        s.cache.Intact c' ∧ c'.lookUp 3 0 = s.cache.lookUp 3 0 ∧
        host'.backend.calls = s.host.backend.calls ∧ host'.textures.refs.length = 1 := by
  intro limits ctx vertices whole cut calls b b' s
  have hanswer : (s.step (.cacheModel ctx 3 0x10 cut)).1 =
      .failed (.truncatedModel ⟨19, 7, 2⟩) := by
    decide +kernel
  have hrefs : (s.cache.cacheModel s.host ctx 3 0x10 cut).value.2.2.textures.refs.length = 1 := by
    decide +kernel
  rcases hvalue : (s.cache.cacheModel s.host ctx 3 0x10 cut).value with ⟨answer, c', host'⟩
  rw [CacheSession.step, hvalue] at hanswer
  rw [hvalue] at hrefs
  cases answer with
  | ok id => cases hanswer
  | error e =>
      cases hanswer
      obtain ⟨hintact, hlookUp, -, hcalls, -⟩ := intact_of_error hvalue
      exact ⟨by decide +kernel, by decide +kernel, c', host', rfl, hintact, hlookUp 3 0, hcalls,
        hrefs⟩

end ModelCache

end PolygonRenderer
