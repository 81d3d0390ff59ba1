import PolygonRenderer.Proofs.ModelCache.Accounting

/-!
# Caching a model

Whether a model can be cached is a matter of a few numbers: `ModelCache.verdict`
looks at the cursor and at how many vertices are staged for each pass, and not at
the vertices themselves. What `cacheModel` answers is read off it, so that the
answers of two caches can be compared.

A model that can be cached in an empty cache may be refused by one that holds
others, but only for want of room, in the vertex buffer or among the models.
-/

namespace PolygonRenderer

namespace ModelCache

variable {β τ : Type} {c c' : ModelCache}

def stagedCounts (c : ModelCache) : PerPass Nat :=
  c.staging.vertices.map Array.size

/-- What it answers to stage what is found in a stream, with this many vertices in
use and this many staged. -/
def verdict (stagingCapacity bufferCapacity : Nat) :
    Nat → PerPass Nat → List Decoder.Event → Except RenderError Unit
  | _, _, [] => .ok ()
  | cursor, staged, .skipped _ :: events =>
    verdict stagingCapacity bufferCapacity cursor staged events
  | _, _, .truncated t :: _ => .error (.truncatedModel t)
  | cursor, staged, .polygon p :: events =>
    let needed := staged.get p.pass + maxCorners
    if stagingCapacity ≤ needed then .error (.stagingBufferOverflow p.pass needed stagingCapacity)
    else if bufferCapacity ≤ cursor + maxCorners then .error .vertexBufferOverflow
    else verdict stagingCapacity bufferCapacity (cursor + p.cornerCount)
      (staged.modify p.pass (· + p.cornerCount)) events

theorem get_stagedCounts (c : ModelCache) (p : Pass) : c.stagedCounts.get p = c.stagedCount p :=
  PerPass.get_map ..

/-- Each polygon is counted for its own pass. -/
theorem stagedCounts_of_stagesOn {p : Polygon Float32} {ctx : DecodeContext}
    (h : c.StagesOn c' (passVertices ctx [p])) :
    c'.stagedCounts = c.stagedCounts.modify p.pass (· + p.cornerCount) := by
  ext q
  rw [get_stagedCounts, h.stagedCount_eq, passVertices_singleton]
  by_cases hq : q = p.pass
  · subst hq
    rw [if_pos rfl, PerPass.get_modify_self, get_stagedCounts, length_polygonVertices]
  · rw [if_neg (Ne.symm hq), PerPass.modify_eq, PerPass.get_set_of_ne _ _ hq, get_stagedCounts]
    rfl

theorem cursor_of_stagesOn {p : Polygon Float32} {ctx : DecodeContext}
    (h : c.StagesOn c' (passVertices ctx [p])) : c'.cursor = c.cursor + p.cornerCount := by
  rw [h.cursor, passVertices_singleton, passVertices_singleton]
  cases p.pass <;> simp [length_polygonVertices]

/-- Nothing but the numbers of vertices counts. -/
theorem overflow?_of_stagesOn_nil (h : c.StagesOn c' fun _ => []) (p : Pass) :
    c'.overflow? p = c.overflow? p := by
  have hcursor : c'.cursor = c.cursor := h.cursor
  rw [overflow?, h.stagedCount_eq, h.stagingCapacity_eq, h.bufferCapacity_eq, hcursor]
  rfl

variable [TextureManager τ]

theorem requestTexture_of_accepts {h : StagingHandle} (haccepts : c.accepts h = true)
    (texture : TextureRef) (textures : τ) :
    ∃ c' textures', c.requestTexture h texture textures = .ok (c', textures') ∧
      c.StagesOn c' fun _ => [] := by
  rcases c.requestTexture_cases h texture textures with
    ⟨e, he⟩ | ⟨-, c', textures', hok, -, hstages⟩
  · unfold requestTexture at he
    rw [if_pos haccepts] at he
    split at he
    · cases he
    · split at he <;> cases he
  · exact ⟨c', textures', hok, hstages⟩

theorem stagePolygon_of_accepts {h : StagingHandle} (haccepts : c.accepts h = true)
    (textures : τ) (ctx : DecodeContext) (p : Polygon Float32) :
    ∃ c' textures', match c.overflow? p.pass with
      | some e => (c.stagePolygon textures h ctx p).value = (.error e, c', textures')
      | none => (c.stagePolygon textures h ctx p).value = (.ok (), c', textures') ∧
          c.StagesOn c' (passVertices ctx [p]) := by
  have hrequested : ∃ c₁ textures₁, (if p.header.isTextured then
      c.requestTexture h (ctx.textureRef p.header) textures else .ok (c, textures)) =
        .ok (c₁, textures₁) ∧ c.StagesOn c₁ fun _ => [] := by
    split
    · exact requestTexture_of_accepts haccepts _ textures
    · exact ⟨c, textures, rfl, .refl c⟩
  obtain ⟨c₁, textures₁, hrequest, hstages⟩ := hrequested
  have hinsert : (c.stagePolygon textures h ctx p).value =
      ((c₁.insertPolygon h p ctx).value.1, (c₁.insertPolygon h p ctx).value.2, textures₁) := by
    unfold stagePolygon
    rw [hrequest]
    rfl
  have haccepts₁ : c₁.accepts h = true := (hstages.accepts_eq h).trans haccepts
  have hoverflow := overflow?_of_stagesOn_nil hstages p.pass
  rw [hinsert, insertPolygon, if_pos haccepts₁, hoverflow]
  cases hfits : c.overflow? p.pass with
  | some e => exact ⟨c₁, textures₁, rfl⟩
  | none =>
      have hroom := overflow?_eq_none_iff.1 (hoverflow.trans hfits)
      exact ⟨_, textures₁, rfl, hstages.trans (stagesOn_stage ctx hroom)⟩

/-- Staging answers what the verdict is. -/
theorem answer_stageEvents {h : StagingHandle} (haccepts : c.accepts h = true) (textures : τ)
    (ctx : DecodeContext) (events : List Decoder.Event) :
    (c.stageEvents textures h ctx events).value.1 =
      verdict c.stagingCapacity c.bufferCapacity c.cursor c.stagedCounts events := by
  induction events generalizing c textures with
  | nil => rfl
  | cons event events ih =>
      cases event with
      | skipped position => exact ih haccepts textures
      | truncated t => rfl
      | polygon p =>
          obtain ⟨c', textures', hstage⟩ := stagePolygon_of_accepts haccepts textures ctx p
          rw [stageEvents, Logged.value_bind, verdict, get_stagedCounts]
          rw [overflow?] at hstage
          by_cases hstaging : c.stagingCapacity ≤ c.stagedCount p.pass + maxCorners
          · rw [if_pos hstaging] at hstage ⊢
            rw [hstage]
            rfl
          · rw [if_neg hstaging] at hstage ⊢
            by_cases hbuffer : c.bufferCapacity ≤ c.cursor + maxCorners
            · rw [if_pos hbuffer] at hstage ⊢
              rw [hstage]
              rfl
            · rw [if_neg hbuffer] at hstage ⊢
              obtain ⟨hok, hstages⟩ := hstage
              -- the verdict goes on with the numbers that the cache has now
              rw [hok, ← stagedCounts_of_stagesOn hstages, ← cursor_of_stagesOn hstages,
                ← hstages.stagingCapacity_eq, ← hstages.bufferCapacity_eq]
              exact ih ((hstages.accepts_eq h).trans haccepts) textures'

/-- What a cache answers that is not staging a model. -/
theorem answer_cacheModel [Backend β] (hslot : c.staging.slot = none) (host : Host β τ)
    (ctx : DecodeContext) (index : UInt32) (offset : UInt16) (words : List UInt32) :
    (c.cacheModel host ctx index offset words).value.1 =
      if c.maxModels ≤ c.models.size then .error .modelCacheFull
      else
        match verdict c.stagingCapacity c.bufferCapacity c.cursor (.both 0)
          (Decoder.start words ctx.vertexFactor).events with
        | .error e => .error e
        | .ok () =>
          if index.toNat < c.lut.size then .ok ⟨c.models.size⟩
          else .error (.lutIndexOutOfRange index c.lut.size) := by
  by_cases hfull : c.maxModels ≤ c.models.size
  · have hbegin : c.beginModel = .error .modelCacheFull := by
      rw [beginModel, hslot, if_neg (by simp), if_pos hfull]
    rw [if_pos hfull, cacheModel, hbegin]
    rfl
  · have hbegin : c.beginModel = .ok (⟨c.models.size, c.cursor⟩, c.begun) := by
      rw [beginModel, hslot, if_neg (by simp), if_neg hfull]
      rfl
    have hverdict : (c.begun.stageEvents host.textures ⟨c.models.size, c.cursor⟩ ctx
        (Decoder.start words ctx.vertexFactor).events).value.1 =
          verdict c.stagingCapacity c.bufferCapacity c.cursor (.both 0)
            (Decoder.start words ctx.vertexFactor).events :=
      answer_stageEvents (accepts_iff.2 rfl) _ _ _
    obtain ⟨c', textures, ps, -, hstages, hvalue⟩ := stageEvents_cases c.begun host.textures
      ⟨c.models.size, c.cursor⟩ ctx (Decoder.start words ctx.vertexFactor).events
    rw [if_neg hfull, ← hverdict, cacheModel, hbegin]
    dsimp only
    rw [Logged.value_bind]
    rcases hvalue with ⟨e, he⟩ | ⟨hok, -⟩
    · rw [he]
      rfl
    · rw [hok]
      have hlut : c'.lut = c.lut := hstages.lut_eq
      rcases endModel_cases c' host.backend ⟨c.models.size, c.cursor⟩ index offset with
        ⟨hno, -⟩ | ⟨-, hout, hend⟩ | ⟨-, hin, hend⟩
      · rw [hstages.accepts_of_begun] at hno
        cases hno
      · rw [hlut] at hout
        dsimp only
        rw [Logged.value_bind, hend, if_neg (Nat.not_lt.2 hout), hlut]
        rfl
      · rw [hlut] at hin
        dsimp only
        rw [Logged.value_bind, hend, if_pos hin]
        rfl

/-- With more vertices in use, a model may turn out not to fit into the buffer. -/
theorem verdict_of_le {stagingCapacity bufferCapacity cursor cursor' : Nat}
    {staged : PerPass Nat} {events : List Decoder.Event} (hle : cursor ≤ cursor')
    (hok : verdict stagingCapacity bufferCapacity cursor staged events = .ok ()) :
    verdict stagingCapacity bufferCapacity cursor' staged events = .ok () ∨
      verdict stagingCapacity bufferCapacity cursor' staged events =
        .error .vertexBufferOverflow := by
  induction events generalizing cursor cursor' staged with
  | nil => exact .inl rfl
  | cons event events ih =>
      cases event with
      | skipped position => exact ih hle hok
      | truncated t => cases hok
      | polygon p =>
          rw [verdict] at hok ⊢
          split at hok
          · cases hok
          · rename_i hstaging
            rw [if_neg hstaging]
            split at hok
            · cases hok
            · by_cases hbuffer : bufferCapacity ≤ cursor' + maxCorners
              · rw [if_pos hbuffer]
                exact .inr rfl
              · rw [if_neg hbuffer]
                exact ih (Nat.add_le_add_right hle _) hok

/-- With fewer vertices in use, a model that fits still does. -/
theorem verdict_of_ge {stagingCapacity bufferCapacity cursor cursor' : Nat}
    {staged : PerPass Nat} {events : List Decoder.Event} (hle : cursor ≤ cursor')
    (hok : verdict stagingCapacity bufferCapacity cursor' staged events = .ok ()) :
    verdict stagingCapacity bufferCapacity cursor staged events = .ok () := by
  induction events generalizing cursor cursor' staged with
  | nil => rfl
  | cons event events ih =>
      cases event with
      | skipped position => exact ih hle hok
      | truncated t => cases hok
      | polygon p =>
          rw [verdict] at hok ⊢
          split at hok
          · cases hok
          · rename_i hstaging
            rw [if_neg hstaging]
            split at hok
            · cases hok
            · rename_i hbuffer
              rw [if_neg (by omega)]
              exact ih (Nat.add_le_add_right hle _) hok

/-- A cache with these limits would take the model if it were empty. -/
structure Fits (limits : CacheLimits) (capacity : Nat) (ctx : DecodeContext) (index : UInt32)
    (words : List UInt32) : Prop where
  maxModels : 0 < limits.maxModels
  index : index.toNat < limits.lutEntries
  verdict : verdict limits.stagingVertices capacity 0 (.both 0)
    (Decoder.start words ctx.vertexFactor).events = .ok ()

/-- A model that a cache takes, it would take if it were empty. -/
theorem fits_of_cacheModel [Backend β] {limits : CacheLimits} {host : Host β τ}
    {ctx : DecodeContext} {index : UInt32} {offset : UInt16} {words : List UInt32} {id : ModelId}
    (hslot : c.staging.slot = none) (hmodels : c.maxModels = limits.maxModels)
    (hstaging : c.stagingCapacity = limits.stagingVertices)
    (hlut : c.lut.size = limits.lutEntries)
    (h : (c.cacheModel host ctx index offset words).value.1 = .ok id) :
    Fits limits c.bufferCapacity ctx index words := by
  rw [answer_cacheModel hslot, hmodels, hstaging, hlut] at h
  split at h
  · cases h
  · rename_i hroom
    split at h
    · cases h
    · rename_i hverdict
      split at h
      · rename_i hindex
        exact ⟨Nat.zero_lt_of_lt (Nat.not_le.1 hroom), hindex,
          verdict_of_ge (Nat.zero_le c.cursor) hverdict⟩
      · cases h

theorem fits_of_empty [Backend β] {limits : CacheLimits} {source : ModelSource}
    {buffer : BufferHandle} {capacity : Nat} {host : Host β τ} {ctx : DecodeContext}
    {index : UInt32} {offset : UInt16} {words : List UInt32} {id : ModelId}
    (h : ((empty limits source buffer capacity).cacheModel host ctx index offset words).value.1 =
      .ok id) : Fits limits capacity ctx index words :=
  fits_of_cacheModel rfl rfl rfl (LookupTable.size_empty _) h

/-- Whatever it answers, caching a model leaves the instances and the other models
alone. -/
theorem cacheModel_keeps [Backend β] {host host' : Host β τ} {ctx : DecodeContext}
    {index : UInt32} {offset : UInt16} {words : List UInt32} {answer : Except RenderError ModelId}
    (h : (c.cacheModel host ctx index offset words).value = (answer, c', host')) :
    c'.displayList = c.displayList ∧ c'.stores = c.stores ∧ c'.lut.size = c.lut.size ∧
      ∀ id m, c.model? id = some m → c'.model? id = some m := by
  rcases cacheModel_cases c host ctx index offset words with
    ⟨e, he⟩ | ⟨c₁, textures, ps, -, -, -, hstages, ⟨e, he⟩ | ⟨-, -, hok⟩⟩
  · rw [he] at h
    cases h
    exact ⟨rfl, rfl, rfl, fun _ _ hm => hm⟩
  · rw [he] at h
    cases h
    rw [abandon, if_pos hstages.accepts_of_begun, hstages.eq]
    exact ⟨rfl, rfl, rfl, fun _ _ hm => hm⟩
  · rw [hok] at h
    cases h
    have hlut : c₁.lut.size = c.lut.size := congrArg LookupTable.size hstages.lut_eq
    refine ⟨hstages.displayList_eq, hstages.stores_eq, hlut, ?_⟩
    intro id m hm
    have hlt := (Array.getElem?_eq_some_iff.1 hm).1
    rw [model?, commit, hstages.models_eq]
    exact (Array.getElem?_push_lt hlt).trans ((Array.getElem?_eq_getElem hlt).symm.trans hm)

end ModelCache

end PolygonRenderer
