import PolygonRenderer.ModelCache.Caching
import PolygonRenderer.Proofs.ModelCache.Ladder

/-!
# What the calls of a model cache can do

Each call of a cache either leaves it alone, or makes one of a few changes: a
model is begun, vertices are staged, the staged model is dropped or enters the
cache. `ModelCache.StagesOn` says what staging changes, for one polygon as well
as for a whole stream, so that a property of caches has to be looked at once for
each kind of change.

The main statement is `ModelCache.cacheModel_cases`, which takes the caching of
a whole model apart.
-/

namespace PolygonRenderer

namespace DisplayList

variable {l : DisplayList} {e : RenderError}

theorem appendModel_error {ranges : PerPass VertexRange} {t : Transform}
    (h : l.appendModel ranges t = .error e) : l.hasRoom = false ∧ e = .displayListFull := by
  unfold appendModel at h
  split at h
  · cases h
  · rename_i hroom
    cases h
    exact ⟨Bool.eq_false_iff.2 hroom, rfl⟩

theorem nodesPerAppend_le_of_appendModel {ranges : PerPass VertexRange} {t : Transform}
    {l' : DisplayList} (h : l.appendModel ranges t = .ok l') : nodesPerAppend ≤ l.capacity := by
  unfold appendModel at h
  split at h
  · rename_i hroom
    rw [hasRoom, decide_eq_true_eq] at hroom
    omega
  · cases h

theorem appendViewport_error {v : Viewport} (h : l.appendViewport v = .error e) :
    l.hasRoom = false ∧ e = .displayListFull := by
  unfold appendViewport at h
  split at h
  · cases h
  · rename_i hroom
    cases h
    exact ⟨Bool.eq_false_iff.2 hroom, rfl⟩

end DisplayList

/-- From one texture manager to another, nothing happens but that references are
taken and textures decoded. -/
inductive Serviced {τ : Type} [TextureManager τ] : τ → τ → Prop
  | refl {t : τ} : Serviced t t
  | addRef {t t' : τ} (h : Serviced t t') (texture : TextureRef) :
      Serviced t (TextureManager.addRef t' texture).2
  | decode {t t' : τ} (h : Serviced t t') (texture : TextureRef) :
      Serviced t (TextureManager.decode t' texture)

theorem Serviced.trans {τ : Type} [TextureManager τ] {t t' t'' : τ} (h : Serviced t t')
    (h' : Serviced t' t'') : Serviced t t'' := by
  induction h' with
  | refl => exact h
  | addRef _ texture ih => exact ih.addRef texture
  | decode _ texture ih => exact ih.decode texture

/-- A log never moves its sheets. -/
theorem Serviced.sheets_eq {log log' : TextureLog} (h : Serviced log log') :
    log'.sheets = log.sheets := by
  induction h with
  | refl => rfl
  | @addRef log' _ texture ih =>
      rw [← ih]
      exact log'.sheets_addRef texture
  | decode _ _ ih => exact ih

namespace ModelCache

variable {β τ : Type}

/-! ## Creation -/

/-- From one backend to another, buffers are asked for and none is granted. -/
inductive Refusals [Backend β] : β → β → Prop
  | refl {b : β} : Refusals b b
  | step {b b' b'' : β} {bytes : Nat} {usage : BufferUsage} {e : OutOfMemory}
      (head : Backend.allocate b bytes usage = (.error e, b')) (tail : Refusals b' b'') :
      Refusals b b''

theorem Refused.refusals [Backend β] {usage : BufferUsage} {sizes : List Nat} {b b' : β}
    (h : Refused usage sizes b b') : Refusals b b' := by
  induction h with
  | nil => exact .refl
  | cons head _ ih => exact .step head ih

/-- A new cache is empty, and its buffer is the last thing that was allocated and
the only one. -/
theorem create_ok [Backend β] {limits : CacheLimits} {source : ModelSource} {b b' : β}
    {c : ModelCache} (h : (create limits source b).value = (.ok c, b')) :
    ∃ b₁ buffer capacity, Refusals b b₁ ∧ c = empty limits source buffer capacity ∧
      Backend.allocate b₁ (BufferVertex.byteCount * capacity) (bufferUsage source) =
        (.ok buffer, b') := by
  have hladder := create_ladder limits source b
  rw [h] at hladder
  obtain ⟨heq, before, after, b₁, -, hrefused, hallocate⟩ := hladder
  exact ⟨b₁, _, _, hrefused.refusals, heq, hallocate⟩

/-- Where no cache is created, every size was refused. -/
theorem create_error [Backend β] {limits : CacheLimits} {source : ModelSource} {b b' : β}
    {e : RenderError} (h : (create limits source b).value = (.error e, b')) : Refusals b b' := by
  have hladder := create_ladder limits source b
  rw [h] at hladder
  exact hladder.2.refusals

/-- The buffer is as large as was wished for if that much is granted. -/
theorem create_of_granted [Backend β] {limits : CacheLimits} {source : ModelSource} {b b' : β}
    {buffer : BufferHandle}
    (h : Backend.allocate b (BufferVertex.byteCount * limits.firstRequest) (bufferUsage source) =
      (.ok buffer, b')) :
    (create limits source b).value = (.ok (empty limits source buffer limits.firstRequest), b') := by
  unfold create
  rw [Logged.value_bind, request]
  unfold CacheLimits.firstRequest at h ⊢
  by_cases hstep : 0 < limits.stagingVertices ∧ limits.stagingVertices ≤ limits.bufferVertices
  · rw [if_pos hstep] at h ⊢
    rw [dif_pos hstep, h]
    rfl
  · rw [if_neg hstep] at h ⊢
    rw [dif_neg hstep]
    simp only [Logged.value_pure, h]
    rfl

/-! ## Staging -/

/-- The cache with a new model begun. -/
def begun (c : ModelCache) : ModelCache :=
  { c with staging := { Staging.empty with slot := some c.models.size } }

theorem beginModel_cases (c : ModelCache) :
    (∃ e, c.beginModel = .error e) ∨
      c.staging.slot = none ∧ c.models.size < c.maxModels ∧
        c.beginModel = .ok (⟨c.models.size, c.cursor⟩, c.begun) := by
  unfold beginModel
  split
  · exact .inl ⟨_, rfl⟩
  · rename_i hslot
    split
    · exact .inl ⟨_, rfl⟩
    · rename_i hfull
      exact .inr ⟨by simpa using hslot, Nat.not_le.1 hfull, rfl⟩

theorem accepts_iff {c : ModelCache} {h : StagingHandle} :
    c.accepts h = true ↔ c.staging.slot = some h.slot := by
  simp [accepts]

theorem source_abandon (c : ModelCache) (h : StagingHandle) : (c.abandon h).source = c.source := by
  unfold abandon
  split <;> rfl

theorem models_abandon (c : ModelCache) (h : StagingHandle) : (c.abandon h).models = c.models := by
  unfold abandon
  split <;> rfl

theorem displayList_abandon (c : ModelCache) (h : StagingHandle) :
    (c.abandon h).displayList = c.displayList := by
  unfold abandon
  split <;> rfl

/-- The cache `c'` has the vertices `new` staged on top of those of `c`. It
differs from `c` in nothing that outlasts the staging. -/
structure StagesOn (c c' : ModelCache) (new : Pass → List BufferVertex) : Prop where
  eq : c' = { c with
    cursor := c'.cursor
    staging := c'.staging
    polygonsInserted := c'.polygonsInserted }
  slot : c'.staging.slot = c.staging.slot
  vertices : ∀ p, (c'.staging.vertices.get p).toList = (c.staging.vertices.get p).toList ++ new p
  cursor : c'.cursor = c.cursor + (new .solid).length + (new .blended).length
  fitsStaging : ∀ p, new p ≠ [] → c'.stagedCount p < c.stagingCapacity
  fitsBuffer : ∀ p, new p ≠ [] → c'.cursor < c.bufferCapacity

namespace StagesOn

variable {c c' c'' : ModelCache} {new new' : Pass → List BufferVertex}

theorem refl (c : ModelCache) : c.StagesOn c fun _ => [] where
  eq := rfl
  slot := rfl
  vertices _ := (List.append_nil _).symm
  cursor := rfl
  fitsStaging _ h := absurd rfl h
  fitsBuffer _ h := absurd rfl h

theorem stagedCount_eq (h : c.StagesOn c' new) (p : Pass) :
    c'.stagedCount p = c.stagedCount p + (new p).length := by
  have hlength := congrArg List.length (h.vertices p)
  simpa [stagedCount] using hlength

theorem models_eq (h : c.StagesOn c' new) : c'.models = c.models := by
  rw [h.eq]

theorem maxModels_eq (h : c.StagesOn c' new) : c'.maxModels = c.maxModels := by
  rw [h.eq]

theorem lut_eq (h : c.StagesOn c' new) : c'.lut = c.lut := by
  rw [h.eq]

theorem displayList_eq (h : c.StagesOn c' new) : c'.displayList = c.displayList := by
  rw [h.eq]

theorem buffer_eq (h : c.StagesOn c' new) : c'.buffer = c.buffer := by
  rw [h.eq]

theorem stagingCapacity_eq (h : c.StagesOn c' new) : c'.stagingCapacity = c.stagingCapacity := by
  rw [h.eq]

theorem bufferCapacity_eq (h : c.StagesOn c' new) : c'.bufferCapacity = c.bufferCapacity := by
  rw [h.eq]

theorem accepts_eq (h : c.StagesOn c' new) (handle : StagingHandle) :
    c'.accepts handle = c.accepts handle := by
  rw [accepts, h.slot, accepts]

/-- The model that was begun is still being staged. -/
theorem accepts_of_begun (h : c.begun.StagesOn c' new) :
    c'.accepts ⟨c.models.size, c.cursor⟩ = true := by
  rw [h.accepts_eq, accepts_iff]
  rfl

theorem trans (h : c.StagesOn c' new) (h' : c'.StagesOn c'' new') :
    c.StagesOn c'' fun p => new p ++ new' p where
  eq := by
    rw [h'.eq, h.eq]
  slot := h'.slot.trans h.slot
  vertices p := by
    rw [h'.vertices, h.vertices, List.append_assoc]
  cursor := by
    rw [h'.cursor, h.cursor, List.length_append, List.length_append]
    omega
  fitsStaging p hp := by
    by_cases hnew' : new' p = []
    · rw [h'.stagedCount_eq, hnew', List.length_nil, Nat.add_zero]
      exact h.fitsStaging p (by simpa [hnew'] using hp)
    · rw [← h.stagingCapacity_eq]
      exact h'.fitsStaging p hnew'
  fitsBuffer p hp := by
    by_cases hsome : ∃ q, new' q ≠ []
    · obtain ⟨q, hq⟩ := hsome
      rw [← h.bufferCapacity_eq]
      exact h'.fitsBuffer q hq
    · have hnil : ∀ q, new' q = [] := fun q => Classical.not_not.1 fun hq => hsome ⟨q, hq⟩
      have hcursor : c''.cursor = c'.cursor := by
        rw [h'.cursor, hnil, hnil, List.length_nil, Nat.add_zero]
      rw [hcursor]
      exact h.fitsBuffer p (by simpa [hnil] using hp)

end StagesOn

/-! ## Polygons -/

/-- The vertices of one pass that polygons are drawn with. -/
def passVertices (ctx : DecodeContext) (ps : List (Polygon Float32)) (pass : Pass) :
    List BufferVertex :=
  (ps.filter (·.pass = pass)).flatMap (polygonVertices · ctx)

theorem passVertices_append (ctx : DecodeContext) (ps qs : List (Polygon Float32)) (pass : Pass) :
    passVertices ctx (ps ++ qs) pass = passVertices ctx ps pass ++ passVertices ctx qs pass := by
  rw [passVertices, List.filter_append, List.flatMap_append, passVertices, passVertices]

theorem passVertices_singleton (ctx : DecodeContext) (p : Polygon Float32) (pass : Pass) :
    passVertices ctx [p] pass = if p.pass = pass then polygonVertices p ctx else [] := by
  by_cases h : p.pass = pass <;> simp [passVertices, h]

theorem length_polygonVertices (p : Polygon Float32) (ctx : DecodeContext) :
    (polygonVertices p ctx).length = p.cornerCount := by
  rw [polygonVertices, List.length_map, Polygon.length_corners]

theorem length_polygonVertices_le (p : Polygon Float32) (ctx : DecodeContext) :
    (polygonVertices p ctx).length ≤ maxCorners := by
  rw [length_polygonVertices]
  exact p.cornerCount_le

/-- There is room for the largest polygon, and for at least one vertex more. -/
def HasRoomFor (c : ModelCache) (p : Pass) : Prop :=
  c.stagedCount p + maxCorners < c.stagingCapacity ∧ c.cursor + maxCorners < c.bufferCapacity

theorem overflow?_eq_none_iff {c : ModelCache} {p : Pass} :
    c.overflow? p = none ↔ c.HasRoomFor p := by
  unfold overflow? HasRoomFor
  dsimp only
  split
  · rename_i hfull
    exact iff_of_false nofun fun hroom => Nat.not_lt.2 hfull hroom.1
  · rename_i hstaging
    split
    · rename_i hfull
      exact iff_of_false nofun fun hroom => Nat.not_lt.2 hfull hroom.2
    · rename_i hbuffer
      exact iff_of_true rfl ⟨Nat.not_le.1 hstaging, Nat.not_le.1 hbuffer⟩

theorem vertices_stage (c : ModelCache) (pass q : Pass) (new : List BufferVertex) :
    ((c.stage pass new).staging.vertices.get q).toList =
      (c.staging.vertices.get q).toList ++ if pass = q then new else [] := by
  cases pass <;> cases q <;> simp [stage, Staging.push, PerPass.modify, PerPass.get]

/-- A polygon that fits is staged on top of what there is. -/
theorem stagesOn_stage {c : ModelCache} {p : Polygon Float32} (ctx : DecodeContext)
    (h : c.HasRoomFor p.pass) :
    c.StagesOn (c.stage p.pass (polygonVertices p ctx)) (passVertices ctx [p]) := by
  obtain ⟨hstaging, hbuffer⟩ := h
  have hcount := length_polygonVertices_le p ctx
  have hvertices := fun q => vertices_stage c p.pass q (polygonVertices p ctx)
  refine ⟨rfl, rfl, fun q => ?_, ?_, fun q hq => ?_, fun _ _ => ?_⟩
  · rw [passVertices_singleton]
    exact hvertices q
  · rw [passVertices_singleton, passVertices_singleton]
    cases p.pass <;> simp [stage]
  · rw [passVertices_singleton] at hq
    have hpass : p.pass = q := by
      by_cases hpass : p.pass = q
      · exact hpass
      · simp [hpass] at hq
    subst hpass
    have hlength := congrArg List.length (hvertices p.pass)
    rw [if_pos rfl, List.length_append, Array.length_toList, Array.length_toList] at hlength
    unfold stagedCount at hstaging ⊢
    omega
  · change c.cursor + (polygonVertices p ctx).length < c.bufferCapacity
    omega

/-- A polygon is staged if there is room, and nothing happens if there is none. -/
theorem insertPolygon_taken_or_refused (c : ModelCache) (h : StagingHandle) (p : Polygon Float32)
    (ctx : DecodeContext) :
    (c.accepts h = true ∧ c.HasRoomFor p.pass) ∧
        (c.insertPolygon h p ctx).value = (.ok (), c.stage p.pass (polygonVertices p ctx)) ∨
      ¬(c.accepts h = true ∧ c.HasRoomFor p.pass) ∧
        ∃ e, (c.insertPolygon h p ctx).value = (.error e, c) := by
  unfold insertPolygon
  split
  · rename_i haccepts
    cases hoverflow : c.overflow? p.pass with
    | none => exact .inl ⟨⟨haccepts, overflow?_eq_none_iff.1 hoverflow⟩, rfl⟩
    | some e =>
        refine .inr ⟨?_, e, rfl⟩
        rintro ⟨-, hroom⟩
        rw [overflow?_eq_none_iff.2 hroom] at hoverflow
        cases hoverflow
  · rename_i haccepts
    exact .inr ⟨fun hfits => haccepts hfits.1, _, rfl⟩

theorem insertPolygon_cases (c : ModelCache) (h : StagingHandle) (p : Polygon Float32)
    (ctx : DecodeContext) :
    (∃ e, (c.insertPolygon h p ctx).value = (.error e, c)) ∨
      c.accepts h = true ∧ ∃ c', (c.insertPolygon h p ctx).value = (.ok (), c') ∧
        c.StagesOn c' (passVertices ctx [p]) := by
  rcases c.insertPolygon_taken_or_refused h p ctx with ⟨⟨haccepts, hroom⟩, hvalue⟩ | ⟨-, hrefused⟩
  · exact .inr ⟨haccepts, _, hvalue, stagesOn_stage ctx hroom⟩
  · exact .inl hrefused

theorem stagesOn_keepTexture (c : ModelCache) (texture : TextureRef) :
    c.StagesOn (c.keepTexture texture) fun _ => [] := by
  unfold keepTexture
  split
  · exact .refl c
  · exact ⟨rfl, rfl, fun _ => (List.append_nil _).symm, rfl, fun _ h => absurd rfl h,
      fun _ h => absurd rfl h⟩

theorem requestTexture_cases [TextureManager τ] (c : ModelCache) (h : StagingHandle)
    (texture : TextureRef) (textures : τ) :
    (∃ e, c.requestTexture h texture textures = .error e) ∨
      c.accepts h = true ∧ ∃ c' textures', c.requestTexture h texture textures = .ok (c', textures') ∧
        Serviced textures textures' ∧ c.StagesOn c' fun _ => [] := by
  unfold requestTexture
  split
  · rename_i haccepts
    refine .inr ⟨haccepts, ?_⟩
    cases c.source with
    | dynamic => exact ⟨_, _, rfl, .decode .refl texture, .refl c⟩
    | static =>
        have hserviced := Serviced.addRef (.refl (t := textures)) texture
        dsimp only
        split <;> rename_i hadd <;> rw [hadd] at hserviced
        · exact ⟨_, _, rfl, hserviced, stagesOn_keepTexture c texture⟩
        · exact ⟨_, _, rfl, .decode hserviced texture, .refl c⟩
  · exact .inl ⟨_, rfl⟩

theorem stagePolygon_cases [TextureManager τ] (c : ModelCache) (textures : τ) (h : StagingHandle)
    (ctx : DecodeContext) (p : Polygon Float32) :
    ∃ c' textures', Serviced textures textures' ∧
      ((∃ e, (c.stagePolygon textures h ctx p).value = (.error e, c', textures')) ∧
          (c.StagesOn c' fun _ => []) ∨
        (c.stagePolygon textures h ctx p).value = (.ok (), c', textures') ∧
          c.StagesOn c' (passVertices ctx [p])) := by
  have hrequested : (∃ e, (if p.header.isTextured then
        c.requestTexture h (ctx.textureRef p.header) textures else .ok (c, textures)) = .error e) ∨
      ∃ c₁ textures₁, (if p.header.isTextured then
        c.requestTexture h (ctx.textureRef p.header) textures else .ok (c, textures)) =
          .ok (c₁, textures₁) ∧ Serviced textures textures₁ ∧ c.StagesOn c₁ fun _ => [] := by
    split
    · rcases requestTexture_cases c h (ctx.textureRef p.header) textures with he | ⟨-, h₁⟩
      · exact .inl he
      · exact .inr h₁
    · exact .inr ⟨_, _, rfl, .refl, .refl c⟩
  rcases hrequested with ⟨e, he⟩ | ⟨c₁, textures₁, h₁, hserviced, hstages⟩
  · refine ⟨c, textures, .refl, .inl ⟨⟨e, ?_⟩, .refl c⟩⟩
    unfold stagePolygon
    rw [he]
    rfl
  · have hvalue : (c.stagePolygon textures h ctx p).value =
        ((c₁.insertPolygon h p ctx).value.1, (c₁.insertPolygon h p ctx).value.2, textures₁) := by
      unfold stagePolygon
      rw [h₁]
      rfl
    rw [hvalue]
    rcases insertPolygon_cases c₁ h p ctx with ⟨e, he⟩ | ⟨-, c₂, hok, hinsert⟩
    · exact ⟨c₁, textures₁, hserviced, .inl ⟨⟨e, by rw [he]⟩, hstages⟩⟩
    · exact ⟨c₂, textures₁, hserviced, .inr ⟨by rw [hok], hstages.trans hinsert⟩⟩

/-- The polygons among what is found in a stream. -/
def polygonsOf (events : List Decoder.Event) : List (Polygon Float32) :=
  events.filterMap fun
    | .polygon p => some p
    | _ => none

/-- Staging goes on for as long as all goes well. -/
theorem stageEvents_cases [TextureManager τ] (c : ModelCache) (textures : τ) (h : StagingHandle)
    (ctx : DecodeContext) (events : List Decoder.Event) :
    ∃ c' textures' ps, Serviced textures textures' ∧ c.StagesOn c' (passVertices ctx ps) ∧
      ((∃ e, (c.stageEvents textures h ctx events).value = (.error e, c', textures')) ∨
        (c.stageEvents textures h ctx events).value = (.ok (), c', textures') ∧
          ps = polygonsOf events) := by
  induction events generalizing c textures with
  | nil => exact ⟨c, textures, [], .refl, .refl c, .inr ⟨rfl, rfl⟩⟩
  | cons event events ih =>
      cases event with
      | skipped position =>
          obtain ⟨c', textures', ps, hserviced, hstages, hvalue⟩ := ih c textures
          exact ⟨c', textures', ps, hserviced, hstages, hvalue⟩
      | truncated t => exact ⟨c, textures, [], .refl, .refl c, .inl ⟨_, rfl⟩⟩
      | polygon p =>
          obtain ⟨c₁, textures₁, hserviced₁, ⟨⟨e, he⟩, hstages₁⟩ | ⟨hok, hstages₁⟩⟩ :=
            stagePolygon_cases c textures h ctx p
          · refine ⟨c₁, textures₁, [], hserviced₁, hstages₁, .inl ⟨e, ?_⟩⟩
            rw [stageEvents, Logged.value_bind, he]
            rfl
          · have hvalue : (c.stageEvents textures h ctx (.polygon p :: events)).value =
                (c₁.stageEvents textures₁ h ctx events).value := by
              rw [stageEvents, Logged.value_bind, hok]
            obtain ⟨c', textures', ps, hserviced, hstages, hrest⟩ := ih c₁ textures₁
            refine ⟨c', textures', p :: ps, hserviced₁.trans hserviced, ?_, ?_⟩
            · have happend : passVertices ctx (p :: ps) =
                  fun pass => passVertices ctx [p] pass ++ passVertices ctx ps pass :=
                funext fun pass => passVertices_append ctx [p] ps pass
              rw [happend]
              exact hstages₁.trans hstages
            · rw [hvalue]
              rcases hrest with he | ⟨hok', hps⟩
              · exact .inl he
              · exact .inr ⟨hok', by rw [hps]; rfl⟩

/-! ## Models -/

/-- The backend after the staged vertices of both passes have been uploaded. -/
def uploaded [Backend β] (c : ModelCache) (h : StagingHandle) (backend : β) : β :=
  (Pass.all.foldlM (c.uploadPass h) backend).value

theorem endModel_cases [Backend β] (c : ModelCache) (backend : β) (h : StagingHandle)
    (index : UInt32) (offset : UInt16) :
    c.accepts h = false ∧
        (c.endModel backend h index offset).value = (.error .noModelInProgress, c, backend) ∨
      c.accepts h = true ∧ c.lut.size ≤ index.toNat ∧
        (c.endModel backend h index offset).value =
          (.error (.lutIndexOutOfRange index c.lut.size), c.abandon h, backend) ∨
      c.accepts h = true ∧ index.toNat < c.lut.size ∧
        (c.endModel backend h index offset).value =
          (.ok ⟨h.slot⟩, c.commit h index offset, c.uploaded h backend) := by
  unfold endModel
  split
  · rename_i haccepts
    split
    · rename_i hindex
      exact .inr (.inr ⟨haccepts, hindex, rfl⟩)
    · rename_i hindex
      exact .inr (.inl ⟨haccepts, Nat.not_lt.1 hindex, rfl⟩)
  · rename_i haccepts
    exact .inl ⟨Bool.eq_false_iff.2 haccepts, rfl⟩

/-- The polygons of a model. -/
def modelPolygons (ctx : DecodeContext) (words : List UInt32) : List (Polygon Float32) :=
  polygonsOf (Decoder.start words ctx.vertexFactor).events

/-- A model is refused at once, or something is staged for it. It is dropped
again if anything goes wrong, and otherwise holds all polygons of the stream. -/
theorem cacheModel_cases [Backend β] [TextureManager τ] (c : ModelCache) (host : Host β τ)
    (ctx : DecodeContext) (index : UInt32) (offset : UInt16) (words : List UInt32) :
    (∃ e, (c.cacheModel host ctx index offset words).value = (.error e, c, host)) ∨
      ∃ c' textures ps, Serviced host.textures textures ∧
        c.staging.slot = none ∧ c.models.size < c.maxModels ∧
        c.begun.StagesOn c' (passVertices ctx ps) ∧
        ((∃ e, (c.cacheModel host ctx index offset words).value =
            (.error e, c'.abandon ⟨c.models.size, c.cursor⟩, { host with textures := textures })) ∨
          ps = modelPolygons ctx words ∧ index.toNat < c.lut.size ∧
            (c.cacheModel host ctx index offset words).value =
              (.ok ⟨c.models.size⟩, c'.commit ⟨c.models.size, c.cursor⟩ index offset,
                ⟨c'.uploaded ⟨c.models.size, c.cursor⟩ host.backend, textures⟩)) := by
  rcases beginModel_cases c with ⟨e, he⟩ | ⟨hslot, hroom, hbegin⟩
  · refine .inl ⟨e, ?_⟩
    unfold cacheModel
    rw [he]
    rfl
  · obtain ⟨c', textures, ps, hserviced, hstages, hevents⟩ := stageEvents_cases c.begun
      host.textures ⟨c.models.size, c.cursor⟩ ctx (Decoder.start words ctx.vertexFactor).events
    refine .inr ⟨c', textures, ps, hserviced, hslot, hroom, hstages, ?_⟩
    have haccepts := hstages.accepts_of_begun
    have hlut : c'.lut = c.lut := hstages.lut_eq
    unfold cacheModel
    rw [hbegin]
    dsimp only
    rw [Logged.value_bind]
    rcases hevents with ⟨e, he⟩ | ⟨hok, hps⟩
    · rw [he]
      exact .inl ⟨e, rfl⟩
    · rw [hok]
      rcases endModel_cases c' host.backend ⟨c.models.size, c.cursor⟩ index offset with
        ⟨hno, -⟩ | ⟨-, -, hout⟩ | ⟨-, hin, hend⟩
      · rw [haccepts] at hno
        cases hno
      · dsimp only
        rw [Logged.value_bind, hout]
        exact .inl ⟨_, rfl⟩
      · dsimp only
        rw [Logged.value_bind, hend]
        exact .inr ⟨hps, hlut ▸ hin, rfl⟩

theorem serviced_cacheModel [Backend β] [TextureManager τ] (c : ModelCache) (host : Host β τ)
    (ctx : DecodeContext) (index : UInt32) (offset : UInt16) (words : List UInt32) :
    Serviced host.textures (c.cacheModel host ctx index offset words).value.2.2.textures := by
  rcases cacheModel_cases c host ctx index offset words with
    ⟨e, he⟩ | ⟨c', textures, ps, hserviced, -, -, -, ⟨e, he⟩ | ⟨-, -, hok⟩⟩
  · rw [he]
    exact .refl
  · rw [he]
    exact hserviced
  · rw [hok]
    exact hserviced

/-! ## Display lists -/

theorem appendModel_cases (c : ModelCache) (id : ModelId) (t : Transform) :
    (∃ e, c.appendModel id t = .error e) ∨
      ∃ m l, c.model? id = some m ∧ c.displayList.appendModel m.ranges t = .ok l ∧
        c.appendModel id t = .ok { c with displayList := l } := by
  unfold appendModel
  cases hm : c.model? id with
  | none => exact .inl ⟨_, rfl⟩
  | some m =>
      dsimp only
      cases hl : c.displayList.appendModel m.ranges t with
      | error e => exact .inl ⟨e, rfl⟩
      | ok l => exact .inr ⟨m, l, rfl, hl, rfl⟩

theorem appendViewport_cases (c : ModelCache) (v : Viewport) :
    (∃ e, c.appendViewport v = .error e) ∨
      ∃ l, c.displayList.appendViewport v = .ok l ∧
        c.appendViewport v = .ok { c with displayList := l } := by
  unfold appendViewport
  cases hl : c.displayList.appendViewport v with
  | error e => exact .inl ⟨e, rfl⟩
  | ok l => exact .inr ⟨l, rfl, rfl⟩

theorem appendModel_ok {c c' : ModelCache} {id : ModelId} {t : Transform}
    (h : c.appendModel id t = .ok c') :
    ∃ m l, c.model? id = some m ∧ c.displayList.appendModel m.ranges t = .ok l ∧
      c' = { c with displayList := l } := by
  rcases appendModel_cases c id t with ⟨e, he⟩ | ⟨m, l, hm, hl, hok⟩
  · rw [he] at h
    cases h
  · rw [hok] at h
    cases h
    exact ⟨m, l, hm, hl, rfl⟩

theorem appendViewport_ok {c c' : ModelCache} {v : Viewport} (h : c.appendViewport v = .ok c') :
    ∃ l, c.displayList.appendViewport v = .ok l ∧ c' = { c with displayList := l } := by
  rcases appendViewport_cases c v with ⟨e, he⟩ | ⟨l, hl, hok⟩
  · rw [he] at h
    cases h
  · rw [hok] at h
    cases h
    exact ⟨l, hl, rfl⟩

/-- A cached model cannot be appended only if the display list is full. -/
theorem appendModel_error {c : ModelCache} {id : ModelId} {m : CachedModel} {t : Transform}
    {e : RenderError} (hm : c.model? id = some m) (h : c.appendModel id t = .error e) :
    c.displayList.hasRoom = false ∧ e = .displayListFull := by
  unfold appendModel at h
  rw [hm] at h
  dsimp only at h
  cases hl : c.displayList.appendModel m.ranges t with
  | ok l =>
      rw [hl] at h
      cases h
  | error e' =>
      rw [hl] at h
      cases h
      exact DisplayList.appendModel_error hl

theorem appendViewport_error {c : ModelCache} {v : Viewport} {e : RenderError}
    (h : c.appendViewport v = .error e) : c.displayList.hasRoom = false ∧ e = .displayListFull := by
  unfold appendViewport at h
  cases hl : c.displayList.appendViewport v with
  | ok l =>
      rw [hl] at h
      cases h
  | error e' =>
      rw [hl] at h
      cases h
      exact DisplayList.appendViewport_error hl

theorem appendViewport_of_hasRoom {c : ModelCache} (h : c.displayList.hasRoom = true)
    (v : Viewport) : ∃ l, c.displayList.appendViewport v = .ok l ∧
      c.appendViewport v = .ok { c with displayList := l } := by
  rcases c.appendViewport_cases v with ⟨e, he⟩ | hok
  · have hfull := (appendViewport_error he).1
    rw [h] at hfull
    cases hfull
  · exact hok

theorem buffer_of_appendModel {c c' : ModelCache} {id : ModelId} {t : Transform}
    (h : c.appendModel id t = .ok c') : c'.buffer = c.buffer := by
  obtain ⟨m, l, -, -, rfl⟩ := appendModel_ok h
  rfl

theorem buffer_of_appendViewport {c c' : ModelCache} {v : Viewport}
    (h : c.appendViewport v = .ok c') : c'.buffer = c.buffer := by
  obtain ⟨l, -, rfl⟩ := appendViewport_ok h
  rfl

end ModelCache

end PolygonRenderer
