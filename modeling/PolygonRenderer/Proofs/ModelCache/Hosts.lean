import PolygonRenderer.Proofs.ModelCache.Outcomes

/-!
# Caching on two hosts

Of its host a cache learns nothing but whether a reference to a texture was taken, and
it asks for that only if its models are static. So two hosts that answer alike there
make no difference to a cache. `Respects` asks of a relation between hosts that it is
kept by whatever a cache asks of both, and the main statement is that caching a model
on related hosts answers the same, leaves the same cache behind, and related hosts.
-/

namespace PolygonRenderer

variable {β τ : Type} [Backend β] [TextureManager τ]

/-- The relation between hosts is kept by all that a cache for a source asks of both,
with uploads to one buffer only. -/
structure Respects (source : ModelSource) (buffer : BufferHandle)
    (R : Host β τ → Host β τ → Prop) : Prop where
  upload : ∀ {a b : Host β τ} (offset : Nat) (data : Array UInt8), R a b →
    R { a with backend := (Backend.upload a.backend buffer offset data).value }
      { b with backend := (Backend.upload b.backend buffer offset data).value }
  decode : ∀ {a b : Host β τ} (texture : TextureRef), R a b →
    R { a with textures := TextureManager.decode a.textures texture }
      { b with textures := TextureManager.decode b.textures texture }
  addRef : source = .static → ∀ {a b : Host β τ} (texture : TextureRef), R a b →
    (TextureManager.addRef b.textures texture).1 = (TextureManager.addRef a.textures texture).1 ∧
      R { a with textures := (TextureManager.addRef a.textures texture).2 }
        { b with textures := (TextureManager.addRef b.textures texture).2 }

/-- A property of hosts that a cache does not break is a relation of each host to itself. -/
theorem respects_of_kept {source : ModelSource} {buffer : BufferHandle} {P : Host β τ → Prop}
    (hupload : ∀ {a : Host β τ} (offset : Nat) (data : Array UInt8), P a →
      P { a with backend := (Backend.upload a.backend buffer offset data).value })
    (hdecode : ∀ {a : Host β τ} (texture : TextureRef), P a →
      P { a with textures := TextureManager.decode a.textures texture })
    (haddRef : source = .static → ∀ {a : Host β τ} (texture : TextureRef), P a →
      P { a with textures := (TextureManager.addRef a.textures texture).2 }) :
    Respects source buffer fun a b : Host β τ => a = b ∧ P a where
  upload offset data h := by
    obtain ⟨rfl, ha⟩ := h
    exact ⟨rfl, hupload offset data ha⟩
  decode texture h := by
    obtain ⟨rfl, ha⟩ := h
    exact ⟨rfl, hdecode texture ha⟩
  addRef hsource _ _ texture h := by
    obtain ⟨rfl, ha⟩ := h
    exact ⟨rfl, rfl, haddRef hsource texture ha⟩

namespace ModelCache

/-- The cache is for a source, and has a buffer. -/
structure Belongs (source : ModelSource) (buffer : BufferHandle) (c : ModelCache) : Prop where
  source : c.source = source
  buffer : c.buffer = buffer

variable {source : ModelSource} {buffer : BufferHandle} {c : ModelCache}

theorem Belongs.of_stagesOn {c' : ModelCache} {new : Pass → List BufferVertex}
    (h : c.Belongs source buffer) (hstages : c.StagesOn c' new) : c'.Belongs source buffer := by
  rw [hstages.eq]
  exact ⟨h.source, h.buffer⟩

theorem Belongs.abandon (h : c.Belongs source buffer) (handle : StagingHandle) :
    (c.abandon handle).Belongs source buffer := by
  unfold ModelCache.abandon
  split <;> exact ⟨h.source, h.buffer⟩

theorem Belongs.insertPolygon (h : c.Belongs source buffer) (handle : StagingHandle)
    (p : Polygon Float32) (ctx : DecodeContext) :
    (c.insertPolygon handle p ctx).value.2.Belongs source buffer := by
  rcases insertPolygon_cases c handle p ctx with ⟨e, he⟩ | ⟨-, c', hok, hstages⟩
  · rw [he]
    exact h
  · rw [hok]
    exact h.of_stagesOn hstages

theorem Belongs.cacheModel (h : c.Belongs source buffer) (host : Host β τ) (ctx : DecodeContext)
    (index : UInt32) (offset : UInt16) (words : List UInt32) :
    (c.cacheModel host ctx index offset words).value.2.1.Belongs source buffer := by
  have hbegun : c.begun.Belongs source buffer := ⟨h.source, h.buffer⟩
  rcases cacheModel_cases c host ctx index offset words with
    ⟨e, he⟩ | ⟨c', textures, ps, -, -, -, hstages, ⟨e, he⟩ | ⟨-, -, hok⟩⟩
  · rw [he]
    exact h
  · rw [he]
    exact (hbegun.of_stagesOn hstages).abandon _
  · have hstaged := hbegun.of_stagesOn hstages
    rw [hok]
    exact ⟨hstaged.source, hstaged.buffer⟩

section Related

variable {R : Host β τ → Host β τ → Prop} {b b' : β} {t t' : τ}

/-- A texture is requested with the same outcome on both hosts. -/
theorem requestTexture_respects (hR : Respects source buffer R) (hc : c.Belongs source buffer)
    (h : R ⟨b, t⟩ ⟨b', t'⟩) (handle : StagingHandle) (texture : TextureRef) :
    (∃ e, c.requestTexture handle texture t = .error e ∧
        c.requestTexture handle texture t' = .error e) ∨
      ∃ c₁ t₁ t₁', c.requestTexture handle texture t = .ok (c₁, t₁) ∧
        c.requestTexture handle texture t' = .ok (c₁, t₁') ∧ c₁.Belongs source buffer ∧
        R ⟨b, t₁⟩ ⟨b', t₁'⟩ := by
  unfold requestTexture
  split
  · refine .inr ?_
    cases hsource : c.source with
    | dynamic => exact ⟨_, _, _, rfl, rfl, hc, hR.decode texture h⟩
    | static =>
        obtain ⟨hsame, hadded⟩ := hR.addRef (hc.source.symm.trans hsource) texture h
        dsimp only at hsame hadded ⊢
        rcases hadd : TextureManager.addRef t texture with ⟨taken, t₁⟩
        rcases hadd' : TextureManager.addRef t' texture with ⟨taken', t₁'⟩
        rw [hadd, hadd'] at hsame hadded
        cases hsame
        cases taken with
        | true =>
            exact ⟨_, _, _, rfl, rfl, hc.of_stagesOn (stagesOn_keepTexture c texture), hadded⟩
        | false => exact ⟨_, _, _, rfl, rfl, hc, hR.decode texture hadded⟩
  · exact .inl ⟨_, rfl, rfl⟩

theorem stagePolygon_respects (hR : Respects source buffer R) (hc : c.Belongs source buffer)
    (h : R ⟨b, t⟩ ⟨b', t'⟩) (handle : StagingHandle) (ctx : DecodeContext) (p : Polygon Float32) :
    ∃ answer c₁ t₁ t₁', (c.stagePolygon t handle ctx p).value = (answer, c₁, t₁) ∧
      (c.stagePolygon t' handle ctx p).value = (answer, c₁, t₁') ∧ c₁.Belongs source buffer ∧
      R ⟨b, t₁⟩ ⟨b', t₁'⟩ := by
  unfold stagePolygon
  by_cases htextured : p.header.isTextured = true
  · simp only [htextured, if_true]
    rcases requestTexture_respects hR hc h handle (ctx.textureRef p.header) with
      ⟨e, he, he'⟩ | ⟨c₁, t₁, t₁', hok, hok', hc₁, h₁⟩
    · rw [he, he']
      exact ⟨_, _, _, _, rfl, rfl, hc, h⟩
    · rw [hok, hok']
      exact ⟨_, _, _, _, rfl, rfl, hc₁.insertPolygon handle p ctx, h₁⟩
  · simp only [htextured]
    exact ⟨_, _, _, _, rfl, rfl, hc.insertPolygon handle p ctx, h⟩

theorem stageEvents_respects (hR : Respects source buffer R) (hc : c.Belongs source buffer)
    (h : R ⟨b, t⟩ ⟨b', t'⟩) (handle : StagingHandle) (ctx : DecodeContext)
    (events : List Decoder.Event) :
    ∃ answer c₁ t₁ t₁', (c.stageEvents t handle ctx events).value = (answer, c₁, t₁) ∧
      (c.stageEvents t' handle ctx events).value = (answer, c₁, t₁') ∧ c₁.Belongs source buffer ∧
      R ⟨b, t₁⟩ ⟨b', t₁'⟩ := by
  induction events generalizing c t t' with
  | nil => exact ⟨_, _, _, _, rfl, rfl, hc, h⟩
  | cons event events ih =>
      cases event with
      | skipped position => exact ih hc h
      | truncated e => exact ⟨_, _, _, _, rfl, rfl, hc, h⟩
      | polygon p =>
          obtain ⟨answer, c₁, t₁, t₁', hvalue, hvalue', hc₁, h₁⟩ :=
            stagePolygon_respects hR hc h handle ctx p
          rw [stageEvents, stageEvents, Logged.value_bind, Logged.value_bind, hvalue, hvalue']
          cases answer with
          | error e => exact ⟨_, _, _, _, rfl, rfl, hc₁, h₁⟩
          | ok => exact ih hc₁ h₁

theorem uploadPass_respects (hR : Respects source buffer R) (hc : c.Belongs source buffer)
    (h : R ⟨b, t⟩ ⟨b', t'⟩) (handle : StagingHandle) (p : Pass) :
    R ⟨(c.uploadPass handle b p).value, t⟩ ⟨(c.uploadPass handle b' p).value, t'⟩ := by
  unfold uploadPass
  dsimp only
  split
  · exact h
  · rw [hc.buffer]
    exact hR.upload _ _ h

theorem endModel_respects (hR : Respects source buffer R) (hc : c.Belongs source buffer)
    (h : R ⟨b, t⟩ ⟨b', t'⟩) (handle : StagingHandle) (index : UInt32) (offset : UInt16) :
    ∃ answer c₁ b₁ b₁', (c.endModel b handle index offset).value = (answer, c₁, b₁) ∧
      (c.endModel b' handle index offset).value = (answer, c₁, b₁') ∧ c₁.Belongs source buffer ∧
      R ⟨b₁, t⟩ ⟨b₁', t'⟩ := by
  unfold endModel
  split
  · split
    · have hsolid := uploadPass_respects hR hc h handle .solid
      exact ⟨_, _, _, _, rfl, rfl, ⟨hc.source, hc.buffer⟩,
        uploadPass_respects hR hc hsolid handle .blended⟩
    · exact ⟨_, _, _, _, rfl, rfl, hc.abandon handle, h⟩
  · exact ⟨_, _, _, _, rfl, rfl, hc, h⟩

end Related

/-- A cache makes no difference between related hosts. -/
theorem cacheModel_respects {R : Host β τ → Host β τ → Prop} {host host' : Host β τ}
    (hR : Respects source buffer R) (hc : c.Belongs source buffer) (h : R host host')
    (ctx : DecodeContext) (index : UInt32) (offset : UInt16) (words : List UInt32) :
    ∃ answer c₁ host₁ host₁',
      (c.cacheModel host ctx index offset words).value = (answer, c₁, host₁) ∧
      (c.cacheModel host' ctx index offset words).value = (answer, c₁, host₁') ∧
      c₁.Belongs source buffer ∧ R host₁ host₁' := by
  unfold cacheModel
  rcases beginModel_cases c with ⟨e, he⟩ | ⟨-, -, hbegin⟩
  · rw [he]
    exact ⟨_, _, _, _, rfl, rfl, hc, h⟩
  · rw [hbegin]
    dsimp only
    have hbegun : c.begun.Belongs source buffer := ⟨hc.source, hc.buffer⟩
    obtain ⟨answer, c₁, t₁, t₁', hstaged, hstaged', hc₁, h₁⟩ :=
      stageEvents_respects hR hbegun h ⟨c.models.size, c.cursor⟩ ctx
        (Decoder.start words ctx.vertexFactor).events
    rw [Logged.value_bind, Logged.value_bind, hstaged, hstaged']
    cases answer with
    | error e => exact ⟨_, _, _, _, rfl, rfl, hc₁.abandon _, h₁⟩
    | ok =>
        obtain ⟨answer, c₂, b₂, b₂', hended, hended', hc₂, h₂⟩ :=
          endModel_respects hR hc₁ h₁ ⟨c.models.size, c.cursor⟩ index offset
        dsimp only
        rw [Logged.value_bind, Logged.value_bind, hended, hended']
        exact ⟨_, _, _, _, rfl, rfl, hc₂, h₂⟩

end ModelCache

end PolygonRenderer
