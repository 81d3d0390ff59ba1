import PolygonRenderer.Proofs.ModelCache.Caching

/-!
# The count of polygons

A cache counts the polygons that it is ever given. A model that enters it adds all those
of its stream to the count.
-/

namespace PolygonRenderer

namespace ModelCache

section Staging

variable {τ : Type} [TextureManager τ] {c c' : ModelCache}

theorem polygonsInserted_keepTexture (c : ModelCache) (texture : TextureRef) :
    (c.keepTexture texture).polygonsInserted = c.polygonsInserted := by
  unfold keepTexture
  split <;> rfl

theorem polygonsInserted_requestTexture {h : StagingHandle} {texture : TextureRef}
    {textures textures' : τ}
    (hok : c.requestTexture h texture textures = .ok (c', textures')) :
    c'.polygonsInserted = c.polygonsInserted := by
  unfold requestTexture at hok
  split at hok
  · split at hok
    · cases hok
      rfl
    · split at hok
      · cases hok
        exact c.polygonsInserted_keepTexture texture
      · cases hok
        rfl
  · cases hok

theorem polygonsInserted_insertPolygon {h : StagingHandle} {p : Polygon Float32}
    {ctx : DecodeContext} (hok : (c.insertPolygon h p ctx).value = (.ok (), c')) :
    c'.polygonsInserted = c.polygonsInserted + 1 := by
  unfold insertPolygon at hok
  split at hok
  · split at hok
    · cases hok
    · cases hok
      rfl
  · cases hok

theorem polygonsInserted_stagePolygon {h : StagingHandle} {ctx : DecodeContext}
    {p : Polygon Float32} {textures textures' : τ}
    (hok : (c.stagePolygon textures h ctx p).value = (.ok (), c', textures')) :
    c'.polygonsInserted = c.polygonsInserted + 1 := by
  have hinserted : ∀ (c₁ : ModelCache) (textures₁ : τ), c₁.polygonsInserted = c.polygonsInserted →
      ((c₁.insertPolygon h p ctx).value.1, (c₁.insertPolygon h p ctx).value.2, textures₁) =
        (.ok (), c', textures') → c'.polygonsInserted = c.polygonsInserted + 1 := by
    intro c₁ textures₁ hsame hvalue
    rw [Prod.mk.injEq, Prod.mk.injEq] at hvalue
    rw [← hsame]
    exact polygonsInserted_insertPolygon (Prod.ext hvalue.1 hvalue.2.1)
  unfold stagePolygon at hok
  split at hok
  · cases hrequest : c.requestTexture h (ctx.textureRef p.header) textures with
    | error e =>
        rw [hrequest] at hok
        cases hok
    | ok requested =>
        rw [hrequest] at hok
        exact hinserted _ _ (polygonsInserted_requestTexture hrequest) hok
  · exact hinserted c textures rfl hok

theorem polygonsInserted_stageEvents {h : StagingHandle} {ctx : DecodeContext}
    {events : List Decoder.Event} {textures textures' : τ}
    (hok : (c.stageEvents textures h ctx events).value = (.ok (), c', textures')) :
    c'.polygonsInserted = c.polygonsInserted + (polygonsOf events).length := by
  induction events generalizing c textures with
  | nil =>
      cases hok
      rfl
  | cons event events ih =>
      cases event with
      | skipped position => exact ih hok
      | truncated t => cases hok
      | polygon p =>
          rw [stageEvents, Logged.value_bind] at hok
          rcases hstage : (c.stagePolygon textures h ctx p).value with ⟨answer, c₁, textures₁⟩
          rw [hstage] at hok
          cases answer with
          | error e => cases hok
          | ok =>
              have hpolygons : polygonsOf (.polygon p :: events) = p :: polygonsOf events := rfl
              rw [ih hok, polygonsInserted_stagePolygon hstage, hpolygons, List.length_cons]
              omega

end Staging

theorem polygonsInserted_cacheModel {β τ : Type} [Backend β] [TextureManager τ]
    {c c' : ModelCache} {host host' : Host β τ} {ctx : DecodeContext} {index : UInt32}
    {offset : UInt16} {words : List UInt32} {id : ModelId}
    (h : (c.cacheModel host ctx index offset words).value = (.ok id, c', host')) :
    c'.polygonsInserted = c.polygonsInserted + (modelPolygons ctx words).length := by
  unfold cacheModel at h
  rcases beginModel_cases c with ⟨e, he⟩ | ⟨-, -, hbegin⟩
  · rw [he] at h
    cases h
  · rw [hbegin] at h
    dsimp only at h
    rw [Logged.value_bind] at h
    rcases hstage : (c.begun.stageEvents host.textures ⟨c.models.size, c.cursor⟩ ctx
      (Decoder.start words ctx.vertexFactor).events).value with ⟨answer, c₁, textures⟩
    rw [hstage] at h
    cases answer with
    | error e => cases h
    | ok =>
        dsimp only at h
        rw [Logged.value_bind] at h
        have hstaged := polygonsInserted_stageEvents hstage
        rcases endModel_cases c₁ host.backend ⟨c.models.size, c.cursor⟩ index offset with
          ⟨-, hend⟩ | ⟨-, -, hend⟩ | ⟨-, -, hend⟩
        · rw [hend] at h
          cases h
        · rw [hend] at h
          cases h
        · rw [hend] at h
          cases h
          exact hstaged

end ModelCache

end PolygonRenderer
