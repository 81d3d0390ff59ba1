import PolygonRenderer.Proofs.ModelCache.Outcomes

/-!
# Textures of cached models

Each textured polygon of a model asks for its texture while the model is cached. A static
cache keeps the reference if the texture log takes it. What the log refuses is decoded at
once, and so is every texture that a dynamic cache asks for. `ModelSource.Settles` says what
has become of all textures asked for so far. It needs no record of the answers: a log refuses
a reference only when it is full, and then it stays as it is, so the references that it has
in the end tell which ones it took.
-/

namespace PolygonRenderer

section Repetition

variable {α : Type} [DecidableEq α]

theorem nodup_eraseDups : (xs : List α) → xs.eraseDups.Nodup
  | [] => by simp
  | x :: xs => by
    rw [List.eraseDups_cons, List.nodup_cons]
    exact ⟨by simp, nodup_eraseDups _⟩
termination_by xs => xs.length
decreasing_by exact Nat.lt_succ_of_le (List.length_filter_le ..)

theorem eraseDups_append_singleton (xs : List α) (x : α) :
    (xs ++ [x]).eraseDups = if x ∈ xs then xs.eraseDups else xs.eraseDups ++ [x] := by
  rw [List.eraseDups_append]
  by_cases hx : x ∈ xs
  · simp [List.removeAll, hx]
  · simp [List.removeAll, hx, List.eraseDups_cons]

end Repetition

namespace TextureLog

variable {before log log' : TextureLog} {asked kept : List TextureRef}

/-- What holds of a log from the start. -/
structure IsSound (log : TextureLog) : Prop where
  nodup : log.refs.Nodup
  length_le : log.refs.length ≤ log.maxRefs

theorem isSound_empty (maxRefs : Nat) (sheets : SheetTable) : (empty maxRefs sheets).IsSound where
  nodup := .nil
  length_le := Nat.zero_le _

theorem addRef_cases (log : TextureLog) (texture : TextureRef) :
    texture ∈ log.refs ∧ log.addRef texture = (true, log) ∨
      texture ∉ log.refs ∧ log.maxRefs ≤ log.refs.length ∧ log.addRef texture = (false, log) ∨
      texture ∉ log.refs ∧ log.refs.length < log.maxRefs ∧
        log.addRef texture = (true, { log with refs := log.refs ++ [texture] }) := by
  unfold addRef
  by_cases hknown : texture ∈ log.refs
  · exact .inl ⟨hknown, if_pos hknown⟩
  · rw [if_neg hknown]
    by_cases hfull : log.maxRefs ≤ log.refs.length
    · exact .inr (.inl ⟨hknown, hfull, if_pos hfull⟩)
    · exact .inr (.inr ⟨hknown, Nat.not_le.1 hfull, if_neg hfull⟩)

theorem IsSound.addRef (h : log.IsSound) (texture : TextureRef) :
    (log.addRef texture).2.IsSound := by
  rcases log.addRef_cases texture with ⟨-, heq⟩ | ⟨-, -, heq⟩ | ⟨hnew, hroom, heq⟩
  · rw [heq]
    exact h
  · rw [heq]
    exact h
  · rw [heq]
    refine ⟨?_, ?_⟩
    · refine List.nodup_append.2 ⟨h.nodup, by simp, ?_⟩
      rintro known hknown _ hlast rfl
      rw [List.mem_singleton] at hlast
      exact hnew (hlast ▸ hknown)
    · rw [List.length_append, List.length_singleton]
      exact hroom

theorem IsSound.serviced (h : log.IsSound) (hserviced : Serviced log log') : log'.IsSound := by
  induction hserviced with
  | refl => exact h
  | addRef _ texture ih => exact ih.addRef texture
  | decode _ _ ih => exact ⟨ih.nodup, ih.length_le⟩

/-- A log forgets nothing. -/
theorem refs_prefix_of_serviced (h : Serviced log log') : log.refs <+: log'.refs := by
  induction h with
  | refl => exact List.prefix_refl _
  | decode _ _ ih => exact ih
  | @addRef log' _ texture ih =>
      change log.refs <+: (log'.addRef texture).2.refs
      rcases log'.addRef_cases texture with ⟨-, heq⟩ | ⟨-, -, heq⟩ | ⟨-, -, heq⟩
      · rw [heq]
        exact ih
      · rw [heq]
        exact ih
      · rw [heq]
        exact ih.trans (List.prefix_append ..)

theorem maxRefs_of_serviced (h : Serviced log log') : log'.maxRefs = log.maxRefs := by
  induction h with
  | refl => rfl
  | decode _ _ ih => exact ih
  | @addRef log' _ texture ih => exact (log'.maxRefs_addRef texture).trans ih

theorem foldl_decode (log : TextureLog) (textures : List TextureRef) :
    textures.foldl TextureManager.decode log =
      { log with decoded := log.decoded ++ textures } := by
  induction textures generalizing log with
  | nil => simp
  | cons texture textures ih =>
      rw [List.foldl_cons, ih]
      simp [TextureManager.decode, decode]

/-- What has become of the textures that a static cache asked for since the log was `before`,
if it has kept `kept`. -/
structure IsSettled (before log : TextureLog) (asked kept : List TextureRef) : Prop where
  /-- What the log took is kept, in order of first appearance. -/
  kept : kept = (asked.filter (· ∈ log.refs)).eraseDups
  /-- What it refused was decoded. -/
  decoded : log.decoded = before.decoded ++ asked.filter (· ∉ log.refs)
  /-- It refuses nothing before it is full. -/
  full : ∀ texture ∈ asked, texture ∉ log.refs → log.maxRefs ≤ log.refs.length

namespace IsSettled

theorem nil (log : TextureLog) : log.IsSettled log [] [] where
  kept := by simp
  decoded := by simp
  full := by simp

theorem mem_kept (h : before.IsSettled log asked kept) {texture : TextureRef} :
    texture ∈ kept ↔ texture ∈ asked ∧ texture ∈ log.refs := by
  rw [h.kept, List.mem_eraseDups, List.mem_filter, decide_eq_true_eq]

theorem nodup (h : before.IsSettled log asked kept) : kept.Nodup := by
  rw [h.kept]
  exact nodup_eraseDups _

/-- A texture that is asked for is kept, or it was decoded. -/
theorem kept_or_decoded (h : before.IsSettled log asked kept) :
    ∃ new, log.decoded = before.decoded ++ new ∧
      ∀ texture ∈ asked, texture ∈ kept ∧ texture ∈ log.refs ∨ texture ∈ new := by
  refine ⟨_, h.decoded, ?_⟩
  intro texture hasked
  by_cases htaken : texture ∈ log.refs
  · exact .inl ⟨h.mem_kept.2 ⟨hasked, htaken⟩, htaken⟩
  · exact .inr (List.mem_filter.2 ⟨hasked, decide_eq_true htaken⟩)

/-- A reference that the log knows already. -/
theorem known (h : before.IsSettled log asked kept) {texture : TextureRef}
    (hknown : texture ∈ log.refs) :
    before.IsSettled log (asked ++ [texture])
      (if texture ∈ kept then kept else kept ++ [texture]) where
  kept := by
    have hkept : texture ∈ kept ↔ texture ∈ asked.filter (· ∈ log.refs) := by
      rw [h.kept, List.mem_eraseDups]
    have hlast : [texture].filter (· ∈ log.refs) = [texture] := by simp [hknown]
    rw [List.filter_append, hlast, eraseDups_append_singleton, ← h.kept]
    simp only [hkept]
  decoded := by simp [h.decoded, hknown]
  full := by
    intro other hother hnew
    rcases List.mem_append.1 hother with hasked | hlast
    · exact h.full other hasked hnew
    · rw [List.mem_singleton] at hlast
      exact absurd (hlast ▸ hknown) hnew

/-- A reference that the log refuses is decoded. -/
theorem refused (h : before.IsSettled log asked kept) {texture : TextureRef}
    (hnew : texture ∉ log.refs) (hfull : log.maxRefs ≤ log.refs.length) :
    before.IsSettled (log.decode texture) (asked ++ [texture]) kept where
  kept := by
    change kept = ((asked ++ [texture]).filter (· ∈ log.refs)).eraseDups
    have hlast : [texture].filter (· ∈ log.refs) = [] := by simp [hnew]
    rw [List.filter_append, hlast, List.append_nil]
    exact h.kept
  decoded := by
    change log.decoded ++ [texture] = before.decoded ++ (asked ++ [texture]).filter (· ∉ log.refs)
    have hlast : [texture].filter (· ∉ log.refs) = [texture] := by simp [hnew]
    rw [List.filter_append, hlast, h.decoded, List.append_assoc]
  full _ _ _ := hfull

/-- A log with room left has taken all that was asked for before. -/
theorem taken (h : before.IsSettled log asked kept) {texture : TextureRef}
    (hroom : log.refs.length < log.maxRefs) :
    before.IsSettled { log with refs := log.refs ++ [texture] } asked kept := by
  have htaken : ∀ other ∈ asked, other ∈ log.refs := by
    intro other hother
    by_cases hknown : other ∈ log.refs
    · exact hknown
    · exact absurd (h.full other hother hknown) (Nat.not_le.2 hroom)
  have hsame : ∀ other ∈ asked, other ∈ log.refs ++ [texture] ↔ other ∈ log.refs := by
    intro other hother
    simp [htaken other hother]
  refine ⟨?_, ?_, ?_⟩
  · rw [h.kept, List.filter_congr fun other hother => decide_eq_decide.2 (hsame other hother)]
  · rw [h.decoded, List.filter_congr fun other hother =>
      decide_eq_decide.2 (not_congr (hsame other hother))]
  · intro other hother hnew
    exact absurd ((hsame other hother).2 (htaken other hother)) hnew

end IsSettled

end TextureLog

/-- What has become of the textures that a cache asked for since the log was `before`, if it
has kept `kept`: a dynamic cache keeps none, and all are decoded in order. -/
def ModelSource.Settles (source : ModelSource) (before log : TextureLog)
    (asked kept : List TextureRef) : Prop :=
  match source with
  | .static => before.IsSettled log asked kept
  | .dynamic => kept = [] ∧ log = { before with decoded := before.decoded ++ asked }

theorem ModelSource.settles_nil (source : ModelSource) (log : TextureLog) :
    source.Settles log log [] [] := by
  cases source with
  | static => exact .nil log
  | dynamic => exact ⟨rfl, by rw [List.append_nil]⟩

namespace ModelCache

variable {c c' : ModelCache} {before log log' : TextureLog} {asked : List TextureRef}

/-- The cache has asked for these textures for the model that is being staged. -/
def HasAsked (c : ModelCache) (before log : TextureLog) (asked : List TextureRef) : Prop :=
  c.source.Settles before log asked c.staging.textures

/-- The textures that the polygons of a model ask for, in order. -/
def texturesOf (ctx : DecodeContext) (ps : List (Polygon Float32)) : List TextureRef :=
  (ps.filter (·.header.isTextured)).map (ctx.textureRef ·.header)

theorem source_keepTexture (c : ModelCache) (texture : TextureRef) :
    (c.keepTexture texture).source = c.source := by
  unfold keepTexture
  split <;> rfl

theorem textures_keepTexture (c : ModelCache) (texture : TextureRef) :
    (c.keepTexture texture).staging.textures =
      if texture ∈ c.staging.textures then c.staging.textures
      else c.staging.textures ++ [texture] := by
  unfold keepTexture
  split <;> rfl

/-- A texture that is asked for is one more. -/
theorem HasAsked.requestTexture (h : c.HasAsked before log asked) {handle : StagingHandle}
    {texture : TextureRef} (hok : c.requestTexture handle texture log = .ok (c', log')) :
    c'.source = c.source ∧ c'.HasAsked before log' (asked ++ [texture]) := by
  unfold HasAsked at h ⊢
  unfold ModelCache.requestTexture at hok
  split at hok
  · cases hsource : c.source with
    | dynamic =>
        rw [hsource] at hok h
        cases hok
        obtain ⟨hkept, hlog⟩ := h
        rw [hsource]
        refine ⟨rfl, hkept, ?_⟩
        simp [TextureManager.decode, TextureLog.decode, hlog]
    | static =>
        rw [hsource] at hok h
        have hmanager : TextureManager.addRef log texture = log.addRef texture := rfl
        rw [hmanager] at hok
        rcases log.addRef_cases texture with ⟨hknown, hadd⟩ | ⟨hnew, hfull, hadd⟩ | ⟨-, hroom, hadd⟩
        · rw [hadd] at hok
          cases hok
          rw [source_keepTexture, textures_keepTexture, hsource]
          exact ⟨rfl, TextureLog.IsSettled.known h hknown⟩
        · rw [hadd] at hok
          cases hok
          rw [hsource]
          exact ⟨rfl, TextureLog.IsSettled.refused h hnew hfull⟩
        · rw [hadd] at hok
          cases hok
          rw [source_keepTexture, textures_keepTexture, hsource]
          exact ⟨rfl, (TextureLog.IsSettled.taken h hroom).known (by simp)⟩
  · cases hok

theorem texturesOf_append (ctx : DecodeContext) (ps qs : List (Polygon Float32)) :
    texturesOf ctx (ps ++ qs) = texturesOf ctx ps ++ texturesOf ctx qs := by
  simp [texturesOf]

/-- A polygon asks for nothing once it is inserted. -/
theorem HasAsked.insertPolygon (h : c.HasAsked before log asked) (handle : StagingHandle)
    (p : Polygon Float32) (ctx : DecodeContext) :
    (c.insertPolygon handle p ctx).value.2.source = c.source ∧
      (c.insertPolygon handle p ctx).value.2.HasAsked before log asked := by
  rcases c.insertPolygon_taken_or_refused handle p ctx with ⟨-, hvalue⟩ | ⟨-, e, hvalue⟩
  · rw [hvalue]
    exact ⟨rfl, h⟩
  · rw [hvalue]
    exact ⟨rfl, h⟩

theorem HasAsked.stagePolygon (h : c.HasAsked before log asked) {handle : StagingHandle}
    {ctx : DecodeContext} {p : Polygon Float32} {answer : Except RenderError Unit}
    (hvalue : (c.stagePolygon log handle ctx p).value = (answer, c', log')) :
    c'.source = c.source ∧ ∃ new, c'.HasAsked before log' (asked ++ new) ∧
      (answer = .ok () → new = texturesOf ctx [p]) := by
  unfold ModelCache.stagePolygon at hvalue
  by_cases htextured : p.header.isTextured = true
  · rw [if_pos htextured] at hvalue
    cases hrequest : c.requestTexture handle (ctx.textureRef p.header) log with
    | error e =>
        rw [hrequest] at hvalue
        cases hvalue
        exact ⟨rfl, [], by rwa [List.append_nil], by rintro ⟨⟩⟩
    | ok requested =>
        obtain ⟨c₁, log₁⟩ := requested
        obtain ⟨hsource, hasked⟩ := h.requestTexture hrequest
        obtain ⟨hsource', hasked'⟩ := hasked.insertPolygon handle p ctx
        rw [hrequest] at hvalue
        cases hvalue
        refine ⟨hsource'.trans hsource, _, hasked', ?_⟩
        simp [texturesOf, htextured]
  · obtain ⟨hsource, hasked⟩ := h.insertPolygon handle p ctx
    rw [if_neg htextured] at hvalue
    cases hvalue
    refine ⟨hsource, [], by rwa [List.append_nil], ?_⟩
    simp [texturesOf, htextured]

/-- The textures of all polygons are asked for if all goes well. -/
theorem HasAsked.stageEvents (h : c.HasAsked before log asked) {handle : StagingHandle}
    {ctx : DecodeContext} {events : List Decoder.Event} {answer : Except RenderError Unit}
    (hvalue : (c.stageEvents log handle ctx events).value = (answer, c', log')) :
    c'.source = c.source ∧ ∃ new, c'.HasAsked before log' (asked ++ new) ∧
      (answer = .ok () → new = texturesOf ctx (polygonsOf events)) := by
  induction events generalizing c log asked with
  | nil =>
      cases hvalue
      exact ⟨rfl, [], by rwa [List.append_nil], fun _ => rfl⟩
  | cons event events ih =>
      cases event with
      | skipped position => exact ih h hvalue
      | truncated t =>
          cases hvalue
          exact ⟨rfl, [], by rwa [List.append_nil], by rintro ⟨⟩⟩
      | polygon p =>
          rw [ModelCache.stageEvents, Logged.value_bind] at hvalue
          rcases hstage : (c.stagePolygon log handle ctx p).value with ⟨answer₁, c₁, log₁⟩
          obtain ⟨hsource, first, hasked, hfirst⟩ := h.stagePolygon hstage
          rw [hstage] at hvalue
          cases answer₁ with
          | error e =>
              cases hvalue
              exact ⟨hsource, first, hasked, by rintro ⟨⟩⟩
          | ok =>
              obtain ⟨hsource', rest, hasked', hrest⟩ := ih hasked hvalue
              refine ⟨hsource'.trans hsource, first ++ rest, ?_, ?_⟩
              · rw [← List.append_assoc]
                exact hasked'
              · intro hok
                have hpolygons : polygonsOf (.polygon p :: events) = [p] ++ polygonsOf events := rfl
                rw [hfirst rfl, hrest hok, hpolygons, texturesOf_append]

variable {β : Type} [Backend β] {host host' : Host β TextureLog} {ctx : DecodeContext}
  {index : UInt32} {offset : UInt16} {words : List UInt32} {answer : Except RenderError ModelId}

/-- What a model asks for is settled whether or not it enters the cache. If it enters, it has
asked for the textures of all its polygons, and has those that were kept. -/
theorem settles_cacheModel
    (h : (c.cacheModel host ctx index offset words).value = (answer, c', host')) :
    c'.source = c.source ∧ ∃ asked kept,
      c.source.Settles host.textures host'.textures asked kept ∧
        ((∃ e, answer = .error e) ∧ c'.models = c.models ∨
          answer = .ok ⟨c.models.size⟩ ∧ asked = texturesOf ctx (modelPolygons ctx words) ∧
            ∃ m, c'.models = c.models.push m ∧ m.textures = kept) := by
  unfold cacheModel at h
  rcases c.beginModel_cases with ⟨e, he⟩ | ⟨-, -, hbegin⟩
  · rw [he] at h
    cases h
    exact ⟨rfl, [], [], c.source.settles_nil host.textures, .inl ⟨⟨e, rfl⟩, rfl⟩⟩
  · rw [hbegin] at h
    dsimp only at h
    rw [Logged.value_bind] at h
    rcases hstage : (c.begun.stageEvents host.textures ⟨c.models.size, c.cursor⟩ ctx
      (Decoder.start words ctx.vertexFactor).events).value with ⟨staged, c₁, log⟩
    have hbegun : c.begun.HasAsked host.textures host.textures [] := c.source.settles_nil _
    obtain ⟨hsource, asked, hasked, hall⟩ := hbegun.stageEvents hstage
    rw [hstage] at h
    have hsource : c₁.source = c.source := hsource
    have hsettles : c.source.Settles host.textures log asked c₁.staging.textures := hsource ▸ hasked
    have hmodels : c₁.models = c.models := by
      obtain ⟨c₂, log₂, ps, -, hstages, ⟨e, hvalue⟩ | ⟨hvalue, -⟩⟩ := stageEvents_cases c.begun
        host.textures ⟨c.models.size, c.cursor⟩ ctx (Decoder.start words ctx.vertexFactor).events
      · rw [hstage] at hvalue
        cases hvalue
        exact hstages.models_eq
      · rw [hstage] at hvalue
        cases hvalue
        exact hstages.models_eq
    cases staged with
    | error e =>
        cases h
        refine ⟨?_, asked, _, hsettles, .inl ⟨⟨e, rfl⟩, ?_⟩⟩
        · rw [source_abandon, hsource]
        · rw [models_abandon, hmodels]
    | ok =>
        dsimp only at h
        rw [Logged.value_bind] at h
        rcases c₁.endModel_cases host.backend ⟨c.models.size, c.cursor⟩ index offset with
          ⟨-, hend⟩ | ⟨-, -, hend⟩ | ⟨-, -, hend⟩
        · rw [hend] at h
          cases h
          exact ⟨hsource, asked, _, hsettles, .inl ⟨⟨_, rfl⟩, hmodels⟩⟩
        · rw [hend] at h
          cases h
          refine ⟨?_, asked, _, hsettles, .inl ⟨⟨_, rfl⟩, ?_⟩⟩
          · rw [source_abandon, hsource]
          · rw [models_abandon, hmodels]
        · rw [hend] at h
          cases h
          refine ⟨hsource, asked, _, hsettles, .inr ⟨rfl, hall rfl, ?_⟩⟩
          rw [← hmodels]
          exact ⟨_, rfl, rfl⟩

/-- A dynamic cache leaves the references of the log alone, also where it takes no model. -/
theorem refs_of_cacheModel (hsource : c.source = .dynamic)
    (h : (c.cacheModel host ctx index offset words).value = (answer, c', host')) :
    host'.textures.refs = host.textures.refs := by
  obtain ⟨-, asked, kept, hsettles, -⟩ := settles_cacheModel h
  rw [hsource] at hsettles
  obtain ⟨-, hlog⟩ := hsettles
  rw [hlog]

end ModelCache

end PolygonRenderer
