import PolygonRenderer.Proofs.DisplayList.Viewports
import PolygonRenderer.Proofs.Renderer.Retry

/-!
# Viewports of a frame

A viewport that is set goes to all four display lists, and a cache that is cleared in
the middle of a frame has it appended again. So each instance is drawn under the
viewport that was in force when it was asked for, whatever was set, refused or cleared
before and after.

A client can tell the viewport in force from the answers alone, and `FrameHistory`
does: it notes the viewport that was accepted last, and for each source the draws
since its cache was last cleared.
-/

namespace PolygonRenderer

/-- A draw that succeeded, with the viewport in force at the time. -/
structure Placement where
  viewport : Option Viewport
  transform : Transform
  id : ModelId

namespace Placement

/-- The instance that a draw leaves in the list of a pass, if its model has vertices
there. -/
def instance? (d : Placement) (c : ModelCache) (p : Pass) :
    Option (Option Viewport × ModelInstance) :=
  (c.model? d.id).bind fun m =>
    if (m.ranges.get p).count = 0 then none
    else some (d.viewport, ⟨m.ranges.get p, d.transform.modelView,
      Winding.ofTransform d.transform.modelView d.transform.zSign⟩)

/-- What the backend has to draw for it, and in which state. -/
def draw? (d : Placement) (c : ModelCache) (p : Pass) : Option (PipelineState × VertexRange) :=
  (d.instance? c p).bind fun e => e.2.drawUnder? c.buffer p e.1

theorem instance?_congr (d : Placement) {c c' : ModelCache} (h : c'.model? d.id = c.model? d.id)
    (p : Pass) : d.instance? c' p = d.instance? c p := by
  rw [instance?, h, instance?]

end Placement

/-- The instances in both lists of a cache are those of the draws, each behind its
viewport. The viewport comes last of all viewports, and it would fit again. -/
structure Places (viewport : Option Viewport) (live : List Placement) (c : ModelCache) : Prop where
  threaded : c.displayList.IsLinked
  fits : viewport.isSome = true → DisplayList.nodesPerAppend ≤ c.displayList.capacity
  current : ∀ p, DisplayList.viewportAfter none (c.displayList.contents p) = viewport
  known : ∀ d ∈ live, (c.model? d.id).isSome = true
  instances : ∀ p, DisplayList.instancesUnder none (c.displayList.contents p) =
    live.filterMap (·.instance? c p)

namespace Places

variable {viewport : Option Viewport} {live : List Placement} {c c' : ModelCache}

theorem of_empty {capacity : Nat} (h : c.displayList = .empty capacity) : Places none [] c := by
  have hcontents : ∀ p, c.displayList.contents p = [] := by
    intro p
    rw [h, DisplayList.contents_empty]
  refine ⟨h ▸ DisplayList.isLinked_empty capacity, ?_, ?_, List.forall_mem_nil _, ?_⟩
  · intro hsome
    cases hsome
  · intro p
    rw [hcontents]
    rfl
  · intro p
    rw [hcontents]
    rfl

theorem cleared (c : ModelCache) : Places none [] c.cleared :=
  of_empty rfl

/-- A viewport that is accepted is in force for what follows, and for nothing else. -/
theorem appendViewport (h : Places viewport live c) {v : Viewport}
    (happend : c.appendViewport v = .ok c') : Places (some v) live c' := by
  obtain ⟨l, hl, rfl⟩ := ModelCache.appendViewport_ok happend
  obtain ⟨hthreaded, hcontents⟩ := h.threaded.appendViewport hl
  refine ⟨hthreaded, ?_, ?_, h.known, ?_⟩
  · intro _
    rw [DisplayList.capacity_appendViewport hl]
    exact DisplayList.nodesPerAppend_le_of_appendViewport hl
  · intro p
    rw [hcontents, DisplayList.viewportAfter_append]
    rfl
  · intro p
    rw [hcontents, DisplayList.instancesUnder_append, h.instances p]
    exact List.append_nil _

/-- An instance goes behind the viewport in force. -/
theorem appendModel (h : Places viewport live c) {id : ModelId} {t : Transform}
    (happend : c.appendModel id t = .ok c') : Places viewport (live ++ [⟨viewport, t, id⟩]) c' := by
  obtain ⟨m, l, hm, hl, rfl⟩ := ModelCache.appendModel_ok happend
  obtain ⟨hthreaded, hcontents⟩ := h.threaded.appendModel hl
  have hcapacity : l.capacity = c.displayList.capacity := DisplayList.capacity_appendModel hl
  refine ⟨hthreaded, fun hsome => hcapacity ▸ h.fits hsome, ?_, ?_, ?_⟩
  · intro p
    rw [hcontents, DisplayList.viewportAfter_append, h.current]
    split <;> rfl
  · intro d hd
    rcases List.mem_append.1 hd with hd | hd
    · exact h.known d hd
    · cases List.mem_singleton.1 hd
      exact Option.isSome_of_eq_some hm
  · intro p
    have hlive : live.filterMap (·.instance? { c with displayList := l } p) =
        live.filterMap (·.instance? c p) := rfl
    have hnew : Placement.instance? ⟨viewport, t, id⟩ { c with displayList := l } p =
        if (m.ranges.get p).count = 0 then none
        else some (viewport, ⟨m.ranges.get p, t.modelView,
          Winding.ofTransform t.modelView t.zSign⟩) := by
      rw [Placement.instance?, show ({ c with displayList := l } : ModelCache).model? id = some m
        from hm]
      rfl
    rw [hcontents, DisplayList.instancesUnder_append, h.current, h.instances,
      List.filterMap_append, hlive]
    congr 1
    by_cases hcount : (m.ranges.get p).count = 0
    · simp [hnew, hcount, DisplayList.instancesUnder]
    · simp [hnew, hcount, DisplayList.instancesUnder]

/-- The viewport is put back after a clear, for which there is always room. -/
theorem makeRoom {β τ : Type} {x y : Drawing β τ} (h : Places viewport live x.cache)
    {source : ModelSource} {answer : Except RenderError Unit}
    (hvalue : (x.makeRoom source viewport).value = (answer, y)) : Places viewport [] y.cache := by
  have hcleared := cleared x.cache
  rcases x.makeRoom_cases source viewport with
    ⟨v, e, rfl, happend, -⟩ | ⟨rfl, hnone⟩ | ⟨v, c, rfl, happend, hsome⟩
  · -- the viewport was accepted by a list of this capacity, which is now empty
    have hfull := of_decide_eq_false (ModelCache.appendViewport_error happend).1
    have hlength : x.cache.cleared.displayList.length = 0 := rfl
    rw [hlength, Nat.zero_add] at hfull
    exact absurd (h.fits rfl) hfull
  · rw [hnone] at hvalue
    cases hvalue
    exact hcleared
  · rw [hsome] at hvalue
    cases hvalue
    exact hcleared.appendViewport happend

variable {β τ : Type} [Backend β] [TextureManager τ]

theorem cacheModel (h : Places viewport live c) {host host' : Host β τ} {ctx : DecodeContext}
    {index : UInt32} {offset : UInt16} {words : List UInt32} {answer : Except RenderError ModelId}
    (hvalue : (c.cacheModel host ctx index offset words).value = (answer, c', host')) :
    Places viewport live c' := by
  obtain ⟨hdisplay, -, -, hmodels⟩ := ModelCache.cacheModel_keeps hvalue
  have hsame : ∀ d ∈ live, c'.model? d.id = c.model? d.id := by
    intro d hd
    obtain ⟨m, hm⟩ := Option.isSome_iff_exists.1 (h.known d hd)
    rw [hmodels d.id m hm, hm]
  refine ⟨hdisplay ▸ h.threaded, hdisplay ▸ h.fits, hdisplay ▸ h.current, ?_, ?_⟩
  · intro d hd
    rw [hsame d hd]
    exact h.known d hd
  · intro p
    rw [hdisplay, h.instances]
    exact (List.filterMap_congr fun d hd => d.instance?_congr (hsame d hd) p).symm

theorem keeps (β τ : Type) [Backend β] [TextureManager τ] (viewport : Option Viewport)
    (ctx : DecodeContext) (q : ModelRequest) (t : Transform) :
    Drawing.Keeps β τ (Places viewport) (Placement.mk viewport t) viewport ctx q t where
  cacheModel h hvalue := h.cacheModel hvalue
  appendModel h happend := h.appendModel happend
  makeRoom h hvalue := h.makeRoom hvalue

end Places

/-- What can be told of a frame from the answers and the counters of a renderer. -/
structure FrameHistory where
  /-- The viewport that was accepted last. -/
  viewport : Option Viewport
  /-- The draws of each source since its cache was last cleared, in order. -/
  live : ModelSource → List Placement

namespace FrameHistory

variable {β τ : Type} [Backend β] [TextureManager τ]

def start : FrameHistory :=
  ⟨none, fun _ => []⟩

/-- Take note of a call. -/
def note (k : FrameHistory) (r : Renderer) : RendererCall β τ → FrameHistory
  | .beginFrame => start
  | .setViewport v =>
    match (r.setViewport v).value.1 with
    | .ok () => { k with viewport := some v }
    | .error _ => k
  | .drawModel host q t =>
    let (answer, r', _) := (r.drawModel host q t).value
    { k with live := fun source =>
        if source = q.source then
          (if r'.stats.clears source = r.stats.clears source then k.live source else []) ++
            Drawing.noted (Placement.mk k.viewport t) answer
        else k.live source }

def after (k : FrameHistory) (r : Renderer) : List (RendererCall β τ) → FrameHistory
  | [] => k
  | call :: calls => after (k.note r call) (r.step call) calls

/-- No model is drawn before a viewport has been accepted in the frame. -/
def IsPrepared (k : FrameHistory) (r : Renderer) : List (RendererCall β τ) → Prop
  | [] => True
  | call :: calls =>
    (∀ host q t, call = .drawModel host q t → k.viewport.isSome = true) ∧
      IsPrepared (k.note r call) (r.step call) calls

/-- Once a viewport has been accepted, there is one for the rest of the frame. -/
theorem isPrepared_of_isSome {k : FrameHistory} (hviewport : k.viewport.isSome = true)
    (r : Renderer) {calls : List (RendererCall β τ)} (hframe : .beginFrame ∉ calls) :
    k.IsPrepared r calls := by
  induction calls generalizing k r with
  | nil => trivial
  | cons call calls ih =>
      rw [List.mem_cons, not_or] at hframe
      refine ⟨fun _ _ _ _ => hviewport, ih ?_ _ hframe.2⟩
      cases call with
      | beginFrame => exact absurd rfl hframe.1
      | setViewport v =>
          simp only [note]
          split
          · rfl
          · exact hviewport
      | drawModel host q t => exact hviewport

/-- Both caches place what the history tells, and the renderer goes on with the same
viewport. -/
structure IsTrueOf (k : FrameHistory) (r : Renderer) : Prop where
  viewport : r.viewport = k.viewport
  places : ∀ source, Places k.viewport (k.live source) (r.cache source)
  prepared : ∀ source, ∀ d ∈ k.live source, d.viewport.isSome = true

theorem isTrueOf_beginFrame (r : Renderer) : start.IsTrueOf r.beginFrame.value where
  viewport := rfl
  places source := by
    cases source with
    | static => exact .of_empty rfl
    | dynamic => exact .of_empty rfl
  prepared _ := List.forall_mem_nil _

theorem isTrueOf_create {config : Config} {b b' : β} {r : Renderer}
    (hcreate : (Renderer.create config b).value = (.ok r, b')) : start.IsTrueOf r := by
  obtain ⟨c, c', b₁, hstatic, hdynamic, rfl⟩ := Renderer.create_ok hcreate
  obtain ⟨-, buffer, n, -, rfl, -⟩ := ModelCache.create_ok hstatic
  obtain ⟨-, buffer', n', -, rfl, -⟩ := ModelCache.create_ok hdynamic
  refine ⟨rfl, ?_, fun _ => List.forall_mem_nil _⟩
  intro source
  cases source with
  | static => exact .of_empty rfl
  | dynamic => exact .of_empty rfl

theorem note_drawModel (k : FrameHistory) {r : Renderer} {host : Host β τ} {q : ModelRequest}
    {t : Transform} {answer : Except RenderError ModelId} {y : Drawing β τ}
    (h : (Drawing.run ⟨r.cache q.source, r.stats, host⟩ r.viewport
      (r.decodeContext host.textures q t) q t).value = (answer, y)) :
    k.note r (.drawModel host q t) =
      { k with live := fun source =>
          if source = q.source then
            (if y.stats.clears source = r.stats.clears source then k.live source else []) ++
              Drawing.noted (Placement.mk k.viewport t) answer
          else k.live source } := by
  simp only [note, Renderer.drawModel_of_run h]

theorem viewport_note_drawModel (k : FrameHistory) (r : Renderer) (host : Host β τ)
    (q : ModelRequest) (t : Transform) :
    (k.note r (.drawModel host q t)).viewport = k.viewport := by
  rw [note_drawModel k rfl]

/-- A renderer goes on with the viewport that was accepted last. -/
theorem viewport_step {k : FrameHistory} {r : Renderer} (h : r.viewport = k.viewport)
    (call : RendererCall β τ) : (r.step call).viewport = (k.note r call).viewport := by
  cases call with
  | beginFrame => rfl
  | setViewport v =>
      simp only [note, Renderer.step]
      rcases r.setViewport_cases v with he | ⟨c, c', -, -, hok⟩
      · rw [he]
        exact h
      · rw [hok]
  | drawModel host q t =>
      rcases hvalue : (Drawing.run ⟨r.cache q.source, r.stats, host⟩ r.viewport
        (r.decodeContext host.textures q t) q t).value with ⟨answer, y⟩
      rw [viewport_note_drawModel, Renderer.step_drawModel hvalue, ← h]
      exact r.viewport_setCache q.source y.cache

theorem viewport_run {k : FrameHistory} {r : Renderer} (h : r.viewport = k.viewport)
    (calls : List (RendererCall β τ)) : (r.run calls).viewport = (k.after r calls).viewport := by
  induction calls generalizing k r with
  | nil => exact h
  | cons call calls ih => exact ih (viewport_step h call)

theorem isTrueOf_drawModel {k : FrameHistory} {r : Renderer} (h : k.IsTrueOf r)
    (hviewport : k.viewport.isSome = true) {host : Host β τ} {q : ModelRequest} {t : Transform} :
    (k.note r (.drawModel host q t)).IsTrueOf (r.step (.drawModel host q t)) := by
  rcases hvalue : (Drawing.run ⟨r.cache q.source, r.stats, host⟩ r.viewport
    (r.decodeContext host.textures q t) q t).value with ⟨answer, y⟩
  have hplaces := h.places q.source
  rw [← h.viewport] at hplaces
  have hdrawn := (Places.keeps β τ r.viewport (r.decodeContext host.textures q t) q t).run
    (x := ⟨r.cache q.source, r.stats, host⟩) hplaces hvalue
  rw [h.viewport] at hdrawn
  have hcurrent := viewport_step h.viewport (.drawModel host q t)
  rw [note_drawModel k hvalue] at hcurrent ⊢
  refine ⟨hcurrent, ?_, ?_⟩
  · intro source
    rw [Renderer.cache_step_drawModel hvalue]
    by_cases hsource : source = q.source
    · subst hsource
      rw [if_pos rfl]
      simp only [if_true]
      exact hdrawn
    · simp only [if_neg hsource]
      exact h.places source
  · intro source d hd
    by_cases hsource : source = q.source
    · simp only [if_pos hsource] at hd
      rcases List.mem_append.1 hd with hd | hd
      · split at hd
        · exact h.prepared source d hd
        · cases hd
      · cases answer with
        | ok id =>
            cases List.mem_singleton.1 hd
            exact hviewport
        | error e => cases hd
    · simp only [if_neg hsource] at hd
      exact h.prepared source d hd

theorem isTrueOf_step {k : FrameHistory} {r : Renderer} (h : k.IsTrueOf r)
    {call : RendererCall β τ}
    (hcall : ∀ host q t, call = .drawModel host q t → k.viewport.isSome = true) :
    (k.note r call).IsTrueOf (r.step call) := by
  cases call with
  | beginFrame => exact isTrueOf_beginFrame r
  | setViewport v =>
      simp only [note, Renderer.step]
      rcases r.setViewport_cases v with he | ⟨c, c', hstatic, hdynamic, hok⟩
      · rw [he]
        exact h
      · rw [hok]
        refine ⟨rfl, ?_, h.prepared⟩
        intro source
        cases source with
        | static => exact (h.places .static).appendViewport hstatic
        | dynamic => exact (h.places .dynamic).appendViewport hdynamic
  | drawModel host q t => exact isTrueOf_drawModel h (hcall host q t rfl)

theorem isTrueOf_run {k : FrameHistory} {r : Renderer} (h : k.IsTrueOf r)
    {calls : List (RendererCall β τ)} (hprepared : k.IsPrepared r calls) :
    (k.after r calls).IsTrueOf (r.run calls) := by
  induction calls generalizing k r with
  | nil => exact h
  | cons call calls ih => exact ih (isTrueOf_step h hprepared.1) hprepared.2

end FrameHistory

namespace Places

variable {viewport : Option Viewport} {live : List Placement} {c : ModelCache}

theorem isSome_of_mem (h : Places viewport live c)
    (hprepared : ∀ d ∈ live, d.viewport.isSome = true) (p : Pass) :
    ∀ e ∈ DisplayList.instancesUnder none (c.displayList.contents p), e.1.isSome = true := by
  intro e he
  rw [h.instances, List.mem_filterMap] at he
  obtain ⟨d, hd, he⟩ := he
  obtain ⟨m, -, he⟩ := Option.bind_eq_some_iff.1 he
  split at he
  · cases he
  · cases he
    exact hprepared d hd

/-- Each draw is carried out under its own viewport. -/
theorem draws_commands (h : Places viewport live c)
    (hprepared : ∀ d ∈ live, d.viewport.isSome = true) (s : PipelineState) (p : Pass) :
    s.draws (c.commands p) = live.filterMap (·.draw? c p) := by
  rw [ModelCache.commands,
    DisplayList.draws_replay_under s c.displayList c.buffer p (h.isSome_of_mem hprepared p),
    h.instances, List.filterMap_filterMap]
  rfl

end Places

namespace Renderer

variable {β τ : Type} [Backend β] [TextureManager τ]

/-- In a frame in which a viewport is accepted before any model is drawn, the
instances in each list are those of the draws that are live, each with the viewport
of its draw as the nearest one before it. When the frame is rendered, each is drawn
under that viewport. -/
theorem draws_under_viewports {r₀ : Renderer}
    (hstart : (∃ (config : Config) (b b' : β), (create config b).value = (.ok r₀, b')) ∨
      ∃ earlier : Renderer, earlier.beginFrame.value = r₀)
    {calls : List (RendererCall β τ)} (hprepared : FrameHistory.start.IsPrepared r₀ calls) :
    let r := r₀.run calls
    let k := FrameHistory.start.after r₀ calls
    (∀ source, ∀ d ∈ k.live source,
        d.viewport.isSome = true ∧ ((r.cache source).model? d.id).isSome = true) ∧
      (∀ source p,
        let under := DisplayList.instancesUnder none ((r.cache source).displayList.contents p)
        (∀ e ∈ under, e.1.isSome = true) ∧
          under = (k.live source).filterMap (·.instance? (r.cache source) p)) ∧
      ∀ (b : Observed β) (s : PipelineState),
        (r.render b).calls = b.calls ++ r.commands.map Call.submit ∧
          s.draws r.commands = Pass.all.flatMap fun p =>
            [ModelSource.static, ModelSource.dynamic].flatMap fun source =>
              (k.live source).filterMap (·.draw? (r.cache source) p) := by
  intro r k
  have hstarted : FrameHistory.start.IsTrueOf r₀ := by
    rcases hstart with ⟨config, b, b', hcreate⟩ | ⟨earlier, rfl⟩
    · exact FrameHistory.isTrueOf_create hcreate
    · exact FrameHistory.isTrueOf_beginFrame earlier
  have htrue : k.IsTrueOf r := FrameHistory.isTrueOf_run hstarted hprepared
  refine ⟨?_, ?_, ?_⟩
  · intro source d hd
    exact ⟨htrue.prepared source d hd, (htrue.places source).known d hd⟩
  · intro source p
    have hplaces := htrue.places source
    exact ⟨hplaces.isSome_of_mem (htrue.prepared source) p, hplaces.instances p⟩
  · intro b s
    refine ⟨b.calls_submitAll r.commands, ?_⟩
    have hstatic : ∀ (s : PipelineState) (p : Pass), s.draws (r.staticCache.commands p) =
        (k.live .static).filterMap (·.draw? (r.cache .static) p) :=
      (htrue.places .static).draws_commands (htrue.prepared .static)
    have hdynamic : ∀ (s : PipelineState) (p : Pass), s.draws (r.dynamicCache.commands p) =
        (k.live .dynamic).filterMap (·.draw? (r.cache .dynamic) p) :=
      (htrue.places .dynamic).draws_commands (htrue.prepared .dynamic)
    simp only [commands, Pass.all, List.flatMap_cons, List.flatMap_nil, List.append_nil,
      PipelineState.draws_append, hstatic, hdynamic]

/-- Two models under the second of two viewports. The cache takes one model, so it is
cleared for the other, which is then there with its viewport. -/
theorem draws_under_two_viewports :
    let limits : CacheLimits := ⟨64, 32, 1, 16, 8⟩
    let config : Config := ⟨limits, limits, .unlessWord4, 1⟩
    let words : List UInt32 := [0, 4, 0, 0, 0, 0, 1, 1, 2, 3, 4, 5, 6, 7, 8, 9, 10, 11, 12]
    let first : ModelRequest := ⟨.static, 3, 0, 0, 0, words, #[]⟩
    let second : ModelRequest := ⟨.static, 5, 0, 0, 0, words, #[]⟩
    let host : Host Recorder TextureLog := ⟨.empty none, .empty 16 .origin⟩
    let r₀ : Renderer :=
      ⟨config, .empty limits .static ⟨0⟩ 64, .empty limits .dynamic ⟨1⟩ 64, none, .zero⟩
    let narrow : Viewport := { Viewport.screen with x := 8 }
    let calls : List (RendererCall Recorder TextureLog) :=
      [.setViewport .screen, .setViewport narrow, .drawModel host first .identity,
        .drawModel host second .identity]
    (∃ b', (create config (Recorder.empty none)).value = (.ok r₀, b')) ∧
      FrameHistory.start.IsPrepared r₀ calls ∧
      (∃ id, ⟨some narrow, .identity, id⟩ ∈ (FrameHistory.start.after r₀ calls).live .static) ∧
      ∀ source p,
        let c := (r₀.run calls).cache source
        let under := DisplayList.instancesUnder none (c.displayList.contents p)
        (∀ e ∈ under, e.1.isSome = true) ∧
          under = ((FrameHistory.start.after r₀ calls).live source).filterMap (·.instance? c p) := by
  intro limits config words first second host r₀ narrow calls
  have hstatic : (ModelCache.create limits .static (Recorder.empty none)).value = (.ok _, _) :=
    ModelCache.create_of_granted rfl
  have hcreate : (create config (Recorder.empty none)).value = (.ok r₀, _) :=
    create_of_created hstatic (ModelCache.create_of_granted rfl)
  have hprepared : FrameHistory.start.IsPrepared r₀ calls := by
    refine ⟨?_, FrameHistory.isPrepared_of_isSome rfl _ (by simp)⟩
    rintro _ _ _ ⟨⟩
  let k₁ := FrameHistory.start.after r₀ calls.dropLast
  let r₁ := r₀.run calls.dropLast
  have hinOrder : (r₁.cache second.source).IsInOrder limits 64 :=
    isInOrder_run hcreate calls.dropLast second.source
  have hfits : ModelCache.Fits limits 64 (r₁.decodeContext host.textures second .identity)
      second.lutIndex second.words := by
    refine ⟨by decide, by decide, ?_⟩
    rw [Decoder.events_of_step_yielded rfl rfl, Decoder.events_of_finished rfl]
    rfl
  obtain ⟨id, y, hvalue, -⟩ := Drawing.run_of_fits
    (x := ⟨r₁.cache second.source, r₁.stats, host⟩) hinOrder hfits (by decide) r₁.viewport .identity
  have hnote := FrameHistory.note_drawModel (r := r₁) k₁ hvalue
  have hlive : ⟨some narrow, .identity, id⟩ ∈ (FrameHistory.start.after r₀ calls).live .static := by
    rw [show FrameHistory.start.after r₀ calls = k₁.note r₁ (.drawModel host second .identity)
      from rfl, hnote]
    exact List.mem_append_right _ List.mem_cons_self
  exact ⟨⟨_, hcreate⟩, hprepared, ⟨id, hlive⟩,
    (draws_under_viewports (.inl ⟨config, _, _, hcreate⟩) hprepared).2.1⟩

end Renderer

end PolygonRenderer
