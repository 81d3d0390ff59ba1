import PolygonRenderer.Proofs.ModelCache.Hosts
import PolygonRenderer.Proofs.Renderer.Frame

/-!
# The lifetime of a renderer

A renderer asks for its two vertex buffers when it is created, and gives them back when
it is destroyed. A renderer that cannot be created has given back what it was granted
by then. In between its driver only has buffers written and drawn from
(`Recorder.KeepsBuffers`), which is what one call does, and so what any calls do.
-/

namespace PolygonRenderer

/-- Whether a call neither asks for a buffer nor gives one back. -/
def Call.keepsBuffers : Call → Bool
  | .allocate .. | .release _ => false
  | .upload .. | .submit _ => true

namespace Recorder

/-- The buffers that were ever granted, oldest first. -/
def granted (r : Recorder) : List BufferHandle :=
  (List.range r.buffers.size).map BufferHandle.mk

/-- The buffers that were given back, in order. -/
def released (r : Recorder) : List BufferHandle :=
  r.calls.toList.filterMap fun
    | .release h => some h
    | _ => none

def isLive (r : Recorder) (h : BufferHandle) : Bool :=
  (r.buffer? h).isSome

/-- Which of the buffers that were ever granted are live. -/
def liveness (r : Recorder) : Array Bool :=
  r.buffers.map Option.isSome

/-- From one recorder to another, no call asks for a buffer or gives one back, and the
buffers that are live stay so. -/
structure KeepsBuffers (r r' : Recorder) : Prop where
  calls : ∃ made : List Call, r'.calls.toList = r.calls.toList ++ made ∧
    ∀ call ∈ made, call.keepsBuffers
  live : r'.liveness = r.liveness

theorem isLive_eq (r : Recorder) (h : BufferHandle) :
    r.isLive h = r.liveness[h.index]?.getD false := by
  rw [isLive, buffer?, liveness, Array.getElem?_map]
  cases r.buffers[h.index]? with
  | none => rfl
  | some buffer => rfl

theorem liveCount_eq (r : Recorder) : r.liveCount = r.liveness.countP id := by
  rw [liveCount, liveness, Array.countP_map]
  rfl

section Liveness

variable {r r' : Recorder} {n : Nat} {live : Bool}

/-- Beyond the buffers of `r`, there are `n` others, all of them live or none. -/
theorem isLive_of_append (h : r'.liveness = r.liveness ++ Array.replicate n live)
    (buffer : BufferHandle) :
    r'.isLive buffer = (r.isLive buffer ||
      (live && decide (r.buffers.size ≤ buffer.index ∧ buffer.index < r.buffers.size + n))) := by
  have hsize : r.liveness.size = r.buffers.size := Array.size_map ..
  rw [isLive_eq, isLive_eq, h]
  grind

theorem isLive_of_append_released (h : r'.liveness = r.liveness ++ Array.replicate n false)
    (buffer : BufferHandle) : r'.isLive buffer = r.isLive buffer := by
  rw [isLive_of_append h, Bool.false_and, Bool.or_false]

theorem liveCount_of_append (h : r'.liveness = r.liveness ++ Array.replicate n live) :
    r'.liveCount = r.liveCount + if live then n else 0 := by
  rw [liveCount_eq, liveCount_eq, h, Array.countP_append, Array.countP_replicate]
  rfl

end Liveness

namespace KeepsBuffers

variable {r r' r'' : Recorder}

theorem refl (r : Recorder) : r.KeepsBuffers r :=
  ⟨⟨[], (List.append_nil _).symm, List.forall_mem_nil _⟩, rfl⟩

theorem trans (h : r.KeepsBuffers r') (h' : r'.KeepsBuffers r'') : r.KeepsBuffers r'' where
  calls := by
    obtain ⟨made, hcalls, hmade⟩ := h.calls
    obtain ⟨made', hcalls', hmade'⟩ := h'.calls
    refine ⟨made ++ made', ?_, List.forall_mem_append.2 ⟨hmade, hmade'⟩⟩
    rw [hcalls', hcalls, List.append_assoc]
  live := h'.live.trans h.live

end KeepsBuffers

theorem keepsBuffers_record (r : Recorder) (call : Call) (h : call.keepsBuffers) :
    r.KeepsBuffers (r.record call) where
  calls := ⟨[call], Array.toList_push .., List.forall_mem_singleton.2 h⟩
  live := rfl

/-- A buffer that is live stays so with other contents. -/
theorem map_isSome_setIfInBounds {r : Recorder} {h : BufferHandle} {m : Memory}
    (hm : r.buffer? h = some m) (m' : Memory) :
    (r.buffers.setIfInBounds h.index (some m')).map Option.isSome = r.liveness := by
  rw [liveness]
  apply Array.ext_getElem?
  intro i
  rw [Array.getElem?_map, Array.getElem?_map, Array.getElem?_setIfInBounds]
  split
  · rename_i hi
    subst hi
    rw [buffer?] at hm
    cases hget : r.buffers[h.index]? with
    | none =>
        rw [hget] at hm
        cases hm
    | some buffer =>
        rw [hget, Option.join_some] at hm
        rw [if_pos (Array.getElem?_eq_some_iff.1 hget).1, hm]
        rfl
  · rfl

theorem keepsBuffers_upload (r : Recorder) (h : BufferHandle) (offset : Nat)
    (data : Array UInt8) : r.KeepsBuffers (r.upload h offset data).value := by
  have hrecord := r.keepsBuffers_record (.upload h offset data.size) rfl
  unfold upload
  dsimp only
  cases hm : (r.record (.upload h offset data.size)).buffer? h with
  | none => exact hrecord
  | some m =>
      dsimp only
      cases m.write? offset data with
      | none => exact hrecord
      | some m' => exact ⟨hrecord.calls, map_isSome_setIfInBounds hm m'⟩

theorem keepsBuffers_submitAll (r : Recorder) (commands : List Command) :
    r.KeepsBuffers (Backend.submitAll r commands) := by
  rw [submitAll_eq]
  refine ⟨⟨_, Array.toList_append .., ?_⟩, rfl⟩
  intro call hcall
  obtain ⟨command, -, rfl⟩ := List.mem_map.1 hcall
  rfl

/-- Giving the buffer back that was granted last. -/
theorem setIfInBounds_push_self {α : Type} (buffers : Array α) (x y : α) :
    (buffers.push x).setIfInBounds buffers.size y = buffers.push y := by
  rw [Array.push_eq_append, Array.setIfInBounds_append_right (Nat.le_refl _), Nat.sub_self]
  rfl

/-- Giving back the two buffers that were granted last. -/
theorem setIfInBounds_append_replicate_two {α : Type} (buffers : Array α) (x y : α) :
    ((buffers ++ Array.replicate 2 x).setIfInBounds buffers.size y).setIfInBounds
      (buffers.size + 1) y = buffers ++ Array.replicate 2 y := by
  rw [Array.setIfInBounds_append_right (Nat.le_refl _), Nat.sub_self,
    Array.setIfInBounds_append_right (Nat.le_succ _), Nat.succ_sub (Nat.le_refl _), Nat.sub_self]
  rfl

theorem liveness_release (r : Recorder) (h : BufferHandle) :
    (r.release h).liveness = r.liveness.setIfInBounds h.index false :=
  Array.map_setIfInBounds

theorem released_release (r : Recorder) (h : BufferHandle) :
    (r.release h).released = r.released ++ [h] := by
  rw [released, release, record, Array.toList_push, List.filterMap_append]
  rfl

theorem released_allocate (r : Recorder) (bytes : Nat) (usage : BufferUsage) :
    (r.allocate bytes usage).2.released = r.released := by
  have hrecord : (r.record (.allocate bytes usage)).released = r.released := by
    rw [released, record, Array.toList_push, List.filterMap_append]
    exact List.append_nil _
  unfold allocate
  dsimp only
  split <;> exact hrecord

theorem released_of_refusals {b b' : Recorder} (h : ModelCache.Refusals b b') :
    b'.released = b.released := by
  induction h with
  | refl => rfl
  | @step b b₁ b' bytes usage e head _ ih =>
      have hreleased := b.released_allocate bytes usage
      change b.allocate bytes usage = (.error e, b₁) at head
      rw [head] at hreleased
      exact ih.trans hreleased

/-- The handles that buffers beyond those of `r` are known by. -/
theorem granted_of_push {r r' : Recorder} {buffer : Option Memory}
    (h : r'.buffers = r.buffers.push buffer) : r'.granted = r.granted ++ [⟨r.buffers.size⟩] := by
  rw [granted, h, Array.size_push, List.range_succ, List.map_append]
  rfl

end Recorder

namespace ModelCache

theorem released_of_create {limits : CacheLimits} {source : ModelSource} {b b' : Recorder}
    {c : ModelCache} (h : (create limits source b).value = (.ok c, b')) :
    b'.released = b.released := by
  obtain ⟨b₁, buffer, capacity, hrefusals, -, hallocate⟩ := create_ok h
  have hreleased := b₁.released_allocate (BufferVertex.byteCount * capacity) (bufferUsage source)
  change b₁.allocate (BufferVertex.byteCount * capacity) (bufferUsage source) = (.ok buffer, b')
    at hallocate
  rw [hallocate] at hreleased
  exact hreleased.trans (Recorder.released_of_refusals hrefusals)

end ModelCache

namespace Renderer

/-- Where no renderer is created, all that was granted is given back: the static buffer, if
it is the dynamic one that was refused. -/
theorem create_error {config : Config} {b b' : Recorder} {e : RenderError}
    (h : (create config b).value = (.error e, b')) :
    ∃ own, b'.granted = b.granted ++ own ∧ b'.released = b.released ++ own ∧
      b'.liveness = b.liveness ++ Array.replicate own.length false := by
  unfold create at h
  rw [Logged.value_bind] at h
  rcases hstatic : (ModelCache.create config.staticCache .static b).value with ⟨answer, b₁⟩
  rw [hstatic] at h
  cases answer with
  | error e =>
      cases h
      have hrefusals := ModelCache.create_error hstatic
      have hbuffers := ModelCache.buffers_of_refusals hrefusals
      refine ⟨[], ?_, ?_, ?_⟩
      · rw [Recorder.granted, hbuffers, List.append_nil, Recorder.granted]
      · rw [Recorder.released_of_refusals hrefusals, List.append_nil]
      · simp [Recorder.liveness, hbuffers]
  | ok c =>
      dsimp only at h
      rw [Logged.value_bind] at h
      rcases hdynamic : (ModelCache.create config.dynamicCache .dynamic b₁).value with
        ⟨answer, b₂⟩
      rw [hdynamic] at h
      cases answer with
      | ok c' => cases h
      | error e =>
          cases h
          have hrefusals := ModelCache.create_error hdynamic
          obtain ⟨capacity, rfl, hbuffers⟩ := ModelCache.buffers_of_create hstatic
          have hbuffers' : (b₂.release ⟨b.buffers.size⟩).buffers = b.buffers.push none := by
            rw [Recorder.release, Recorder.record, ModelCache.buffers_of_refusals hrefusals,
              hbuffers, Recorder.setIfInBounds_push_self]
          refine ⟨_, Recorder.granted_of_push hbuffers', ?_, ?_⟩
          · change (b₂.release ⟨b.buffers.size⟩).released = _
            rw [Recorder.released_release, Recorder.released_of_refusals hrefusals,
              ModelCache.released_of_create hstatic]
          · change (b₂.release ⟨b.buffers.size⟩).liveness = _
            simp [Recorder.liveness, hbuffers']

/-- A new renderer has the next two buffers of its recorder. -/
theorem create_grants {config : Config} {b b' : Recorder} {r : Renderer}
    (h : (create config b).value = (.ok r, b')) :
    r.staticCache.buffer = ⟨b.buffers.size⟩ ∧ r.dynamicCache.buffer = ⟨b.buffers.size + 1⟩ ∧
      b'.granted = b.granted ++ [r.staticCache.buffer, r.dynamicCache.buffer] ∧
      b'.released = b.released ∧ b'.liveness = b.liveness ++ Array.replicate 2 true := by
  obtain ⟨c, c', b₁, hstatic, hdynamic, rfl⟩ := create_ok h
  have hreleased : b'.released = b.released := by
    rw [ModelCache.released_of_create hdynamic, ModelCache.released_of_create hstatic]
  obtain ⟨capacity, rfl, hbuffers⟩ := ModelCache.buffers_of_create hstatic
  obtain ⟨capacity', rfl, hbuffers'⟩ := ModelCache.buffers_of_create hdynamic
  have hsize : b₁.buffers.size = b.buffers.size + 1 := by
    rw [hbuffers, Array.size_push]
  refine ⟨rfl, congrArg BufferHandle.mk hsize, ?_, hreleased, ?_⟩
  · rw [Recorder.granted_of_push hbuffers', Recorder.granted_of_push hbuffers, List.append_assoc]
    rfl
  · rw [Recorder.liveness, hbuffers', hbuffers, Array.map_push, Array.map_push]
    rfl

end Renderer

/-- A call of a driver between the creation of a renderer and its end, or something that
happens to the texture manager. -/
inductive DriverCall (τ : Type) where
  | beginFrame
  | setViewport (v : Viewport)
  | drawModel (d : DrawCall)
  | refreshTextures
  | render
  /-- Others leave the texture manager like this. -/
  | elsewhere (textures : τ)

namespace FrameSession

variable {τ : Type} [TextureManager τ]

/-- Make a call of a driver. -/
def driverStep (s : FrameSession τ) : DriverCall τ → FrameSession τ
  | .beginFrame => s.step .beginFrame
  | .setViewport v => s.step (.setViewport v)
  | .drawModel d => s.step (.drawModel d)
  | .refreshTextures =>
    ⟨s.renderer, { s.host with textures := s.renderer.refreshTextures s.host.textures }⟩
  | .render => ⟨s.renderer, { s.host with backend := s.renderer.render s.host.backend }⟩
  | .elsewhere textures => ⟨s.renderer, { s.host with textures := textures }⟩

/-- Make calls of a driver in order. -/
def drive (s : FrameSession τ) : List (DriverCall τ) → FrameSession τ
  | [] => s
  | call :: calls => drive (s.driverStep call) calls

/-- The renderer has these buffers, and from a recorder on they were kept. -/
structure IsKept (static dynamic : BufferHandle) (b : Recorder) (s : FrameSession τ) : Prop where
  static : s.renderer.staticCache.buffer = static
  dynamic : s.renderer.dynamicCache.buffer = dynamic
  keeps : b.KeepsBuffers s.host.backend

/-- Whatever a draw does to its cache, it keeps the buffers. -/
theorem keepsBuffers_of_moves {viewport : Option Viewport} {ctx : DecodeContext}
    {q : ModelRequest} {t : Transform} {x y : Drawing Recorder τ} {b : Recorder}
    (hmoves : Drawing.Moves viewport ctx q t x y) (h : b.KeepsBuffers x.host.backend) :
    y.cache.buffer = x.cache.buffer ∧ b.KeepsBuffers y.host.backend := by
  refine hmoves.keeps
    (P := fun z => z.cache.buffer = x.cache.buffer ∧ b.KeepsBuffers z.host.backend) ⟨rfl, h⟩ ?_
  rintro z w - hmove ⟨hbuffer, hkeeps⟩
  cases hmove with
  | found => exact ⟨hbuffer, hkeeps⟩
  | cached _ hcache =>
      have hrespects : Respects z.cache.source z.cache.buffer
          fun h h' : Host Recorder τ => h = h' ∧ b.KeepsBuffers h.backend :=
        respects_of_kept (fun offset data hh => hh.trans (Recorder.keepsBuffers_upload _ _ _ _))
          (fun _ hh => hh) (fun _ _ _ hh => hh)
      obtain ⟨answer', c', host₁, host₂, hvalue, -, hc', -, hkept⟩ :=
        ModelCache.cacheModel_respects hrespects ⟨rfl, rfl⟩ ⟨rfl, hkeeps⟩ ctx q.lutIndex
          q.textureOffset q.words
      rw [hcache] at hvalue
      cases hvalue
      exact ⟨hc'.buffer.trans hbuffer, hkept⟩
  | appendedModel happend =>
      exact ⟨(ModelCache.buffer_of_appendModel happend).trans hbuffer, hkeeps⟩
  | cleared => exact ⟨hbuffer, hkeeps⟩
  | appendedViewport happend =>
      exact ⟨(ModelCache.buffer_of_appendViewport happend).trans hbuffer, hkeeps⟩

namespace IsKept

variable {static dynamic : BufferHandle} {b : Recorder} {s : FrameSession τ}

theorem drawModel (h : IsKept static dynamic b s) (d : DrawCall) :
    IsKept static dynamic b (s.step (.drawModel d)) := by
  rcases hvalue : (Drawing.run ⟨s.renderer.cache d.request.source, s.renderer.stats, s.host⟩
    s.renderer.viewport (s.renderer.decodeContext s.host.textures d.request d.transform)
    d.request d.transform).value with ⟨answer, y⟩
  obtain ⟨hbuffer, hkeeps⟩ := keepsBuffers_of_moves (.of_run hvalue) h.keeps
  rw [(step_drawModel hvalue).2]
  cases hsource : d.request.source with
  | static =>
      rw [hsource] at hbuffer
      exact ⟨hbuffer.trans h.static, h.dynamic, hkeeps⟩
  | dynamic =>
      rw [hsource] at hbuffer
      exact ⟨h.static, hbuffer.trans h.dynamic, hkeeps⟩

theorem step (h : IsKept static dynamic b s) (call : DriverCall τ) :
    IsKept static dynamic b (s.driverStep call) := by
  cases call with
  | beginFrame => exact ⟨h.static, h.dynamic, h.keeps⟩
  | setViewport v =>
      simp only [driverStep, FrameSession.step]
      rcases s.renderer.setViewport_cases v with he | ⟨c, c', hstatic, hdynamic, hok⟩
      · rw [he]
        exact h
      · rw [hok]
        exact ⟨(ModelCache.buffer_of_appendViewport hstatic).trans h.static,
          (ModelCache.buffer_of_appendViewport hdynamic).trans h.dynamic, h.keeps⟩
  | drawModel d => exact h.drawModel d
  | refreshTextures => exact ⟨h.static, h.dynamic, h.keeps⟩
  | render => exact ⟨h.static, h.dynamic, h.keeps.trans (Recorder.keepsBuffers_submitAll _ _)⟩
  | elsewhere textures => exact ⟨h.static, h.dynamic, h.keeps⟩

theorem drive (h : IsKept static dynamic b s) (calls : List (DriverCall τ)) :
    IsKept static dynamic b (s.drive calls) := by
  induction calls generalizing s with
  | nil => exact h
  | cons call calls ih => exact ih (h.step call)

end IsKept

/-- The two buffers of a renderer last for any calls, and are given back in the end. -/
theorem buffers_of_created {config : Config} {b b' : Recorder} {r : Renderer}
    (h : (Renderer.create config b).value = (.ok r, b')) (textures : τ)
    (calls : List (DriverCall τ)) :
    let static := r.staticCache.buffer
    let dynamic := r.dynamicCache.buffer
    let s := (FrameSession.mk r ⟨b', textures⟩).drive calls
    let b'' := s.renderer.destroy s.host.backend
    b'.KeepsBuffers s.host.backend ∧
      b''.calls = s.host.backend.calls ++ #[.release static, .release dynamic] ∧
      (∀ h, b''.isLive h = b.isLive h) ∧ b''.liveCount = b.liveCount := by
  intro static dynamic s b''
  obtain ⟨hstatic, hdynamic, -, -, hlive⟩ := Renderer.create_grants h
  have hstart : IsKept static dynamic b' (FrameSession.mk r ⟨b', textures⟩) :=
    ⟨rfl, rfl, .refl b'⟩
  have hkept : IsKept static dynamic b' s := hstart.drive calls
  have hend : b'' = (s.host.backend.release static).release dynamic := by
    rw [← hkept.static, ← hkept.dynamic]
    rfl
  have hstatic : static.index = b.liveness.size := by
    rw [Recorder.liveness, Array.size_map]
    exact congrArg BufferHandle.index hstatic
  have hdynamic : dynamic.index = b.liveness.size + 1 := by
    rw [Recorder.liveness, Array.size_map]
    exact congrArg BufferHandle.index hdynamic
  have hlive' : b''.liveness = b.liveness ++ Array.replicate 2 false := by
    rw [hend, Recorder.liveness_release, Recorder.liveness_release, hkept.keeps.live, hlive,
      hstatic, hdynamic, Recorder.setIfInBounds_append_replicate_two]
  refine ⟨hkept.keeps, ?_, Recorder.isLive_of_append_released hlive',
    Recorder.liveCount_of_append hlive'⟩
  rw [hend]
  rfl

/-- A renderer that cannot be created has given back what it was granted by then. Otherwise
it is granted two buffers, which any calls keep, and in the end gives back these two. So the
buffers that are live before and after are the same. -/
theorem buffers_of_lifetime (config : Config) (b : Recorder) (textures : τ)
    (calls : List (DriverCall τ)) :
    match (Renderer.create config b).value with
    | (.error _, b') =>
      (∃ own, b'.granted = b.granted ++ own ∧ b'.released = b.released ++ own) ∧
        (∀ h, b'.isLive h = b.isLive h) ∧ b'.liveCount = b.liveCount
    | (.ok r, b') =>
      let static := r.staticCache.buffer
      let dynamic := r.dynamicCache.buffer
      let s := (FrameSession.mk r ⟨b', textures⟩).drive calls
      let b'' := s.renderer.destroy s.host.backend
      (static ≠ dynamic ∧ b'.granted = b.granted ++ [static, dynamic] ∧
        b'.released = b.released ∧
        (∀ h, b'.isLive h = (b.isLive h || decide (h = static ∨ h = dynamic))) ∧
        b'.liveCount = b.liveCount + 2) ∧
      b'.KeepsBuffers s.host.backend ∧
      b''.calls = s.host.backend.calls ++ #[.release static, .release dynamic] ∧
      (∀ h, b''.isLive h = b.isLive h) ∧ b''.liveCount = b.liveCount := by
  rcases hvalue : (Renderer.create config b).value with ⟨answer, b'⟩
  cases answer with
  | error e =>
      obtain ⟨own, hgranted, hreleased, hlive⟩ := Renderer.create_error hvalue
      exact ⟨⟨own, hgranted, hreleased⟩, Recorder.isLive_of_append_released hlive,
        Recorder.liveCount_of_append hlive⟩
  | ok r =>
      obtain ⟨hstatic, hdynamic, hgranted, hreleased, hlive⟩ := Renderer.create_grants hvalue
      refine ⟨⟨?_, hgranted, hreleased, ?_, Recorder.liveCount_of_append hlive⟩,
        buffers_of_created hvalue textures calls⟩
      · rw [hstatic, hdynamic]
        simp
      · intro h
        rw [Recorder.isLive_of_append hlive, Bool.true_and, hstatic, hdynamic]
        congr 2
        cases h
        simp only [BufferHandle.mk.injEq, eq_iff_iff]
        omega

end FrameSession

end PolygonRenderer
