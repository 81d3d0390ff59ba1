import PolygonRenderer.Proofs.Renderer.Endings
import PolygonRenderer.Proofs.Renderer.Viewports

/-!
# Accepting a viewport

A viewport goes to the display lists of both caches or to neither, although it is appended
to one list after the other and the second append might fail, when the first list has
already taken the viewport. That it never does is due to a look at both lists beforehand,
which asks for as much room as an append does (`Renderer.setViewport_cases`).

The viewport that is remembered is then the last one in all four lists, and the one that a
cache has after it was cleared in the middle of a frame.
-/

namespace PolygonRenderer

namespace Drawing

open ModelCache

variable {β τ : Type} [Backend β] [TextureManager τ] {limits : CacheLimits} {capacity : Nat}
  {x y : Drawing β τ} {viewport : Option Viewport} {ctx : DecodeContext} {q : ModelRequest}
  {t : Transform} {answer : Except RenderError ModelId}

/-- An attempt adds at most one instance to each list. -/
theorem contents_of_attempt (hx : IsInOrder limits capacity x.cache)
    (hvalue : (x.attempt ctx q t).value = (answer, y)) (p : Pass) :
    y.cache.displayList.contents p = x.cache.displayList.contents p ∨
      ∃ m, y.cache.displayList.contents p = x.cache.displayList.contents p ++ [.model m] := by
  cases answer with
  | error e =>
      rcases attempt_error_cases hx hvalue with ⟨-, hintact⟩ | ⟨-, id, hobtain⟩
      · exact .inl (by rw [hintact.displayList_eq])
      · exact .inl (by rw [(obtain_ok hx hobtain).2.1])
  | ok id =>
      obtain ⟨z, c, hobtain, happend, rfl⟩ := of_attempt_ok hvalue
      obtain ⟨hz, hdisplay, -⟩ := obtain_ok hx hobtain
      obtain ⟨m, l, -, hl, rfl⟩ := appendModel_ok happend
      have hcontents := (hz.threaded.appendModel hl).2 p
      rw [hdisplay] at hcontents
      split at hcontents
      · exact .inr ⟨_, hcontents⟩
      · exact .inl (hcontents.trans (List.append_nil _))

/-- A draw that has made a clear leaves the viewport in front of all else, which is one
instance at most. -/
theorem contents_of_clear (hx : IsInOrder limits capacity x.cache)
    (hviewport : viewport.isSome = true → DisplayList.nodesPerAppend ≤ limits.displayListEntries)
    (hvalue : (x.run viewport ctx q t).value = (answer, y))
    (hclears : y.stats.clears q.source ≠ x.stats.clears q.source) (p : Pass) :
    y.cache.displayList.contents p = viewport.toList.map .viewport ∨
      ∃ m, y.cache.displayList.contents p = viewport.toList.map .viewport ++ [.model m] := by
  rcases run_cases_of_isInOrder hx hviewport ctx q t with ⟨hrun, -⟩ | ⟨e, z, w, -, -, hw, hrun⟩
  · exact absurd (clears_of_attempt (hrun.symm.trans hvalue) q.source) hclears
  · rw [← hw.contents p]
    exact contents_of_attempt hw.inOrder (hrun.symm.trans hvalue) p

end Drawing

namespace Renderer

/-- With room in both lists, a viewport comes last in all four of them. -/
theorem setViewport_of_hasRoom {r : Renderer}
    (h : ∀ source, (r.cache source).displayList.hasRoom = true) (v : Viewport) :
    ∃ r', (r.setViewport v).value = (.ok (), r') ∧
      r'.viewport = some v ∧ r'.stats = r.stats ∧ r'.config = r.config ∧
      ∀ source, ∃ l, (r.cache source).displayList.appendViewport v = .ok l ∧
        r'.cache source = { r.cache source with displayList := l } := by
  obtain ⟨l, hl, hstatic⟩ := ModelCache.appendViewport_of_hasRoom (h .static) v
  obtain ⟨l', hl', hdynamic⟩ := ModelCache.appendViewport_of_hasRoom (h .dynamic) v
  simp only [cache] at hstatic hdynamic
  have hlook := fullList?_eq_none_iff.2 h
  refine ⟨{ r with
    staticCache := { r.staticCache with displayList := l }
    dynamicCache := { r.dynamicCache with displayList := l' }
    viewport := some v }, ?_, rfl, rfl, rfl, ?_⟩
  · simp only [setViewport, hlook, hstatic, hdynamic]
    rfl
  · intro source
    cases source with
    | static => exact ⟨l, hl, rfl⟩
    | dynamic => exact ⟨l', hl', rfl⟩

/-- If one list is full, nothing is appended to the other one either. -/
theorem setViewport_of_full {r : Renderer} (source : ModelSource)
    (h : (r.cache source).displayList.hasRoom = false) (v : Viewport) :
    (r.setViewport v).value = (.error .displayListFull, r) := by
  cases hlook : r.fullList? with
  | some other =>
      rw [setViewport, hlook]
      rfl
  | none =>
      have hroom := fullList?_eq_none_iff.1 hlook source
      rw [h] at hroom
      cases hroom

variable {β τ : Type} [Backend β] [TextureManager τ]

/-- After any calls, a viewport is accepted exactly if both lists have two nodes left. It
then comes last in all four of them and is remembered, and nothing else has changed. If it
is refused, nothing has changed at all. The viewport that is remembered is the last one
that was accepted in the frame, and a draw that has to clear its cache leaves it in front of
the one instance that there may be. -/
theorem setViewport_run {config : Config} {b b' : β} {r₀ : Renderer}
    (hcreate : (create config b).value = (.ok r₀, b')) (calls : List (RendererCall β τ))
    (v : Viewport) :
    let r := r₀.run calls
    let accepted := (FrameHistory.start.after r₀ calls).viewport
    let hasRoom := ∀ source,
      (r.cache source).displayList.length + 2 ≤ (r.cache source).displayList.capacity
    (hasRoom → ∃ r', (r.setViewport v).value = (.ok (), r') ∧
        r'.viewport = some v ∧ r'.stats = r.stats ∧ r'.config = r.config ∧
        ∀ source, ∃ l, r'.cache source = { r.cache source with displayList := l } ∧
          ∀ p, l.contents p = (r.cache source).displayList.contents p ++ [.viewport v]) ∧
      (¬hasRoom → (r.setViewport v).value = (.error .displayListFull, r)) ∧
      r.viewport = accepted ∧
      ∀ (host host' : Host β τ) q t answer r', (r.drawModel host q t).value = (answer, r', host') →
        r'.stats.clears q.source ≠ r.stats.clears q.source → ∀ p,
          let contents := (r'.cache q.source).displayList.contents p
          contents = accepted.toList.map .viewport ∨
            ∃ m, contents = accepted.toList.map .viewport ++ [.model m] := by
  intro r accepted hasRoom
  have hready := (IsReady.create hcreate).run calls
  have haccepted : r.viewport = accepted := by
    refine FrameHistory.viewport_run ?_ calls
    obtain ⟨c, c', b₁, -, -, rfl⟩ := create_ok hcreate
    rfl
  refine ⟨?_, ?_, haccepted, ?_⟩
  · intro hroom
    obtain ⟨r', hvalue, hviewport, hstats, hconfig, hcache⟩ :=
      setViewport_of_hasRoom (fun source => decide_eq_true (hroom source)) v
    refine ⟨r', hvalue, hviewport, hstats, hconfig, ?_⟩
    intro source
    obtain ⟨l, hl, hcache⟩ := hcache source
    exact ⟨l, hcache, ((hready.inOrder source).threaded.appendViewport hl).2⟩
  · intro hfull
    obtain ⟨source, hsource⟩ := Classical.not_forall.1 hfull
    exact setViewport_of_full source (decide_eq_false hsource) v
  · intro host host' q t answer r' h hclears
    obtain ⟨y, hvalue, hr', hcache⟩ := exists_run_of_drawModel h
    have hstats : r'.stats = y.stats := by rw [hr']
    rw [hstats] at hclears
    rw [hcache, ← haccepted]
    exact Drawing.contents_of_clear (hready.inOrder q.source)
      (fun hsome => hready.fits hsome q.source) hvalue hclears

/-- The list of the dynamic cache takes one viewport, so that the second one is refused.
The static cache, which takes one model, is cleared for another one and has the first
viewport again. -/
theorem setViewport_beside_full :
    let limits : CacheLimits := ⟨64, 32, 1, 16, 8⟩
    let short : CacheLimits := ⟨64, 32, 1, 16, 2⟩
    let config : Config := ⟨limits, short, .unlessWord4, 1⟩
    let words : List UInt32 := [0, 4, 0, 0, 0, 0, 1, 1, 2, 3, 4, 5, 6, 7, 8, 9, 10, 11, 12]
    let first : ModelRequest := ⟨.static, 3, 0, 0, 0, words, #[]⟩
    let second : ModelRequest := ⟨.static, 5, 0, 0, 0, words, #[]⟩
    let host : Host Recorder TextureLog := ⟨.empty none, .empty 16 .origin⟩
    let r₀ : Renderer :=
      ⟨config, .empty limits .static ⟨0⟩ 64, .empty short .dynamic ⟨1⟩ 64, none, .zero⟩
    let narrow : Viewport := { Viewport.screen with x := 8 }
    let r := r₀.run
      [.setViewport .screen, .setViewport narrow, .drawModel host first .identity]
    (∃ b', (create config (Recorder.empty none)).value = (.ok r₀, b')) ∧
      (r.setViewport narrow).value = (.error .displayListFull, r) ∧
      ∃ answer r' host', (r.drawModel host second .identity).value = (answer, r', host') ∧
        r'.stats.clears .static = r.stats.clears .static + 1 ∧
        ∀ p, (r'.cache .static).displayList.contents p = [.viewport .screen] ∨
          ∃ m, (r'.cache .static).displayList.contents p = [.viewport .screen, .model m] := by
  intro limits short config words first second host r₀ narrow r
  have hstatic : (ModelCache.create limits .static (Recorder.empty none)).value = (.ok _, _) :=
    ModelCache.create_of_granted rfl
  have hcreate : (create config (Recorder.empty none)).value = (.ok r₀, _) :=
    create_of_created hstatic (ModelCache.create_of_granted rfl)
  obtain ⟨-, hrefused, -, hreplays⟩ := setViewport_run hcreate
    [.setViewport .screen, .setViewport narrow, .drawModel host first .identity] narrow
  have haccepted : (FrameHistory.start.after r₀
      [.setViewport .screen, .setViewport narrow, .drawModel host first .identity]).viewport =
      some .screen := by
    simp only [FrameHistory.after, FrameHistory.viewport_note_drawModel]
    rfl
  have hfull : ¬(r.cache .dynamic).displayList.length + 2 ≤
      (r.cache .dynamic).displayList.capacity := by
    decide +kernel
  have hclears : (r.drawModel host second .identity).value.2.1.stats.clears .static =
      r.stats.clears .static + 1 := by
    decide +kernel
  rcases hvalue : (r.drawModel host second .identity).value with ⟨answer, r', host'⟩
  rw [hvalue] at hclears
  refine ⟨⟨_, hcreate⟩, hrefused fun hroom => hfull (hroom .dynamic), answer, r', host', rfl,
    hclears, ?_⟩
  have hcleared : r'.stats.clears .static ≠ r.stats.clears .static := by
    rw [hclears]
    exact Nat.succ_ne_self _
  rw [haccepted] at hreplays
  exact hreplays _ _ _ _ _ _ hvalue hcleared

end Renderer

end PolygonRenderer
