import PolygonRenderer.Dump.Run
import PolygonRenderer.Proofs.Dump.Words
import PolygonRenderer.Proofs.Renderer.FirstDraw

/-!
# What a report tells

A report is about the first draw of a new renderer. It is therefore a matter of the
polygons of the model alone: which vertices there are in each pass, what is drawn, and
what is counted (`Report.IsAbout`).
-/

namespace PolygonRenderer

namespace Dump

namespace Report

/-- A computation that succeeds does so step by step. -/
theorem exists_of_bind_ok {ε α β : Type} {x : Except ε α} {f : α → Except ε β} {b : β}
    (h : x >>= f = .ok b) : ∃ a, x = .ok a ∧ f a = .ok b := by
  cases x with
  | error e => cases h
  | ok a => exact ⟨a, rfl, h⟩

/-- What is told of a model of these polygons. -/
structure IsAbout (r : Report) (ps : List (Polygon Float32)) : Prop where
  ranges : r.ranges = ModelCache.rangesOf ps
  draws : r.draws = Renderer.drawnRanges r.ranges
  stats : r.stats = ⟨1, 0, ps.length, 0, 0⟩

theorem isAbout_of_make {config : Config} {options : Options} {file : List UInt8} {r : Report}
    (h : make config options file = .ok r) :
    ∃ ps, (Decoder.start (words options file) config.vertexFactor).items = ps.map .ok ∧
      r.wordCount = (words options file).length ∧ r.IsAbout ps := by
  unfold make at h
  rcases hcreate : (Renderer.create config (Recorder.empty none)).value with ⟨created, backend⟩
  rw [hcreate] at h
  obtain ⟨r₀, rfl, hcreated⟩ := exists_of_bind_ok h
  rcases hviewport : (r₀.beginFrame.value.setViewport .screen).value with ⟨accepted, r₁⟩
  rw [hviewport] at hcreated
  obtain ⟨⟨⟩, rfl, hprepared⟩ := exists_of_bind_ok hcreated
  extract_lets host at hprepared
  rcases hdraw : (r₁.drawModel host (request options (words options file)) .identity).value with
    ⟨drawn, r₂, host'⟩
  rw [hdraw] at hprepared
  obtain ⟨id, rfl, hdrawn⟩ := exists_of_bind_ok hprepared
  obtain ⟨ps, hitems, rfl, honly, hother, hstats⟩ :=
    Renderer.drawModel_of_isFresh (Renderer.isFresh_of_setViewport hcreate hviewport) hdraw
  obtain ⟨m, hm, hranges⟩ := honly.model
  dsimp only at hdrawn
  rw [hm] at hdrawn
  cases hdrawn
  refine ⟨ps, hitems, rfl, hranges, ?_, hstats⟩
  rw [Renderer.draws_of_hasOnly honly hother host'.backend, hranges]

end Report

/-- What is printed is a report on the contents of a file. -/
theorem exists_report_of_printed {options : Options} {config : Except RenderError Config}
    {file : Option ByteArray} {text : String} (h : outcome options config file = .printed text) :
    ∃ config' contents r, config = .ok config' ∧ file = some contents ∧
      Report.make config' options contents.toList = .ok r ∧
      text = if options.json then r.json else r.text options.modelFile := by
  unfold outcome at h
  cases config with
  | error e => cases h
  | ok config =>
      cases file with
      | none => cases h
      | some contents =>
          dsimp only at h
          split at h
          · cases hmake : Report.make config options contents.toList with
            | error e =>
                rw [hmake] at h
                cases h
            | ok r =>
                rw [hmake] at h
                cases h
                exact ⟨config, contents, r, rfl, rfl, hmake, rfl⟩
          · cases h

/-- Whatever is printed for a model file is the report on it. The words are those of the
file in the order of bytes that was chosen. Their stream has no error, and its polygons tell
the ranges, what is drawn, and what is counted: one model that was cached, without a clear. -/
theorem outcome_printed {options : Options} {config : Except RenderError Config}
    {file : Option ByteArray} {text : String} (h : outcome options config file = .printed text) :
    ∃ (config' : Config) (contents : ByteArray) (r : Report) (ps : List (Polygon Float32))
      (d : Decoder), config = .ok config' ∧ file = some contents ∧
      Report.make config' options contents.toList = .ok r ∧
      text = (if options.json then r.json else r.text options.modelFile) ∧
      let bytes := contents.toList
      let order : ByteOrder := if options.bigEndian then .highestFirst else .lowestFirst
      let words := order.words bytes
      let solid := ModelCache.contribution (ps.map .ok) .solid
      let blended := ModelCache.contribution (ps.map .ok) .blended
      (∀ i, words[i]?.map UInt32.toNat =
        if 4 * i + 4 ≤ bytes.length then some (order.value ((bytes.drop (4 * i)).take 4))
        else none) ∧
      r.wordCount = words.length ∧
      (Decoder.start words config'.vertexFactor).Yields (ps.map .ok) d ∧
      r.ranges.solid = ⟨0, solid⟩ ∧ r.ranges.blended = ⟨solid, blended⟩ ∧
      r.draws = [(0, solid), (solid, blended)].filter (·.2 ≠ 0) ∧
      r.stats = { modelsCached := 1, cacheHits := 0, polygonsInserted := ps.length,
                  staticClears := 0, dynamicClears := 0 } := by
  obtain ⟨config', contents, r, hconfig, hfile, hmake, htext⟩ := exists_report_of_printed h
  obtain ⟨ps, hitems, hcount, habout⟩ := Report.isAbout_of_make hmake
  obtain ⟨d, hyields⟩ := (Decoder.start (Report.words options contents.toList)
    config'.vertexFactor).yields_items
  rw [hitems] at hyields
  have hdraws := habout.draws
  rw [habout.ranges] at hdraws
  refine ⟨config', contents, r, ps, d, hconfig, hfile, hmake, htext, ?_⟩
  refine ⟨ByteOrder.getElem?_words _ _, hcount, hyields, ?_, ?_, hdraws, habout.stats⟩
  · rw [habout.ranges]
    rfl
  · rw [habout.ranges]
    rfl

/-- A triangle of the blended pass, and a byte behind it. -/
theorem outcome_printed_triangle :
    let limits : CacheLimits := ⟨64, 32, 4, 16, 8⟩
    let config : Config := ⟨limits, limits, .unlessWord4, 1⟩
    let options : Options := ⟨"m", false, true, 3, 0, none, false⟩
    let bytes : List UInt8 :=
      [0, 0, 0, 0, 0, 0, 0, 4, 0, 0, 0, 0, 0, 0, 0, 0, 0, 0, 0, 0, 0, 0, 0, 0, 0, 0, 0, 1,
        0, 0, 1, 0, 0, 0, 2, 0, 0, 0, 3, 0, 0, 0, 0, 0, 0, 0, 4, 0, 0, 0, 2, 0, 0, 0, 1, 0,
        0, 0, 0, 0, 0, 0, 1, 0, 0, 0, 5, 0, 0, 0, 3, 0, 0, 0, 0, 0, 9]
    ∃ text, ∃ r : Report, outcome options (.ok config) (some ⟨bytes.toArray⟩) = .printed text ∧
      text = r.text "m" ∧ r.wordCount = 19 := by
  intro limits config options bytes
  have hprinted : outcome options (.ok config) (some ⟨bytes.toArray⟩) = .printed
      ("Model:       m (19 words)\nCache:       Static, 64 vertices\n" ++
        "Opaque:      0 vertices at 0\nAlpha:       3 vertices at 0\nPolygons:    1\n" ++
        "Textures:    0 decoded, 0 deferred\nDraw:        3 vertices from 0\n") := by
    decide +kernel
  obtain ⟨config', contents, r, ps, d, -, hcontents, -, htext, -, hcount, -⟩ :=
    outcome_printed hprinted
  cases hcontents
  refine ⟨_, r, hprinted, htext, hcount.trans ?_⟩
  rw [ByteOrder.length_words]
  decide +kernel

end Dump

end PolygonRenderer
