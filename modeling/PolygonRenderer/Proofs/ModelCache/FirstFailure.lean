import PolygonRenderer.Proofs.ModelCache.Caching
import PolygonRenderer.Proofs.ModelCache.Clearing
import PolygonRenderer.Proofs.ModelCache.Reissue
import PolygonRenderer.Proofs.Polygon.Items

/-!
# The outcome of caching a model

What comes of caching a model is told by the items of its stream. Each item fails or not,
going by how many vertices those before it are drawn with (`ModelCache.failure?`). The
first one that fails decides, and if none does, the model enters with all the vertices
that its polygons contribute. Only then does it count whether there is such an index.
-/

namespace PolygonRenderer

namespace ModelCache

/-- How many vertices the polygons among items are drawn with in a pass. -/
def contribution : List (Except Truncation (Polygon Float32)) → Pass → Nat
  | [], _ => 0
  | .ok p :: items, pass => (if p.pass = pass then p.cornerCount else 0) + contribution items pass
  | .error _ :: items, pass => contribution items pass

/-- The error of the item with number `n`, if it fails. That is told by those before it,
where `cursor` vertices are in use before the first. -/
def failure? (stagingCapacity bufferCapacity cursor : Nat)
    (items : List (Except Truncation (Polygon Float32))) (n : Nat) : Option RenderError :=
  let before := contribution (items.take n)
  match items[n]? with
  | none => none
  | some (.error t) => some (.truncatedModel t)
  | some (.ok p) =>
    let needed := before p.pass + maxCorners
    if stagingCapacity ≤ needed then some (.stagingBufferOverflow p.pass needed stagingCapacity)
    else if bufferCapacity ≤ cursor + (before .solid + before .blended) + maxCorners then
      some .vertexBufferOverflow
    else none

/-- The error of the first item that fails. -/
def firstFailure? (stagingCapacity bufferCapacity cursor : Nat)
    (items : List (Except Truncation (Polygon Float32))) : Option RenderError :=
  (List.range items.length).findSome? (failure? stagingCapacity bufferCapacity cursor items)

theorem contribution_append (items items' : List (Except Truncation (Polygon Float32)))
    (pass : Pass) :
    contribution (items ++ items') pass = contribution items pass + contribution items' pass := by
  induction items with
  | nil => rw [List.nil_append, contribution, Nat.zero_add]
  | cons item items ih =>
      cases item with
      | error t => exact ih
      | ok p => rw [List.cons_append, contribution, contribution, ih, Nat.add_assoc]

theorem failure?_append_cons (stagingCapacity bufferCapacity cursor : Nat)
    (before : List (Except Truncation (Polygon Float32)))
    (item : Except Truncation (Polygon Float32))
    (items : List (Except Truncation (Polygon Float32))) :
    failure? stagingCapacity bufferCapacity cursor (before ++ item :: items) before.length =
      failure? stagingCapacity bufferCapacity cursor (before ++ [item]) before.length := by
  simp [failure?]

/-- The vertices of a polygon are counted for its own pass. -/
theorem contribution_append_singleton (before : List (Except Truncation (Polygon Float32)))
    (p : Polygon Float32) :
    (PerPass.mk (contribution before .solid) (contribution before .blended)).modify p.pass
        (· + p.cornerCount) =
      ⟨contribution (before ++ [.ok p]) .solid, contribution (before ++ [.ok p]) .blended⟩ := by
  cases hp : p.pass <;> simp [PerPass.modify, contribution_append, contribution, hp]

/-- The verdict is the error of the first item that fails, from any item on that no
failure precedes. -/
theorem verdict_eq_findSome? (stagingCapacity bufferCapacity cursor : Nat)
    (before : List (Except Truncation (Polygon Float32))) (events : List Decoder.Event) :
    let items := events.filterMap Decoder.Event.item?
    verdict stagingCapacity bufferCapacity
        (cursor + (contribution before .solid + contribution before .blended))
        ⟨contribution before .solid, contribution before .blended⟩ events =
      match (List.range' before.length items.length).findSome?
        (failure? stagingCapacity bufferCapacity cursor (before ++ items)) with
      | some e => .error e
      | none => .ok () := by
  intro items
  induction events generalizing before with
  | nil => rfl
  | cons event events ih =>
      cases event with
      | skipped position => exact ih before
      | truncated t =>
          have hitems : items = .error t :: events.filterMap Decoder.Event.item? := rfl
          rw [hitems, List.length_cons, List.range'_succ, List.findSome?_cons,
            failure?_append_cons, verdict]
          simp [failure?]
      | polygon p =>
          have hitems : items = .ok p :: events.filterMap Decoder.Event.item? := rfl
          have hget : (PerPass.mk (contribution before .solid) (contribution before .blended)).get
              p.pass = contribution before p.pass := by
            cases p.pass <;> rfl
          rw [hitems, List.length_cons, List.range'_succ, List.findSome?_cons,
            failure?_append_cons, verdict, hget]
          have hfailure : failure? stagingCapacity bufferCapacity cursor (before ++ [.ok p])
              before.length =
              let needed := contribution before p.pass + maxCorners
              if stagingCapacity ≤ needed then
                some (.stagingBufferOverflow p.pass needed stagingCapacity)
              else if bufferCapacity ≤ cursor +
                  (contribution before .solid + contribution before .blended) + maxCorners then
                some .vertexBufferOverflow
              else none := by
            simp [failure?]
          rw [hfailure]
          dsimp only
          split
          · rfl
          · split
            · rfl
            · -- the polygon fits, so it is one of those before the next item
              have ih := ih (before ++ [.ok p])
              have hcursor : cursor + (contribution before .solid + contribution before .blended) +
                  p.cornerCount = cursor + (contribution (before ++ [.ok p]) .solid +
                    contribution (before ++ [.ok p]) .blended) := by
                have hmodify := contribution_append_singleton before p
                cases hp : p.pass <;> rw [hp] at hmodify <;>
                  simp only [PerPass.modify, PerPass.mk.injEq] at hmodify <;> omega
              dsimp only at ih
              rw [List.length_append, List.length_singleton, List.append_assoc,
                List.singleton_append] at ih
              rw [contribution_append_singleton, hcursor]
              exact ih

/-- From the first item on. -/
theorem verdict_events (stagingCapacity bufferCapacity cursor : Nat) (d : Decoder) :
    verdict stagingCapacity bufferCapacity cursor (.both 0) d.events =
      match firstFailure? stagingCapacity bufferCapacity cursor d.items with
      | some e => .error e
      | none => .ok () := by
  rw [firstFailure?, List.range_eq_range']
  exact verdict_eq_findSome? stagingCapacity bufferCapacity cursor [] d.events

/-! ## The model that enters -/

theorem length_passVertices (ctx : DecodeContext) (events : List Decoder.Event) (pass : Pass) :
    (passVertices ctx (polygonsOf events) pass).length =
      contribution (events.filterMap Decoder.Event.item?) pass := by
  induction events with
  | nil => rfl
  | cons event events ih =>
      cases event with
      | skipped position => exact ih
      | truncated t => exact ih
      | polygon p =>
          have hpolygons : polygonsOf (.polygon p :: events) = [p] ++ polygonsOf events := rfl
          have hitems : (Decoder.Event.polygon p :: events).filterMap Decoder.Event.item? =
              .ok p :: events.filterMap Decoder.Event.item? := rfl
          rw [hpolygons, passVertices_append, List.length_append, ih, hitems, contribution,
            passVertices_singleton]
          split
          · rw [length_polygonVertices]
          · rfl

/-- A model that is ended lies behind the others, first the vertices of the solid pass. -/
theorem stagedRanges_of_begun {c c' : ModelCache} {new : Pass → List BufferVertex}
    (h : c.begun.StagesOn c' new) :
    c'.stagedRanges ⟨c.models.size, c.cursor⟩ =
      ⟨⟨c.cursor, (new .solid).length⟩,
        ⟨c.cursor + (new .solid).length, (new .blended).length⟩⟩ := by
  have hcount : ∀ p, c'.stagedCount p = (new p).length := by
    intro p
    rw [h.stagedCount_eq]
    cases p <;> exact Nat.zero_add _
  rw [stagedRanges, hcount, hcount]

/-- Where staging goes well, nothing but polygons is found. -/
theorem items_of_verdict_ok {stagingCapacity bufferCapacity cursor : Nat} {staged : PerPass Nat}
    {events : List Decoder.Event}
    (hok : verdict stagingCapacity bufferCapacity cursor staged events = .ok ()) :
    events.filterMap Decoder.Event.item? = (polygonsOf events).map .ok := by
  induction events generalizing cursor staged with
  | nil => rfl
  | cons event events ih =>
      cases event with
      | skipped position => exact ih hok
      | truncated t => cases hok
      | polygon p =>
          rw [verdict] at hok
          split at hok
          · cases hok
          · split at hok
            · cases hok
            · exact congrArg (.ok p :: ·) (ih hok)

variable {β τ : Type} [Backend β] [TextureManager τ] {c c' : ModelCache} {host host' : Host β τ}
  {ctx : DecodeContext} {index : UInt32} {offset : UInt16} {words : List UInt32}

/-- A model that enters is all polygons. -/
theorem items_of_cacheModel {id : ModelId}
    (h : (c.cacheModel host ctx index offset words).value = (.ok id, c', host')) :
    (Decoder.start words ctx.vertexFactor).items = (modelPolygons ctx words).map .ok := by
  rcases cacheModel_cases c host ctx index offset words with
    ⟨e, he⟩ | ⟨c₁, textures, ps, -, hslot, hroom, -⟩
  · rw [he] at h
    cases h
  · have hanswer := answer_cacheModel hslot host ctx index offset words
    rw [h, if_neg (Nat.not_le.2 hroom)] at hanswer
    cases hverdict : verdict c.stagingCapacity c.bufferCapacity c.cursor (.both 0)
      (Decoder.start words ctx.vertexFactor).events with
    | ok => exact items_of_verdict_ok hverdict
    | error e =>
        rw [hverdict] at hanswer
        cases hanswer

/-- A model enters with the vertices that its items contribute, and knows the one that was
looked up by its index before. -/
theorem cacheModel_pushes {id : ModelId}
    (h : (c.cacheModel host ctx index offset words).value = (.ok id, c', host')) :
    let items := (Decoder.start words ctx.vertexFactor).items
    let solid := contribution items .solid
    let blended := contribution items .blended
    id = ⟨c.models.size⟩ ∧ c'.cursor = c.cursor + solid + blended ∧
      ∃ textures, c'.models = c.models.push
        ⟨⟨⟨c.cursor, solid⟩, ⟨c.cursor + solid, blended⟩⟩, textures, index, offset,
          c.lut.get? index⟩ := by
  intro items solid blended
  rcases cacheModel_cases c host ctx index offset words with
    ⟨e, he⟩ | ⟨c₁, textures, ps, -, -, -, hstages, ⟨e, he⟩ | ⟨hps, -, hok⟩⟩
  · rw [he] at h
    cases h
  · rw [he] at h
    cases h
  · rw [hok] at h
    cases h
    have hlength : ∀ pass, (passVertices ctx ps pass).length = contribution items pass := by
      intro pass
      rw [hps]
      exact length_passVertices ctx _ pass
    have hcursor : c₁.cursor = c.cursor + (passVertices ctx ps .solid).length +
        (passVertices ctx ps .blended).length := hstages.cursor
    have hmodels : c₁.models = c.models := hstages.models_eq
    have hlut : c₁.lut = c.lut := hstages.lut_eq
    rw [hlength, hlength] at hcursor
    refine ⟨rfl, hcursor, c₁.staging.textures, ?_⟩
    rw [commit, stagedRanges_of_begun hstages, hlength, hlength, hmodels, hlut]

/-- What a cache answers with a model slot to spare. -/
theorem answer_of_items (hslot : c.staging.slot = none) (hroom : c.models.size < c.maxModels)
    (host : Host β τ) (ctx : DecodeContext) (index : UInt32) (offset : UInt16)
    (words : List UInt32) :
    (c.cacheModel host ctx index offset words).value.1 =
      match firstFailure? c.stagingCapacity c.bufferCapacity c.cursor
        (Decoder.start words ctx.vertexFactor).items with
      | some e => .error e
      | none =>
        if index.toNat < c.lut.size then .ok ⟨c.models.size⟩
        else .error (.lutIndexOutOfRange index c.lut.size) := by
  rw [answer_cacheModel hslot, if_neg (Nat.not_le.2 hroom), verdict_events]
  cases firstFailure? c.stagingCapacity c.bufferCapacity c.cursor
    (Decoder.start words ctx.vertexFactor).items <;> rfl

end ModelCache

namespace CacheSession

variable {β τ : Type} [Backend β] [TextureManager τ]

/-- After any calls, a cache with a model slot to spare that is not staging a model answers
the error of the first item that fails. If none does, a model whose index is in the table
enters at the cursor, with the vertices that the items contribute, and names the newest
model of its index before it. -/
theorem cacheModel_run {limits : CacheLimits} {source : ModelSource} {b b' : β} {c : ModelCache}
    (hcreate : (ModelCache.create limits source b).value = (.ok c, b')) (textures : τ)
    (calls : List (CacheCall β τ)) (ctx : DecodeContext) (index : UInt32) (offset : UInt16)
    (words : List UInt32) (items : List (Except Truncation (Polygon Float32))) (d : Decoder)
    (hitems : (Decoder.start words ctx.vertexFactor).Yields items d) :
    let s := (CacheSession.mk c ⟨b', textures⟩).run calls
    let solid := ModelCache.contribution items .solid
    let blended := ModelCache.contribution items .blended
    s.cache.staging.slot = none → s.cache.models.size < limits.maxModels →
      ∃ answer c' host',
        (s.cache.cacheModel s.host ctx index offset words).value = (answer, c', host') ∧
        (answer =
          match ModelCache.firstFailure? limits.stagingVertices c.bufferCapacity s.cache.cursor
            items with
          | some e => .error e
          | none =>
            if index.toNat < limits.lutEntries then .ok ⟨s.cache.models.size⟩
            else .error (.lutIndexOutOfRange index limits.lutEntries)) ∧
        ∀ id, answer = .ok id →
          c'.cursor = s.cache.cursor + solid + blended ∧
          ∃ m, c'.models = s.cache.models.push m ∧
            m.ranges.solid = ⟨s.cache.cursor, solid⟩ ∧
            m.ranges.blended = ⟨s.cache.cursor + solid, blended⟩ ∧
            m.lutIndex = index ∧ m.textureOffset = offset ∧
            m.nextVariant =
              ModelCache.newest (ModelCache.hasIndex index) s.cache.models s.cache.models.size := by
  intro s solid blended hslot hroom
  have hlinked : s.cache.IsLinked := (CacheHistory.tracks_create hcreate textures calls).linked
  have hfixtures : s.cache.fixtures = c.fixtures := fixtures_run _ calls
  obtain ⟨-, buffer, capacity, -, rfl, -⟩ := ModelCache.create_ok hcreate
  simp only [ModelCache.fixtures, ModelCache.stores, Prod.mk.injEq] at hfixtures
  obtain ⟨-, ⟨-, hbuffer, hstaging, hmodels⟩, hlut, -⟩ := hfixtures
  have hlut : s.cache.lut.size = limits.lutEntries := hlut.trans (LookupTable.size_empty _)
  have hanswer := ModelCache.answer_of_items hslot (by rw [hmodels]; exact hroom) s.host ctx index
    offset words
  rw [← hitems.eq_items, hbuffer, hstaging, hlut] at hanswer
  refine ⟨_, _, _, rfl, hanswer, ?_⟩
  intro id hid
  obtain ⟨-, hcursor, kept, hpush⟩ := ModelCache.cacheModel_pushes (Prod.ext hid rfl)
  rw [← hitems.eq_items] at hcursor hpush
  exact ⟨hcursor, _, hpush, rfl, rfl, rfl, rfl, hlinked.head index⟩

/-- A triangle enters as a second variant, and names the first one. -/
theorem cacheModel_second_variant :
    let limits : CacheLimits := ⟨64, 32, 4, 16, 8⟩
    let words : List UInt32 := [0, 4, 0, 0, 0, 0, 1, 1, 2, 3, 4, 5, 6, 7, 8, 9, 10, 11, 12]
    let ctx : DecodeContext := ⟨1, -1, 0, 0, #[], .unlessWord4, .origin⟩
    let calls : List (CacheCall Recorder TextureLog) := [.beginModel, .endModel ⟨0, 0⟩ 3 0x10]
    ∃ c b', (ModelCache.create limits .static (Recorder.empty none)).value = (.ok c, b') ∧
      let s := (CacheSession.mk c ⟨b', TextureLog.empty 16 .origin⟩).run calls
      ∃ c' host', (s.cache.cacheModel s.host ctx 3 0x20 words).value = (.ok ⟨1⟩, c', host') ∧
        ∃ m, c'.models = s.cache.models.push m ∧ m.nextVariant = some ⟨0⟩ := by
  intro limits words ctx calls
  have hcreate : (ModelCache.create limits .static (Recorder.empty none)).value = (.ok _, _) :=
    ModelCache.create_of_granted rfl
  have hitems : (Decoder.start words ctx.vertexFactor).Yields [.ok _] _ :=
    Decoder.Yields.of_step_yielded rfl rfl (Decoder.yields_of_finished rfl)
  obtain ⟨answer, c', host', hvalue, hanswer, henters⟩ := cacheModel_run hcreate
    (TextureLog.empty 16 .origin) calls ctx 3 0x20 words _ _ hitems (by decide +kernel)
    (by decide +kernel)
  have hok : answer = .ok ⟨1⟩ := by
    rw [hanswer]
    rfl
  obtain ⟨-, m, hpush, -, -, -, -, hnext⟩ := henters _ hok
  rw [hok] at hvalue
  refine ⟨_, _, hcreate, c', host', hvalue, m, hpush, ?_⟩
  rw [hnext]
  decide +kernel

end CacheSession

end PolygonRenderer
