import PolygonRenderer.Proofs.DisplayList.Draws
import PolygonRenderer.Proofs.DisplayList.Threads
import PolygonRenderer.Proofs.ModelCache.Contents
import PolygonRenderer.Proofs.Renderer.Outcomes

/-!
# Draw calls served by a cache

A cache serves draw calls if what it shows is what would be shown without it:
for each call that has been drawn and not been dropped, the triangles of its own
words. `Serves` says so for the pictures of both passes, and what it takes for
this to last: each model holds the vertices of a call that was made for it, and
no instance reaches beyond the cursor.

The main statement is that drawing keeps a cache serving, whether the model is
found, cached, cached after a clear or not drawn at all.
-/

namespace PolygonRenderer

/-- A request, and where its model is to stand. -/
structure DrawCall where
  request : ModelRequest
  transform : Transform

namespace DrawCall

/-- The call is for a cached model, going by its key. -/
def IsFor (d : DrawCall) (source : ModelSource) (m : CachedModel) : Prop :=
  d.request.source = source ∧ d.request.lutIndex = m.lutIndex ∧
    d.request.textureOffset = m.textureOffset

/-- What is to be seen of a call in a pass: nothing at all without vertices. -/
def picture? (d : DrawCall) (vertices : List BufferVertex) (buffer : BufferHandle) (p : Pass) :
    Option Picture :=
  if vertices = [] then none
  else some
    { state :=
        { buffer := some buffer
          blended := some (p == .blended)
          cull := some (Winding.ofTransform d.transform.modelView d.transform.zSign).cullState
          modelView := some d.transform.modelView }
      bytes := some (BufferVertex.encodeAll vertices) }

/-- Calls for the same model have the same vertices as those before them. -/
def Agrees (d : DrawCall) (vertices : DrawCall → Pass → List BufferVertex)
    (earlier : List DrawCall) : Prop :=
  ∀ e ∈ earlier, e.request.source = d.request.source →
    e.request.lutIndex = d.request.lutIndex →
    e.request.textureOffset = d.request.textureOffset → vertices e = vertices d

theorem Agrees.cons_self {d : DrawCall} {vertices : DrawCall → Pass → List BufferVertex}
    {earlier : List DrawCall} (h : d.Agrees vertices earlier) : d.Agrees vertices (d :: earlier) := by
  intro e he hsource hindex hoffset
  rcases List.mem_cons.1 he with rfl | he
  · rfl
  · exact h e he hsource hindex hoffset

/-- The calls that are shown after an answer. -/
def shown (d : DrawCall) (live : List DrawCall) : Except RenderError ModelId → List DrawCall
  | .ok _ => live ++ [d]
  | .error _ => live

end DrawCall

namespace ModelCache

/-- What is seen of an instance of a cached model. -/
def picture (c : ModelCache) (r : Recorder) (p : Pass) (m : ModelInstance) : Picture :=
  ⟨m.state c.buffer p, r.fetch? c.buffer m.range⟩

end ModelCache

/-- The cache shows the calls in `live`, and its models were cached for calls in
`earlier`. -/
structure Serves (vertices : DrawCall → Pass → List BufferVertex) (source : ModelSource)
    (earlier live : List DrawCall) (r : Recorder) (c : ModelCache) : Prop where
  accounts : ModelCache.Accounts none c
  linked : c.IsLinked
  threaded : c.displayList.IsLinked
  hasRoom : r.HasRoom c.buffer c.bufferCapacity
  stored : ∀ m ∈ c.models, ∃ d ∈ earlier, d.IsFor source m ∧ c.Holds r m (vertices d)
  placed : ∀ p, ∀ m ∈ c.displayList.instances p, m.range.first + m.range.count ≤ c.cursor
  shown : ∀ p, (c.displayList.instances p).map (c.picture r p) =
    live.filterMap fun d => d.picture? (vertices d p) c.buffer p

namespace Serves

variable {vertices : DrawCall → Pass → List BufferVertex} {source : ModelSource}
  {earlier live : List DrawCall} {r r' : Recorder} {c c' : ModelCache}

/-- Nothing is shown of an empty cache. -/
theorem of_isEmpty (haccounts : ModelCache.Accounts none c) (hlinked : c.IsLinked)
    (hroom : r.HasRoom c.buffer c.bufferCapacity) (hmodels : c.models = #[]) {capacity : Nat}
    (hdisplay : c.displayList = .empty capacity) (earlier : List DrawCall) :
    Serves vertices source earlier [] r c := by
  have hinstances : ∀ p, c.displayList.instances p = [] := by
    intro p
    rw [hdisplay, DisplayList.instances, DisplayList.contents_empty, List.filterMap_nil]
  refine ⟨haccounts, hlinked, hdisplay ▸ DisplayList.isLinked_empty capacity, hroom, ?_, ?_, ?_⟩
  · intro m hm
    rw [hmodels] at hm
    exact absurd hm (Array.not_mem_empty m)
  · intro p m hm
    rw [hinstances] at hm
    cases hm
  · intro p
    rw [hinstances]
    rfl

theorem cleared (h : Serves vertices source earlier live r c) (earlier' : List DrawCall) :
    Serves vertices source earlier' [] r c.cleared :=
  of_isEmpty (.cleared c) h.linked.cleared h.hasRoom rfl rfl earlier'

/-- Calls for other caches do not count. -/
theorem mono (h : Serves vertices source earlier live r c) {earlier' : List DrawCall}
    (hsub : ∀ d ∈ earlier, d.request.source = source → d ∈ earlier') :
    Serves vertices source earlier' live r c := by
  refine { h with stored := ?_ }
  intro m hm
  obtain ⟨d, hd, hfor, hholds⟩ := h.stored m hm
  exact ⟨d, hsub d hd hfor.1, hfor, hholds⟩

/-- Other buffers do not count. -/
theorem of_buffer?_eq (h : Serves vertices source earlier live r c)
    (hsame : r'.buffer? c.buffer = r.buffer? c.buffer) :
    Serves vertices source earlier live r' c := by
  have hfetch := Recorder.fetch?_congr hsame
  refine { h with hasRoom := h.hasRoom.congr hsame, stored := ?_, shown := ?_ }
  · intro m hm
    obtain ⟨d, hd, hfor, hholds⟩ := h.stored m hm
    exact ⟨d, hd, hfor, hholds.congr fun p => hfetch _⟩
  · intro p
    rw [← h.shown p]
    apply List.map_congr_left
    intro m _
    rw [ModelCache.picture, hfetch, ModelCache.picture]

/-- Only what lasts of a cache counts. -/
theorem of_eq (h : Serves vertices source earlier live r c)
    (haccounts : ModelCache.Accounts none c') (hlinked : c'.IsLinked)
    (hmodels : c'.models = c.models) (hdisplay : c'.displayList = c.displayList)
    (hbuffer : c'.buffer = c.buffer) (hcapacity : c'.bufferCapacity = c.bufferCapacity)
    (hcursor : c'.cursor = c.cursor) : Serves vertices source earlier live r c' where
  accounts := haccounts
  linked := hlinked
  threaded := hdisplay ▸ h.threaded
  hasRoom := by
    rw [hbuffer, hcapacity]
    exact h.hasRoom
  stored m hm := by
    rw [hmodels] at hm
    obtain ⟨d, hd, hfor, hholds⟩ := h.stored m hm
    exact ⟨d, hd, hfor, hholds.congr fun p => by rw [hbuffer]⟩
  placed p m hm := by
    rw [hdisplay] at hm
    rw [hcursor]
    exact h.placed p m hm
  shown p := by
    rw [hdisplay, hbuffer, ← h.shown p]
    apply List.map_congr_left
    intro m _
    rw [ModelCache.picture, hbuffer, ModelCache.picture]

/-- A model that enters leaves those that are shown alone. -/
theorem enter (h : Serves vertices source earlier live r c) {d : DrawCall}
    (hsource : d.request.source = source)
    (henters : c.Enters c' r r' d.request.lutIndex d.request.textureOffset (vertices d))
    (haccounts : ModelCache.Accounts none c') (hlinked : c'.IsLinked) :
    Serves vertices source (d :: earlier) live r' c' where
  accounts := haccounts
  linked := hlinked
  threaded := henters.displayList ▸ h.threaded
  hasRoom := henters.hasRoom
  stored m hm := by
    obtain ⟨new, hmodels, hindex, hoffset, hholds⟩ := henters.model
    rw [hmodels, Array.mem_push] at hm
    rcases hm with hm | rfl
    · have hbefore := h.accounts.accounted.range_le hm
      obtain ⟨e, he, hfor, hholds⟩ := h.stored m hm
      exact ⟨e, List.mem_cons_of_mem d he, hfor,
        hholds.congr fun p => henters.fetch?_of_le _ (hbefore p)⟩
    · exact ⟨d, List.mem_cons_self, ⟨hsource, hindex.symm, hoffset.symm⟩, hholds⟩
  placed p m hm := by
    rw [henters.displayList] at hm
    exact Nat.le_trans (h.placed p m hm) henters.cursor
  shown p := by
    rw [henters.displayList, henters.buffer, ← h.shown p]
    apply List.map_congr_left
    intro m hm
    have hfetch := henters.fetch?_of_le m.range (h.placed p m hm)
    rw [ModelCache.picture, hfetch, henters.buffer, ModelCache.picture]

/-! ## Display lists -/

/-- The instances of another display list, of the same models. -/
theorem of_displayList (h : Serves vertices source earlier live r c) {l : DisplayList}
    {live' : List DrawCall} (hthreaded : l.IsLinked)
    (hplaced : ∀ p, ∀ m ∈ l.instances p, m.range.first + m.range.count ≤ c.cursor)
    (hshown : ∀ p, (l.instances p).map (c.picture r p) =
      live'.filterMap fun d => d.picture? (vertices d p) c.buffer p) :
    Serves vertices source earlier live' r { c with displayList := l } where
  accounts := h.accounts.of_displayList l
  linked := h.linked.of_eq rfl rfl (.inr rfl)
  threaded := hthreaded
  hasRoom := h.hasRoom
  stored := h.stored
  placed := hplaced
  shown := hshown

theorem clearDisplayList (h : Serves vertices source earlier live r c) :
    Serves vertices source earlier [] r c.clearDisplayList := by
  have hinstances : ∀ p, c.displayList.clear.instances p = [] := by
    intro p
    rw [DisplayList.clear, DisplayList.instances, DisplayList.contents_empty, List.filterMap_nil]
  refine h.of_displayList (DisplayList.isLinked_empty _) ?_ ?_
  · intro p m hm
    rw [hinstances] at hm
    cases hm
  · intro p
    rw [hinstances]
    rfl

theorem appendViewport (h : Serves vertices source earlier live r c) {v : Viewport}
    (hok : c.appendViewport v = .ok c') : Serves vertices source earlier live r c' := by
  obtain ⟨l, hl, rfl⟩ := ModelCache.appendViewport_ok hok
  obtain ⟨hthreaded, hcontents⟩ := h.threaded.appendViewport hl
  have hinstances : ∀ p, l.instances p = c.displayList.instances p := by
    intro p
    rw [DisplayList.instances, hcontents, List.filterMap_append, DisplayList.instances]
    exact List.append_nil _
  refine h.of_displayList hthreaded ?_ ?_
  · intro p m hm
    rw [hinstances] at hm
    exact h.placed p m hm
  · intro p
    rw [hinstances]
    exact h.shown p

/-- An instance of a model that holds the vertices of a call shows the call. -/
theorem appendModel (h : Serves vertices source earlier live r c) {d : DrawCall} {id : ModelId}
    {m : CachedModel} (hm : c.model? id = some m) (hholds : c.Holds r m (vertices d))
    (hok : c.appendModel id d.transform = .ok c') :
    Serves vertices source earlier (live ++ [d]) r c' := by
  obtain ⟨m', l, hm', hl, rfl⟩ := ModelCache.appendModel_ok hok
  rw [hm] at hm'
  cases hm'
  obtain ⟨hthreaded, hcontents⟩ := h.threaded.appendModel hl
  have hcount : ∀ p, (m.ranges.get p).count = 0 ↔ vertices d p = [] := by
    intro p
    rw [Recorder.count_eq_of_fetch? (hholds p), List.length_eq_zero_iff]
  refine h.of_displayList hthreaded ?_ ?_
  · intro p i hi
    rw [DisplayList.instances, hcontents, List.filterMap_append, List.mem_append] at hi
    rcases hi with hi | hi
    · exact h.placed p i hi
    · split at hi
      · cases List.mem_singleton.1 hi
        exact h.accounts.accounted.range_le (Array.mem_of_getElem? hm) p
      · cases hi
  · intro p
    rw [DisplayList.instances, hcontents, List.filterMap_append, List.map_append,
      List.filterMap_append, ← h.shown p]
    congr 1
    by_cases hnil : vertices d p = []
    · simp [DrawCall.picture?, hnil, (hcount p).2 hnil]
    · have hne : (m.ranges.get p).count ≠ 0 := fun hzero => hnil ((hcount p).1 hzero)
      simp [DrawCall.picture?, hnil, hne, NodeContent.model?, ModelCache.picture,
        ModelInstance.state, hholds p]

end Serves

namespace Drawing

variable {τ : Type}

/-- From `x` to `y`, no buffer is written but that of the cache. -/
structure IsConfined (x y : Drawing Recorder τ) : Prop where
  buffer : y.cache.buffer = x.cache.buffer
  buffer?_of_ne : ∀ other, other ≠ x.cache.buffer →
    y.host.backend.buffer? other = x.host.backend.buffer? other

theorem IsConfined.trans {x y z : Drawing Recorder τ} (h : x.IsConfined y)
    (h' : y.IsConfined z) : x.IsConfined z where
  buffer := h'.buffer.trans h.buffer
  buffer?_of_ne other hne := by
    rw [h'.buffer?_of_ne other (h.buffer ▸ hne), h.buffer?_of_ne other hne]

end Drawing

namespace Serves

variable {τ : Type} {vertices : DrawCall → Pass → List BufferVertex}
  {source : ModelSource} {earlier live : List DrawCall} {x : Drawing Recorder τ}

/-- A cache that is cleared shows nothing any more. -/
theorem makeRoom (h : Serves vertices source earlier live x.host.backend x.cache)
    {viewport : Option Viewport} {answer : Except RenderError Unit} {y : Drawing Recorder τ}
    (hvalue : (x.makeRoom source viewport).value = (answer, y)) :
    Serves vertices source earlier [] y.host.backend y.cache ∧ x.IsConfined y ∧
      y.stats.clears source = x.stats.clears source + 1 := by
  have hcleared := h.cleared earlier
  have hclears := FrameStats.clears_countClear x.stats source
  rcases x.makeRoom_cases source viewport with
    ⟨v, e, -, -, he⟩ | ⟨-, hnone⟩ | ⟨v, c, -, happend, hsome⟩
  · rw [he] at hvalue
    cases hvalue
    exact ⟨hcleared, ⟨rfl, fun _ _ => rfl⟩, hclears⟩
  · rw [hnone] at hvalue
    cases hvalue
    exact ⟨hcleared, ⟨rfl, fun _ _ => rfl⟩, hclears⟩
  · rw [hsome] at hvalue
    cases hvalue
    have hbuffer : c.buffer = x.cache.cleared.buffer :=
      ModelCache.buffer_of_appendViewport happend
    exact ⟨hcleared.appendViewport happend, ⟨hbuffer, fun _ _ => rfl⟩, hclears⟩

variable [TextureManager τ]

/-- The model of a call is found or cached, and then holds the vertices of the call. -/
theorem obtain (h : Serves vertices source earlier live x.host.backend x.cache) {d : DrawCall}
    {ctx : DecodeContext} (hsource : d.request.source = source)
    (hvertices : vertices d =
      ModelCache.passVertices ctx (ModelCache.modelPolygons ctx d.request.words))
    (hagrees : d.Agrees vertices earlier) {answer : Except RenderError ModelId}
    {y : Drawing Recorder τ} (hvalue : (x.obtain ctx d.request).value = (answer, y)) :
    Serves vertices source (d :: earlier) live y.host.backend y.cache ∧ x.IsConfined y ∧
      y.stats.clears source = x.stats.clears source ∧
      ∀ id, answer = .ok id → ∃ m, y.cache.model? id = some m ∧
        y.cache.Holds y.host.backend m (vertices d) := by
  have hmono : ∀ e ∈ earlier, e.request.source = source → e ∈ d :: earlier :=
    fun e he _ => List.mem_cons_of_mem d he
  obtain ⟨stats, hclears, ⟨id, hfound, hhit⟩ | ⟨answer', c, host, hcache, hmiss⟩⟩ :=
    x.obtain_cases ctx d.request
  · rw [hhit] at hvalue
    cases hvalue
    obtain ⟨m, hm, hindex, hoffset⟩ := h.linked.exists_of_lookUp hfound
    -- the model was cached for an earlier call, which has the same vertices
    obtain ⟨e, he, hfor, hholds⟩ := h.stored m (Array.mem_of_getElem? hm)
    have hsame : vertices e = vertices d :=
      hagrees e he (hfor.1.trans hsource.symm) (hfor.2.1.trans hindex) (hfor.2.2.trans hoffset)
    refine ⟨h.mono hmono, ⟨rfl, fun _ _ => rfl⟩, hclears source, ?_⟩
    intro id' hid
    cases hid
    exact ⟨m, hm, hsame ▸ hholds⟩
  · rw [hmiss] at hvalue
    cases hvalue
    have henters := ModelCache.cacheModel_enters h.accounts h.hasRoom ctx d.request.lutIndex
      d.request.textureOffset d.request.words
    have haccounts := h.accounts.cacheModel x.host ctx d.request.lutIndex
      d.request.textureOffset d.request.words
    have hlinked := h.linked.cacheModel x.host ctx d.request.lutIndex d.request.textureOffset
      d.request.words
    rw [hcache] at henters haccounts hlinked
    cases answer with
    | error e =>
        obtain ⟨hmodels, hdisplay, hbuffer, hcapacity, hcursor, hbackend⟩ := henters
        have hserves := h.of_eq haccounts hlinked hmodels hdisplay hbuffer hcapacity hcursor
        refine ⟨?_, ⟨hbuffer, ?_⟩, hclears source, ?_⟩
        · rw [hbackend]
          exact hserves.mono hmono
        · intro other _
          rw [hbackend]
        · intro id hid
          cases hid
    | ok id =>
        obtain ⟨rfl, henters⟩ := henters
        rw [← hvertices] at henters
        refine ⟨h.enter hsource henters haccounts hlinked,
          ⟨henters.buffer, henters.buffer?_of_ne⟩, hclears source, ?_⟩
        intro id hid
        cases hid
        obtain ⟨m, hmodels, -, -, hholds⟩ := henters.model
        refine ⟨m, ?_, hholds⟩
        rw [ModelCache.model?, hmodels]
        exact Array.getElem?_push_size

/-- A call is shown if it was drawn at the first attempt, and otherwise nothing is
shown or dropped. -/
theorem attempt (h : Serves vertices source earlier live x.host.backend x.cache) {d : DrawCall}
    {ctx : DecodeContext} (hsource : d.request.source = source)
    (hvertices : vertices d =
      ModelCache.passVertices ctx (ModelCache.modelPolygons ctx d.request.words))
    (hagrees : d.Agrees vertices earlier) {answer : Except RenderError ModelId}
    {y : Drawing Recorder τ}
    (hvalue : (x.attempt ctx d.request d.transform).value = (answer, y)) :
    Serves vertices source (d :: earlier) (d.shown live answer) y.host.backend y.cache ∧
      x.IsConfined y ∧ y.stats.clears source = x.stats.clears source := by
  rcases x.attempt_cases ctx d.request d.transform with
    ⟨e, z, hobtain, hattempt⟩ | ⟨id, z, hobtain, happend⟩
  · rw [hattempt] at hvalue
    cases hvalue
    obtain ⟨hserves, hconfined, hclears, -⟩ := h.obtain hsource hvertices hagrees hobtain
    exact ⟨hserves, hconfined, hclears⟩
  · obtain ⟨hserves, hconfined, hclears, hmodel⟩ := h.obtain hsource hvertices hagrees hobtain
    obtain ⟨m, hm, hholds⟩ := hmodel id rfl
    rcases happend with ⟨e, -, hattempt⟩ | ⟨c, happend, hattempt⟩
    · rw [hattempt] at hvalue
      cases hvalue
      exact ⟨hserves, hconfined, hclears⟩
    · rw [hattempt] at hvalue
      cases hvalue
      have hbuffer : c.buffer = z.cache.buffer := ModelCache.buffer_of_appendModel happend
      exact ⟨hserves.appendModel hm hholds happend,
        ⟨hbuffer.trans hconfined.buffer, hconfined.buffer?_of_ne⟩, hclears⟩

/-- A call is shown if it was drawn. The calls before it are shown unless the cache
was cleared, which the counter tells. -/
theorem run (h : Serves vertices source earlier live x.host.backend x.cache) {d : DrawCall}
    {ctx : DecodeContext} (hsource : d.request.source = source)
    (hvertices : vertices d =
      ModelCache.passVertices ctx (ModelCache.modelPolygons ctx d.request.words))
    (hagrees : d.Agrees vertices earlier) {viewport : Option Viewport}
    {answer : Except RenderError ModelId} {y : Drawing Recorder τ}
    (hvalue : (x.run viewport ctx d.request d.transform).value = (answer, y)) :
    Serves vertices source (d :: earlier)
      (d.shown (if y.stats.clears source = x.stats.clears source then live else []) answer)
      y.host.backend y.cache ∧ x.IsConfined y := by
  rcases x.run_cases viewport ctx d.request d.transform with
    ⟨hrun, -⟩ | ⟨e, z, hfirst, -, hretry⟩
  · obtain ⟨hserves, hconfined, hclears⟩ :=
      h.attempt hsource hvertices hagrees (hrun.symm.trans hvalue)
    rw [if_pos hclears]
    exact ⟨hserves, hconfined⟩
  · obtain ⟨hserves, hconfined, hclears⟩ := h.attempt hsource hvertices hagrees hfirst
    rw [hsource] at hretry
    rcases hretry with ⟨e', w, hroom, hrun⟩ | ⟨w, hroom, hrun⟩
    · rw [hrun] at hvalue
      cases hvalue
      obtain ⟨hserves', hconfined', hclears'⟩ := hserves.makeRoom hroom
      rw [if_neg (by omega)]
      exact ⟨hserves', hconfined.trans hconfined'⟩
    · obtain ⟨hserves', hconfined', hclears'⟩ := hserves.makeRoom hroom
      -- the first attempt may have cached the model, so the call is now among those before it
      have hagrees' : d.Agrees vertices (d :: earlier) := hagrees.cons_self
      obtain ⟨hserves'', hconfined'', hclears''⟩ :=
        hserves'.attempt hsource hvertices hagrees' (hrun.symm.trans hvalue)
      rw [if_neg (by omega)]
      refine ⟨hserves''.mono ?_, hconfined.trans (hconfined'.trans hconfined'')⟩
      intro e he _
      rcases List.mem_cons.1 he with rfl | he
      · exact List.mem_cons_self
      · exact he

end Serves

end PolygonRenderer
