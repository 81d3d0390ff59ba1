import PolygonRenderer.Proofs.Graphics.Pictures
import PolygonRenderer.Proofs.ModelCache.Accounting
import PolygonRenderer.Proofs.ModelCache.Variants

/-!
# Contents of the vertex buffer

A model that enters a cache is written behind the models that are there, so that
the bytes of those stay what they were. `ModelCache.Enters` says all that the
entering of a model changes, in the cache and in its buffer.
-/

namespace PolygonRenderer

namespace ModelCache

variable {c : ModelCache} {r : Recorder}

/-- A buffer that is refused leaves no trace but a call on record. -/
theorem buffers_of_refusals {b b' : Recorder} (h : Refusals b b') : b'.buffers = b.buffers := by
  induction h with
  | refl => rfl
  | step head _ ih =>
      obtain ⟨-, rfl⟩ := Recorder.allocate_error head
      exact ih

/-- A new cache takes the next buffer of a recorder, which is zero throughout. -/
theorem buffers_of_create {limits : CacheLimits} {source : ModelSource} {b b' : Recorder}
    (h : (create limits source b).value = (.ok c, b')) :
    ∃ capacity, c = empty limits source ⟨b.buffers.size⟩ capacity ∧
      b'.buffers = b.buffers.push (some (.zero (BufferVertex.byteCount * capacity))) := by
  obtain ⟨b₁, buffer, capacity, hrefusals, rfl, hallocate⟩ := create_ok h
  obtain ⟨-, rfl, hbuffers⟩ := Recorder.allocate_ok hallocate
  rw [buffers_of_refusals hrefusals] at hbuffers ⊢
  exact ⟨capacity, rfl, hbuffers⟩

/-- The bytes of a cached model are those of the given vertices. -/
def Holds (c : ModelCache) (r : Recorder) (m : CachedModel)
    (vertices : Pass → List BufferVertex) : Prop :=
  ∀ p, r.fetch? c.buffer (m.ranges.get p) = some (BufferVertex.encodeAll (vertices p))

/-- Nothing counts but what is read in the ranges of the model. -/
theorem Holds.congr {c' : ModelCache} {r' : Recorder} {m : CachedModel}
    {vertices : Pass → List BufferVertex} (h : c.Holds r m vertices)
    (hsame : ∀ p, r'.fetch? c'.buffer (m.ranges.get p) = r.fetch? c.buffer (m.ranges.get p)) :
    c'.Holds r' m vertices :=
  fun p => (hsame p).trans (h p)

theorem writes_uploadPass (hroom : r.HasRoom c.buffer c.bufferCapacity) (h : StagingHandle)
    {p : Pass}
    (hle : ((c.stagedRanges h).get p).first + ((c.stagedRanges h).get p).count ≤ c.bufferCapacity) :
    r.Writes (c.uploadPass h r p).value c.buffer c.bufferCapacity ((c.stagedRanges h).get p)
      (BufferVertex.encodeAll (c.staging.vertices.get p).toList) := by
  have hcount : ((c.stagedRanges h).get p).count = (c.staging.vertices.get p).toList.length := by
    rw [Array.length_toList]
    cases p <;> rfl
  unfold uploadPass
  dsimp only
  split
  · rename_i hzero
    have hnil : (c.staging.vertices.get p).toList = [] := by
      rw [← List.length_eq_zero_iff, ← hcount, hzero]
    rw [hnil]
    exact Recorder.writes_nothing hroom hzero (by omega)
  · exact Recorder.writes_upload hroom hcount hle

/-- The staged vertices of both passes are found in their ranges, and what lies
before them is left as it was. -/
theorem fetch?_uploaded (hroom : r.HasRoom c.buffer c.bufferCapacity) (h : StagingHandle)
    (hle : h.firstVertex + c.stagedCount .solid + c.stagedCount .blended ≤ c.bufferCapacity) :
    (c.uploaded h r).HasRoom c.buffer c.bufferCapacity ∧
      (∀ p, (c.uploaded h r).fetch? c.buffer ((c.stagedRanges h).get p) =
        some (BufferVertex.encodeAll (c.staging.vertices.get p).toList)) ∧
      (∀ range : VertexRange, range.first + range.count ≤ h.firstVertex →
        (c.uploaded h r).fetch? c.buffer range = r.fetch? c.buffer range) ∧
      ∀ other, other ≠ c.buffer → (c.uploaded h r).buffer? other = r.buffer? other := by
  have huploaded : c.uploaded h r =
      (c.uploadPass h (c.uploadPass h r .solid).value .blended).value := rfl
  have hsolidLe : ((c.stagedRanges h).get .solid).first + ((c.stagedRanges h).get .solid).count ≤
      c.bufferCapacity := by
    change h.firstVertex + c.stagedCount .solid ≤ c.bufferCapacity
    omega
  have hsolid := writes_uploadPass hroom h hsolidLe
  have hblended := writes_uploadPass (p := .blended) hsolid.hasRoom h hle
  rw [huploaded]
  refine ⟨hblended.hasRoom, ?_, ?_, ?_⟩
  · intro p
    cases p with
    | solid =>
        rw [hblended.fetch?_of_disjoint _ (.inl (Nat.le_refl _))]
        exact hsolid.fetch?_self
    | blended => exact hblended.fetch?_self
  · intro range hrange
    have hbefore : range.first + range.count ≤ ((c.stagedRanges h).get .blended).first :=
      Nat.le_trans hrange (Nat.le_add_right _ _)
    rw [hblended.fetch?_of_disjoint range (.inl hbefore),
      hsolid.fetch?_of_disjoint range (.inl hrange)]
  · intro other hne
    rw [hblended.buffer?_of_ne other hne, hsolid.buffer?_of_ne other hne]

/-- A model enters the cache `c` under a key, which gives the cache `c'`. -/
structure Enters (c c' : ModelCache) (r r' : Recorder) (index : UInt32) (offset : UInt16)
    (vertices : Pass → List BufferVertex) : Prop where
  model : ∃ m, c'.models = c.models.push m ∧ m.lutIndex = index ∧ m.textureOffset = offset ∧
    c'.Holds r' m vertices
  displayList : c'.displayList = c.displayList
  buffer : c'.buffer = c.buffer
  cursor : c.cursor ≤ c'.cursor
  hasRoom : r'.HasRoom c'.buffer c'.bufferCapacity
  fetch?_of_le : ∀ range : VertexRange, range.first + range.count ≤ c.cursor →
    r'.fetch? c'.buffer range = r.fetch? c.buffer range
  buffer?_of_ne : ∀ other, other ≠ c.buffer → r'.buffer? other = r.buffer? other

theorem enters_commit {c' : ModelCache} {ctx : DecodeContext} {ps : List (Polygon Float32)}
    (haccounts : Accounts none c) (hroom : r.HasRoom c.buffer c.bufferCapacity)
    (hsize : c.models.size < c.maxModels) (hstages : c.begun.StagesOn c' (passVertices ctx ps))
    (index : UInt32) (offset : UInt16) :
    c.Enters (c'.commit ⟨c.models.size, c.cursor⟩ index offset) r
      (c'.uploaded ⟨c.models.size, c.cursor⟩ r) index offset (passVertices ctx ps) := by
  have hstaged : Accounts _ c' := (haccounts.begun hsize).of_stagesOn hstages
  have hbuffer : c'.buffer = c.buffer := hstages.buffer_eq
  have hcapacity : c'.bufferCapacity = c.bufferCapacity := hstages.bufferCapacity_eq
  have hmodels : c'.models = c.models := hstages.models_eq
  have hdisplay : c'.displayList = c.displayList := hstages.displayList_eq
  have hvertices : ∀ p, (c'.staging.vertices.get p).toList = passVertices ctx ps p := by
    intro p
    rw [hstages.vertices]
    cases p <;> rfl
  have hcount : ∀ p, c'.stagedCount p = (passVertices ctx ps p).length := by
    intro p
    rw [← hvertices, Array.length_toList]
    rfl
  have hcursor : c'.cursor = c.cursor + c'.stagedCount .solid + c'.stagedCount .blended := by
    rw [hcount, hcount]
    exact hstages.cursor
  have hle := hstaged.accounted.cursor_le
  rw [hcursor] at hle
  rw [← hbuffer, ← hcapacity] at hroom
  obtain ⟨hroom', hself, hbelow, hother⟩ := fetch?_uploaded hroom ⟨c.models.size, c.cursor⟩ hle
  exact
    { model := by
        refine ⟨⟨c'.stagedRanges ⟨c.models.size, c.cursor⟩, c'.staging.textures, index, offset,
          c'.lut.get? index⟩, ?_, rfl, rfl, ?_⟩
        · rw [← hmodels]
          rfl
        intro p
        rw [← hvertices]
        exact hself p
      displayList := hdisplay
      buffer := hbuffer
      cursor := by
        change c.cursor ≤ c'.cursor
        omega
      hasRoom := hroom'
      fetch?_of_le := fun range hrange => by
        rw [← hbuffer]
        exact hbelow range hrange
      buffer?_of_ne := fun other hne => hother other (hbuffer ▸ hne) }

/-- A whole model enters with the vertices of its stream, or nothing that lasts is
changed. -/
theorem cacheModel_enters {τ : Type} [TextureManager τ] {host : Host Recorder τ}
    (haccounts : Accounts none c) (hroom : host.backend.HasRoom c.buffer c.bufferCapacity)
    (ctx : DecodeContext) (index : UInt32) (offset : UInt16) (words : List UInt32) :
    match (c.cacheModel host ctx index offset words).value with
    | (.ok id, c', host') => id = ⟨c.models.size⟩ ∧
        c.Enters c' host.backend host'.backend index offset
          (passVertices ctx (modelPolygons ctx words))
    | (.error _, c', host') => c'.models = c.models ∧ c'.displayList = c.displayList ∧
        c'.buffer = c.buffer ∧ c'.bufferCapacity = c.bufferCapacity ∧ c'.cursor = c.cursor ∧
        host'.backend = host.backend := by
  rcases cacheModel_cases c host ctx index offset words with
    ⟨e, he⟩ | ⟨c', textures, ps, -, -, hsize, hstages, hvalue⟩
  · rw [he]
    exact ⟨rfl, rfl, rfl, rfl, rfl, rfl⟩
  · rcases hvalue with ⟨e, he⟩ | ⟨hps, -, hok⟩
    · rw [he]
      dsimp only
      rw [abandon, if_pos hstages.accepts_of_begun]
      exact ⟨hstages.models_eq, hstages.displayList_eq, hstages.buffer_eq,
        hstages.bufferCapacity_eq, rfl, rfl⟩
    · rw [hok, ← hps]
      exact ⟨rfl, enters_commit haccounts hroom hsize hstages index offset⟩

end ModelCache

end PolygonRenderer
