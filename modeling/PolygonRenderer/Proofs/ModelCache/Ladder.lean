import PolygonRenderer.ModelCache.Allocation
import PolygonRenderer.Proofs.Graphics.Observed

/-!
# The sizes that a cache asks for

A new cache asks for less and less until a size is granted. `CacheLimits.ladder` is the
list of these sizes, which the main statement compares with what is asked of a backend:
the sizes are asked for in this order, up to the first that is granted. A recorder grants
all sizes up to a limit, so from it a cache obtains the largest size that is granted at all.
-/

namespace PolygonRenderer

namespace CacheLimits

/-- From `size` downwards in steps, the sizes of at least one step. There are none if the
step is zero. -/
def rungs (step size : Nat) : List Nat :=
  (List.range (size / step)).map fun k => size - k * step

/-- The sizes that a cache asks for until one is granted. The size of a staging buffer is
the last, whether or not it was asked for before. -/
def ladder (l : CacheLimits) : List Nat :=
  rungs l.stagingVertices l.bufferVertices ++ [l.stagingVertices]

theorem rungs_of_le {step size : Nat} (h : 0 < step ∧ step ≤ size) :
    rungs step size = size :: rungs step (size - step) := by
  rw [rungs, Nat.div_eq_sub_div h.1 h.2, List.range_succ_eq_map, List.map_cons, List.map_map,
    Nat.zero_mul, Nat.sub_zero, rungs]
  congr 1
  apply List.map_congr_left
  intro k _
  rw [Function.comp_apply, Nat.succ_mul, Nat.sub_sub, Nat.add_comm step]

theorem rungs_of_not {step size : Nat} (h : ¬(0 < step ∧ step ≤ size)) :
    rungs step size = [] := by
  have hnone : size / step = 0 := by
    rw [Nat.div_eq_zero_iff]
    omega
  rw [rungs, hnone]
  rfl

theorem mem_rungs {step size n : Nat} :
    n ∈ rungs step size ↔ 0 < step ∧ step ≤ n ∧ ∃ k, n + k * step = size := by
  rw [rungs, List.mem_map]
  constructor
  · rintro ⟨k, hk, rfl⟩
    have hstep : (k + 1) * step ≤ size :=
      Nat.le_trans (Nat.mul_le_mul_right step (List.mem_range.1 hk)) (Nat.div_mul_le_self size step)
    have hpos : 0 < step := Nat.pos_of_ne_zero fun hzero => by
      rw [hzero, Nat.div_zero] at hk
      cases hk
    rw [Nat.succ_mul] at hstep
    exact ⟨hpos, by omega, k, by omega⟩
  · rintro ⟨hpos, hle, k, rfl⟩
    refine ⟨k, ?_, Nat.add_sub_cancel ..⟩
    rw [List.mem_range, Nat.add_mul_div_right _ _ hpos]
    exact Nat.lt_add_of_pos_left (Nat.div_pos hle hpos)

example : rungs 30 100 = [100, 70, 40] := rfl

theorem pairwise_rungs (step size : Nat) : (rungs step size).Pairwise (· ≥ ·) := by
  rw [rungs, List.pairwise_map]
  refine List.pairwise_lt_range.imp ?_
  intro j k hjk
  have hle : j * step ≤ k * step := Nat.mul_le_mul_right step (Nat.le_of_lt hjk)
  omega

theorem stagingVertices_mem_ladder (l : CacheLimits) : l.stagingVertices ∈ l.ladder :=
  List.mem_append_right _ (List.mem_singleton_self _)

theorem stagingVertices_le_of_mem_ladder {l : CacheLimits} {n : Nat} (h : n ∈ l.ladder) :
    l.stagingVertices ≤ n := by
  rcases List.mem_append.1 h with h | h
  · exact (mem_rungs.1 h).2.1
  · exact Nat.le_of_eq (List.mem_singleton.1 h).symm

theorem pairwise_ladder (l : CacheLimits) : l.ladder.Pairwise (· ≥ ·) := by
  refine List.pairwise_append.2 ⟨pairwise_rungs _ _, List.pairwise_singleton .., ?_⟩
  intro n hn m hm
  rw [List.mem_singleton.1 hm]
  exact (mem_rungs.1 hn).2.1

end CacheLimits

namespace ModelCache

/-! ## Any backend -/

section Backend

variable {β : Type} [Backend β] {usage : BufferUsage} {sizes sizes' : List Nat}

/-- Buffers of these sizes are asked for in turn, and none of them is granted. -/
inductive Refused (usage : BufferUsage) : List Nat → β → β → Prop
  | nil {b : β} : Refused usage [] b b
  | cons {size : Nat} {sizes : List Nat} {b b' b'' : β} {e : OutOfMemory}
      (head : Backend.allocate b (BufferVertex.byteCount * size) usage = (.error e, b'))
      (tail : Refused usage sizes b' b'') : Refused usage (size :: sizes) b b''

theorem Refused.append {b b' b'' : β} (h : Refused usage sizes b b')
    (h' : Refused usage sizes' b' b'') : Refused usage (sizes ++ sizes') b b'' := by
  induction h with
  | nil => exact h'
  | cons head _ ih => exact .cons head (ih h')

/-- The sizes are asked for in turn until one is granted, which is `capacity`. -/
def Grants (usage : BufferUsage) (sizes : List Nat) (b : β) (buffer : BufferHandle)
    (capacity : Nat) (b' : β) : Prop :=
  ∃ before after b₁, sizes = before ++ capacity :: after ∧ Refused usage before b b₁ ∧
    Backend.allocate b₁ (BufferVertex.byteCount * capacity) usage = (.ok buffer, b')

theorem Grants.prepend {b b' b'' : β} {buffer : BufferHandle} {capacity : Nat}
    (h : Refused usage sizes b b') (h' : Grants usage sizes' b' buffer capacity b'') :
    Grants usage (sizes ++ sizes') b buffer capacity b'' := by
  obtain ⟨before, after, b₁, rfl, hbefore, hallocate⟩ := h'
  exact ⟨sizes ++ before, after, b₁, (List.append_assoc ..).symm, h.append hbefore, hallocate⟩

theorem Grants.append {b b' : β} {buffer : BufferHandle} {capacity : Nat}
    (h : Grants usage sizes b buffer capacity b') (more : List Nat) :
    Grants usage (sizes ++ more) b buffer capacity b' := by
  obtain ⟨before, after, b₁, rfl, hbefore, hallocate⟩ := h
  exact ⟨before, after ++ more, b₁, List.append_assoc .., hbefore, hallocate⟩

theorem grants_singleton {b b' : β} {size : Nat} {buffer : BufferHandle}
    (h : Backend.allocate b (BufferVertex.byteCount * size) usage = (.ok buffer, b')) :
    Grants usage [size] b buffer size b' :=
  ⟨[], [], b, rfl, .nil, h⟩

/-- What is asked for are the rungs, from which the first is taken that is granted. -/
theorem request_rungs (source : ModelSource) (step size : Nat) (b : β) :
    match (request source step size b).value with
    | (some (buffer, capacity), b') =>
      Grants (bufferUsage source) (CacheLimits.rungs step size) b buffer capacity b'
    | (none, b') => Refused (bufferUsage source) (CacheLimits.rungs step size) b b' := by
  induction size using Nat.strongRecOn generalizing b with
  | ind size ih =>
      rw [request]
      by_cases hsize : 0 < step ∧ step ≤ size
      · rw [dif_pos hsize, CacheLimits.rungs_of_le hsize]
        rcases hallocate : Backend.allocate b (BufferVertex.byteCount * size) (bufferUsage source)
          with ⟨e | buffer, b₁⟩
        · have ih := ih (size - step) (by omega) b₁
          have hrefused : Refused (bufferUsage source) [size] b b₁ := .cons hallocate .nil
          dsimp only
          rw [Logged.value_bind]
          rcases hvalue : (request source step (size - step) b₁).value with ⟨_ | granted, b'⟩
          · rw [hvalue] at ih
            exact hrefused.append ih
          · rw [hvalue] at ih
            exact ih.prepend hrefused
        · exact (grants_singleton hallocate).append _
      · rw [dif_neg hsize, CacheLimits.rungs_of_not hsize]
        exact .nil

/-- A cache is created with the first size of the ladder that is granted, and not at all if
none is. -/
theorem create_ladder (limits : CacheLimits) (source : ModelSource) (b : β) :
    match (create limits source b).value with
    | (.ok c, b') => c = empty limits source c.buffer c.bufferCapacity ∧
        Grants (bufferUsage source) limits.ladder b c.buffer c.bufferCapacity b'
    | (.error e, b') =>
      e = .bufferAllocation source (BufferVertex.byteCount * limits.stagingVertices) ∧
        Refused (bufferUsage source) limits.ladder b b' := by
  have hrequest := request_rungs source limits.stagingVertices limits.bufferVertices b
  unfold create CacheLimits.ladder
  rw [Logged.value_bind]
  rcases hvalue : (request source limits.stagingVertices limits.bufferVertices b).value with
    ⟨_ | ⟨buffer, capacity⟩, b₁⟩
  · rw [hvalue] at hrequest
    dsimp only
    rcases hallocate : Backend.allocate b₁ (BufferVertex.byteCount * limits.stagingVertices)
      (bufferUsage source) with ⟨e | buffer, b₂⟩
    · exact ⟨rfl, hrequest.append (.cons hallocate .nil)⟩
    · exact ⟨rfl, (grants_singleton hallocate).prepend hrequest⟩
  · rw [hvalue] at hrequest
    exact ⟨rfl, hrequest.append _⟩

end Backend

/-! ## Observed backends and recorders -/

section Outcome

variable {usage : BufferUsage} {sizes : List Nat}

/-- The calls that ask for buffers of these sizes. -/
def allocations (usage : BufferUsage) (sizes : List Nat) : List Call :=
  sizes.map fun size => .allocate (BufferVertex.byteCount * size) usage

theorem calls_allocate {β : Type} [Backend β] {b b' : Observed β} {size : Nat}
    {answer : Except OutOfMemory BufferHandle}
    (h : Backend.allocate b (BufferVertex.byteCount * size) usage = (answer, b')) :
    b'.calls = b.calls ++ allocations usage [size] := by
  cases h
  rfl

/-- Each size that is refused was asked for, and nothing else was. -/
theorem Refused.calls_eq {β : Type} [Backend β] {b b' : Observed β}
    (h : Refused usage sizes b b') : b'.calls = b.calls ++ allocations usage sizes := by
  induction h with
  | nil => exact (List.append_nil _).symm
  | cons head _ ih =>
      rw [ih, calls_allocate head, List.append_assoc]
      rfl

theorem Refused.recorder_eq {r r' : Recorder} (h : Refused usage sizes r r') :
    r'.buffers = r.buffers ∧ r'.limit = r.limit ∧
      ∀ size ∈ sizes, r.grants (BufferVertex.byteCount * size) = false := by
  induction h with
  | nil => exact ⟨rfl, rfl, List.forall_mem_nil _⟩
  | cons head _ ih =>
      obtain ⟨hgrants, rfl⟩ := Recorder.allocate_error head
      obtain ⟨hbuffers, hlimit, hsizes⟩ := ih
      exact ⟨hbuffers, hlimit, List.forall_mem_cons.2 ⟨hgrants, hsizes⟩⟩

/-- From sizes in descending order, a recorder grants the largest that it grants at all. -/
theorem Grants.recorder_eq {r r' : Recorder} {buffer : BufferHandle} {capacity : Nat}
    (h : Grants usage sizes r buffer capacity r') (hsizes : sizes.Pairwise (· ≥ ·)) :
    capacity ∈ sizes ∧ r.grants (BufferVertex.byteCount * capacity) = true ∧
      (∀ size ∈ sizes, r.grants (BufferVertex.byteCount * size) = true → size ≤ capacity) ∧
      buffer = ⟨r.buffers.size⟩ ∧
      r'.buffers = r.buffers.push (some (.zero (BufferVertex.byteCount * capacity))) := by
  obtain ⟨before, after, r₁, rfl, hrefused, hallocate⟩ := h
  obtain ⟨hbuffers, hlimit, hbefore⟩ := hrefused.recorder_eq
  obtain ⟨hgrants, hbuffer, hbuffers'⟩ := Recorder.allocate_ok hallocate
  rw [Recorder.grants, hlimit] at hgrants
  rw [hbuffers] at hbuffer hbuffers'
  refine ⟨List.mem_append_right _ List.mem_cons_self, hgrants, ?_, hbuffer, hbuffers'⟩
  intro size hsize hgranted
  rcases List.mem_append.1 hsize with hmem | hmem
  · rw [hbefore size hmem] at hgranted
    cases hgranted
  · rcases List.mem_cons.1 hmem with rfl | hmem
    · exact Nat.le_refl _
    · exact List.rel_of_pairwise_cons (List.pairwise_append.1 hsizes).2.1 hmem

end Outcome

/-- From the top of the ladder downwards, a new cache asks for each size until one is
granted. Nothing is created if the last, the size of a staging buffer, is refused as well.
A recorder with a limit refuses it only if it lies beyond the limit, and otherwise grants
the largest size of the ladder within the limit. -/
theorem create_takes_first_granted :
    (∀ {β : Type} [Backend β] (limits : CacheLimits) (source : ModelSource) (b : Observed β),
      match (create limits source b).value with
      | (.ok c, b') => ∃ before after b₁, limits.ladder = before ++ c.bufferCapacity :: after ∧
          Refused (bufferUsage source) before b b₁ ∧
          Backend.allocate b₁ (100 * c.bufferCapacity) (bufferUsage source) =
            (.ok c.buffer, b') ∧
          b'.calls = b.calls ++ (before ++ [c.bufferCapacity]).map fun size =>
            Call.allocate (100 * size) (bufferUsage source)
      | (.error e, b') => e = .bufferAllocation source (100 * limits.stagingVertices) ∧
          Refused (bufferUsage source) limits.ladder b b' ∧
          b'.calls = b.calls ++ limits.ladder.map fun size =>
            Call.allocate (100 * size) (bufferUsage source)) ∧
    ∀ (limits : CacheLimits) (source : ModelSource) (r : Recorder) (most : Nat),
      match (create limits source { r with limit := some most }).value with
      | (.ok c, r') => 100 * limits.stagingVertices ≤ most ∧
          c.bufferCapacity ∈ limits.ladder ∧ 100 * c.bufferCapacity ≤ most ∧
          (∀ size ∈ limits.ladder, 100 * size ≤ most → size ≤ c.bufferCapacity) ∧
          c.buffer = ⟨r.buffers.size⟩ ∧
          r'.buffers = r.buffers.push (some (.zero (100 * c.bufferCapacity)))
      | (.error _, r') => most < 100 * limits.stagingVertices ∧ r'.buffers = r.buffers := by
  constructor
  · intro β _ limits source b
    have hladder := create_ladder limits source b
    rcases hvalue : (create limits source b).value with ⟨e | c, b'⟩ <;> rw [hvalue] at hladder
    · obtain ⟨rfl, hrefused⟩ := hladder
      exact ⟨rfl, hrefused, hrefused.calls_eq⟩
    · obtain ⟨-, before, after, b₁, heq, hrefused, hallocate⟩ := hladder
      refine ⟨before, after, b₁, heq, hrefused, hallocate, ?_⟩
      rw [calls_allocate hallocate, hrefused.calls_eq, List.append_assoc, List.map_append]
      rfl
  · intro limits source r most
    have hladder := create_ladder limits source { r with limit := some most }
    have hgrants (size : Nat) :
        Recorder.grants { r with limit := some most } (BufferVertex.byteCount * size) = true ↔
          100 * size ≤ most :=
      decide_eq_true_iff
    rcases hvalue : (create limits source { r with limit := some most }).value with ⟨e | c, r'⟩ <;>
      rw [hvalue] at hladder ⊢
    · obtain ⟨hbuffers, -, hrefused⟩ := hladder.2.recorder_eq
      refine ⟨?_, hbuffers⟩
      have hlast := hrefused _ limits.stagingVertices_mem_ladder
      rw [← Bool.not_eq_true, hgrants] at hlast
      exact Nat.not_le.1 hlast
    · obtain ⟨hmem, hfits, hlargest, hbuffer, hbuffers⟩ :=
        hladder.2.recorder_eq limits.pairwise_ladder
      have hfits := (hgrants _).1 hfits
      have hleast := Nat.mul_le_mul_left 100 (CacheLimits.stagingVertices_le_of_mem_ladder hmem)
      exact ⟨Nat.le_trans hleast hfits, hmem, hfits,
        fun size hsize hle => hlargest size hsize ((hgrants size).2 hle), hbuffer, hbuffers⟩

end ModelCache

end PolygonRenderer
