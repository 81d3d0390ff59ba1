import PolygonRenderer.Polygon.Decoder

/-!
# Stored models

A model is stored as a list of complete records and something that closes it:
a header without a polygon, or a record that is marked as the last one.
`StoredModel.toList` is the words of a model.

What a list of records stands for is said without the decoder.
`Polygon.IsDecodedFrom` says where each slot of a polygon comes from, and
`Record.Decodes` carries the slots from one valid record to the next. The main
statement is that a decoder undoes the storing: it yields what the records
decode to, and stops right behind the model, whatever words follow.
-/

namespace PolygonRenderer

namespace Header

/-- How many vertices of the previous polygon are used again. -/
def reuseCount (h : Header) : Nat :=
  (List.range 32).countP h.reuseMask.toNat.testBit

/-- How many slots below `i` are used again. -/
def reuseRank (h : Header) (i : Fin 4) : Nat :=
  ((List.finRange 4).take i).countP h.reuses

theorem reuseMask_le (h : Header) : h.reuseMask.toNat ≤ 15 := by
  rw [reuseMask, UInt32.toNat_and]
  exact Nat.and_le_right

/-- The mask has no bits beyond the four slots. -/
theorem length_reusedSlots (h : Header) : h.reusedSlots.length = h.reuseCount := by
  have hhigh : (List.range' 4 28).countP h.reuseMask.toNat.testBit = 0 := by
    rw [List.countP_eq_zero]
    intro i hi
    have hle : 4 ≤ i := (List.mem_range'_1.1 hi).1
    have hmask : h.reuseMask.toNat < 2 ^ i :=
      Nat.lt_of_le_of_lt h.reuseMask_le
        (Nat.lt_of_lt_of_le (by decide) (Nat.pow_le_pow_right (by decide) hle))
    simp [Nat.testBit_lt_two_pow hmask]
  have hsplit : List.range 32 = (List.finRange 4).map Fin.val ++ List.range' 4 28 := by decide
  rw [reuseCount, hsplit, List.countP_append, hhigh, List.countP_map, reusedSlots,
    ← List.countP_eq_length_filter]
  rfl

theorem ownCount_eq (h : Header) : h.ownCount = h.vertexCount - h.reuseCount := by
  rw [ownCount, length_reusedSlots]

theorem vertexCount_le (h : Header) : h.vertexCount ≤ 4 := by
  unfold vertexCount
  split <;> decide

/-- The slots that are used again are in ascending order, so a slot stands behind
those below it. -/
theorem getElem?_reusedSlots {h : Header} {i : Fin 4} (hi : h.reuses i = true) :
    h.reusedSlots[h.reuseRank i]? = some i := by
  have hlt : i.val < (List.finRange 4).length := by simp
  have hsplit : List.finRange 4 =
      (List.finRange 4).take i ++ i :: (List.finRange 4).drop (i + 1) := by
    have hdrop := List.take_append_drop i.val (List.finRange 4)
    rw [List.drop_eq_getElem_cons hlt, List.getElem_finRange] at hdrop
    exact hdrop.symm
  have hrank : h.reuseRank i = (((List.finRange 4).take i).filter h.reuses).length := by
    rw [reuseRank, List.countP_eq_length_filter]
  rw [reusedSlots, hrank, hsplit, List.filter_append, List.filter_cons_of_pos hi]
  simp

end Header

/-- What a record stands for, if the slots before it are `history`. -/
structure Polygon.IsDecodedFrom (factor : Float32) (history : Slots Float32) (r : Record)
    (p : Polygon Float32) : Prop where
  header : p.header = r.header
  vertexCount : p.vertexCount = r.header.vertexCount
  normal : p.normal = r.header.normal
  pass : p.pass = r.header.pass
  /-- Vertices that are used again fill the lowest slots, in their order. -/
  reused : ∀ i, r.header.reuses i = true → p.slots[r.header.reuseRank i]? = some history[i]
  /-- The vertices of the record fill the slots behind them. -/
  own : ∀ k w, r.vertices[k]? = some w →
    p.slots[r.header.reuseCount + k]? =
      some (Vertex.decode w r.header.normal factor r.header.textureScale)
  /-- All other slots are left as they were. -/
  kept : ∀ j : Fin 4, r.header.reuseCount + r.vertices.length ≤ j → p.slots[j] = history[j]

namespace Slots

variable {α : Type}

/-- A slot that is filled. -/
theorem getElem?_fill {slots : Slots α} {vertices : List (Vertex α)} {i : Nat} {v : Vertex α}
    (hi : i < 4) (hv : vertices[i]? = some v) : (slots.fill vertices)[i]? = some v := by
  rw [Vector.getElem?_eq_getElem hi, getElem_fill, hv, Option.getD_some]

/-- A slot that is not filled. -/
theorem getElem_fill_of_le {slots : Slots α} {vertices : List (Vertex α)} {j : Fin 4}
    (hj : vertices.length ≤ j) : (slots.fill vertices)[j] = slots[j] := by
  have hnone : vertices[j.val]? = none := List.getElem?_eq_none hj
  rw [Fin.getElem_fin, getElem_fill, hnone, Option.getD_none]
  rfl

end Slots

theorem Polygon.isDecodedFrom_ofRecord (factor : Float32) (history : Slots Float32) {r : Record}
    (h : r.IsComplete) : (Polygon.ofRecord factor history r).IsDecodedFrom factor history r where
  header := rfl
  vertexCount := rfl
  normal := rfl
  pass := rfl
  reused i hi := by
    have hslot := Header.getElem?_reusedSlots hi
    have hlt : r.header.reuseRank i < r.header.reusedSlots.length :=
      (List.getElem?_eq_some_iff.1 hslot).1
    have hle : r.header.reusedSlots.length ≤ 4 := List.length_filter_le _ _
    apply Slots.getElem?_fill (Nat.lt_of_lt_of_le hlt hle)
    rw [List.getElem?_append_left (by simpa using hlt), List.getElem?_map, hslot, Option.map_some]
  own k w hw := by
    have hk : k < r.vertices.length := (List.getElem?_eq_some_iff.1 hw).1
    have hown := h.2
    have hcount := r.header.vertexCount_le
    rw [Header.ownCount_eq] at hown
    apply Slots.getElem?_fill (by omega)
    rw [List.getElem?_append_right (by simp [Header.length_reusedSlots]), List.length_map,
      Header.length_reusedSlots, Nat.add_sub_cancel_left, List.getElem?_map, hw, Option.map_some]
  kept j hj := by
    apply Slots.getElem_fill_of_le
    rw [List.length_append, List.length_map, List.length_map, Header.length_reusedSlots]
    exact hj

/-- Records, the polygons that the valid ones among them stand for, and the slots
before and after. An invalid record leaves the slots as they are. -/
inductive Record.Decodes (factor : Float32) :
    Slots Float32 → List Record → List (Polygon Float32) → Slots Float32 → Prop
  | nil {history : Slots Float32} : Decodes factor history [] [] history
  | valid {history after : Slots Float32} {r : Record} {rs : List Record} {p : Polygon Float32}
      {ps : List (Polygon Float32)} (isValid : r.header.isValid = true)
      (head : p.IsDecodedFrom factor history r) (tail : Decodes factor p.slots rs ps after) :
      Decodes factor history (r :: rs) (p :: ps) after
  | invalid {history after : Slots Float32} {r : Record} {rs : List Record}
      {ps : List (Polygon Float32)} (isInvalid : r.header.isValid = false)
      (tail : Decodes factor history rs ps after) : Decodes factor history (r :: rs) ps after

/-- What calls of `Decoder.next` answer until one answers nothing, and the
decoder after that one. -/
inductive Decoder.Yields :
    Decoder → List (Except Truncation (Polygon Float32)) → Decoder → Prop
  | nothing {d d' : Decoder} (h : d.next.value = (none, d')) : Yields d [] d'
  | item {d d' d'' : Decoder} {x : Except Truncation (Polygon Float32)}
      {xs : List (Except Truncation (Polygon Float32))} (h : d.next.value = (some x, d'))
      (tail : Yields d' xs d'') : Yields d (x :: xs) d''

inductive StoredModel where
  /-- Records, closed by a header without a polygon. -/
  | terminated (records : List Record) (terminator : Header)
  /-- Records, the last one of which is marked. -/
  | marked (records : List Record) (last : Record)

namespace StoredModel

def records : StoredModel → List Record
  | terminated rs _ => rs
  | marked rs r => rs ++ [r]

def toList : StoredModel → List UInt32
  | terminated rs h => rs.flatMap Record.toList ++ h.toList
  | marked rs r => rs.flatMap Record.toList ++ r.toList

/-- Records that do not close a model. -/
def AreOpen (rs : List Record) : Prop :=
  ∀ r ∈ rs, r.IsComplete ∧ r.header.isLast = false

instance (rs : List Record) : Decidable (AreOpen rs) :=
  inferInstanceAs (Decidable (∀ r ∈ rs, _))

/-- All records are complete, and the model is closed at its end and not before. -/
def IsWellFormed : StoredModel → Prop
  | terminated rs h => AreOpen rs ∧ h.isTerminator = true
  | marked rs r => AreOpen rs ∧ r.IsComplete ∧ r.header.isLast = true

instance : (m : StoredModel) → Decidable m.IsWellFormed
  | terminated _ _ => inferInstanceAs (Decidable (_ ∧ _))
  | marked _ _ => inferInstanceAs (Decidable (_ ∧ _ ∧ _))

end StoredModel

namespace Decoder

/-- A decoder that is done answers nothing. -/
theorem yields_of_finished {d : Decoder} (h : d.finished = true) : d.Yields [] d := by
  apply Yields.nothing
  rw [next_of_finished h]
  rfl

theorem Yields.of_step_skipped {d d' d'' : Decoder}
    {xs : List (Except Truncation (Polygon Float32))} (hf : d.finished = false)
    (h : d.step = .skipped d') (tail : d'.Yields xs d'') : d.Yields xs d'' := by
  have hnext := value_next_of_step_skipped hf h
  cases tail with
  | nothing h' => exact .nothing (hnext.trans h')
  | item h' tail => exact .item (hnext.trans h') tail

theorem Yields.of_step_yielded {d d' d'' : Decoder} {p : Polygon Float32}
    {xs : List (Except Truncation (Polygon Float32))} (hf : d.finished = false)
    (h : d.step = .yielded p d') (tail : d'.Yields xs d'') : d.Yields (.ok p :: xs) d'' := by
  apply Yields.item _ tail
  rw [next_of_step_yielded hf h]
  rfl

theorem yields_of_terminator {d : Decoder} {h : Header} {rest : List UInt32}
    (hf : d.finished = false) (hd : d.rest = h.toList ++ rest) (ht : h.isTerminator = true) :
    d.Yields [] { d with rest := rest, position := d.position + 7, finished := true } := by
  have hstep : d.step = .ended { d with rest := rest, position := d.position + 7, finished := true } := by
    simp only [step, Record.read, hd, Header.read_toList_append, ht, if_true]
  apply Yields.nothing
  rw [next_of_step_ended hf hstep]
  rfl

/-- A decoder in front of a complete record, and where it goes on. -/
theorem yields_of_record {d : Decoder} {r : Record} {rest : List UInt32}
    (hf : d.finished = false) (hd : d.rest = r.toList ++ rest) (hr : r.IsComplete) :
    ∃ ps history, Record.Decodes d.factor d.history [r] ps history ∧
      ∀ xs d', Yields ⟨rest, d.position + r.toList.length, history, d.factor, r.header.isLast⟩ xs d' →
        d.Yields (ps.map .ok ++ xs) d' := by
  have hread : Record.read d.rest = .record r rest := by
    rw [hd, Record.read_toList_append r hr]
  have hpolygon := Polygon.isDecodedFrom_ofRecord d.factor d.history hr
  cases hv : r.header.isValid with
  | true =>
      refine ⟨[Polygon.ofRecord d.factor d.history r], _, .valid hv hpolygon .nil, ?_⟩
      intro xs d' htail
      apply Yields.of_step_yielded hf _ htail
      rw [step, hread]
      simp [hv, Record.length_toList]
  | false =>
      refine ⟨[], d.history, .invalid hv .nil, ?_⟩
      intro xs d' htail
      apply Yields.of_step_skipped hf _ htail
      rw [step, hread]
      simp [hv, Record.length_toList]

end Decoder

theorem Record.Decodes.append {factor : Float32} {before between after : Slots Float32}
    {rs rs' : List Record} {ps ps' : List (Polygon Float32)}
    (h : Decodes factor before rs ps between) (h' : Decodes factor between rs' ps' after) :
    Decodes factor before (rs ++ rs') (ps ++ ps') after := by
  induction h with
  | nil => exact h'
  | valid isValid head _ ih => exact .valid isValid head (ih h')
  | invalid isInvalid _ ih => exact .invalid isInvalid (ih h')

namespace Decoder

/-- A decoder in front of records that do not close the model. -/
theorem yields_of_records {rs : List Record} (hrs : StoredModel.AreOpen rs) {d : Decoder}
    {rest : List UInt32} (hf : d.finished = false)
    (hd : d.rest = rs.flatMap Record.toList ++ rest) :
    ∃ ps history, Record.Decodes d.factor d.history rs ps history ∧
      ∀ xs d', Yields ⟨rest, d.position + (rs.flatMap Record.toList).length, history, d.factor,
          false⟩ xs d' → d.Yields (ps.map .ok ++ xs) d' := by
  induction rs generalizing d with
  | nil =>
      obtain ⟨words, position, history, factor, finished⟩ := d
      cases hf
      cases hd
      exact ⟨[], history, .nil, fun _ _ h => h⟩
  | cons r rs ih =>
      have hr := hrs r List.mem_cons_self
      rw [List.flatMap_cons, List.append_assoc] at hd
      obtain ⟨ps, history, hdecodes, hyields⟩ := yields_of_record hf hd hr.1
      rw [hr.2] at hyields
      have hopen : StoredModel.AreOpen rs := fun r' h => hrs r' (List.mem_cons_of_mem r h)
      obtain ⟨ps', history', hdecodes', hyields'⟩ := ih hopen
        (d := ⟨rs.flatMap Record.toList ++ rest, d.position + r.toList.length, history, d.factor,
          false⟩) rfl rfl
      refine ⟨ps ++ ps', history', hdecodes.append hdecodes', ?_⟩
      intro xs d' h
      rw [List.map_append, List.append_assoc]
      apply hyields
      apply hyields'
      rw [List.flatMap_cons, List.length_append, ← Nat.add_assoc] at h
      exact h

/-- In front of a stored model, and whatever words follow it, a decoder yields the
polygons that the records of the model decode to, in order and without an error,
and stops right behind the model. -/
theorem yields_storedModel (m : StoredModel) (h : m.IsWellFormed) (trailing : List UInt32)
    (factor : Float32) :
    ∃ ps history d, Record.Decodes factor Slots.zero m.records ps history ∧
      (start (m.toList ++ trailing) factor).Yields (ps.map .ok) d ∧
      d.position = m.toList.length ∧ d.rest = trailing := by
  cases m with
  | terminated rs t =>
      obtain ⟨hopen, ht⟩ := h
      obtain ⟨ps, history, hdecodes, hyields⟩ := yields_of_records hopen
        (d := start (rs.flatMap Record.toList ++ t.toList ++ trailing) factor) rfl
        (List.append_assoc ..)
      have hend := hyields _ _ (yields_of_terminator rfl rfl ht)
      rw [List.append_nil] at hend
      refine ⟨ps, history, _, hdecodes, hend, ?_, rfl⟩
      simp [start, StoredModel.toList]
  | marked rs r =>
      obtain ⟨hopen, hr, hlast⟩ := h
      obtain ⟨ps, history, hdecodes, hyields⟩ := yields_of_records hopen
        (d := start (rs.flatMap Record.toList ++ r.toList ++ trailing) factor) rfl
        (List.append_assoc ..)
      obtain ⟨ps', history', hdecodes', hyields'⟩ := yields_of_record
        (d := ⟨r.toList ++ trailing, 0 + (rs.flatMap Record.toList).length, history, factor,
          false⟩) rfl rfl hr
      have hend := hyields _ _ (hyields' _ _ (yields_of_finished hlast))
      rw [List.append_nil, ← List.map_append] at hend
      refine ⟨ps ++ ps', history', _, hdecodes.append hdecodes', hend, ?_, rfl⟩
      simp [StoredModel.toList]

/-- A quad, an invalid triangle, and a triangle that takes all four vertices of the
quad over, one more than it has. -/
theorem yields_quad_invalid_overrun :
    let w : VertexWords := ⟨0x100, 0x200, 0x300, 0x400⟩
    let m : StoredModel := .marked
      [⟨⟨0x40, 0, 0, 0, 0, 0, 1⟩, [w, w, w, w]⟩, ⟨⟨0x300, 0, 0, 0, 0, 0, 1⟩, [w, w, w]⟩]
      ⟨⟨0xF, 4, 0, 0, 0, 0, 1⟩, []⟩
    m.IsWellFormed ∧ ∃ ps history d, Record.Decodes 1 Slots.zero m.records ps history ∧
      (start (m.toList ++ [0, 7]) 1).Yields (ps.map .ok) d ∧
      d.position = m.toList.length ∧ d.rest = [0, 7] := by
  intro w m
  have hformed : m.IsWellFormed := by decide
  exact ⟨hformed, yields_storedModel m hformed [0, 7] 1⟩

end Decoder

end PolygonRenderer
