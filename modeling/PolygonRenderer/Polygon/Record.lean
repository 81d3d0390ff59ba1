import PolygonRenderer.Polygon.Vertex

/-!
# Records

A record is one polygon as it is stored: a header, followed by the words of the
vertices that the polygon does not take over from the one before it. A stream of
records is closed by a header whose word 6 is zero or by a record that is marked
as the last one.
-/

namespace PolygonRenderer

namespace Header

/-- Whether the vertex in slot `i` of the previous polygon is used again. -/
def reuses (h : Header) (i : Fin 4) : Bool :=
  h.reuseMask.toNat.testBit i

/-- The slots of the previous polygon that are used again, in ascending order. -/
def reusedSlots (h : Header) : List (Fin 4) :=
  (List.finRange 4).filter h.reuses

/-- The number of vertices stored with the header. -/
def ownCount (h : Header) : Nat :=
  h.vertexCount - h.reusedSlots.length

end Header

/-- A header and the vertices stored with it. -/
structure Record where
  header : Header
  vertices : List VertexWords
deriving DecidableEq, Repr

namespace Record

/-- The record describes a polygon, and has all of its own vertices. -/
def IsComplete (r : Record) : Prop :=
  r.header.isTerminator = false ∧ r.vertices.length = r.header.ownCount

instance (r : Record) : Decidable r.IsComplete :=
  inferInstanceAs (Decidable (_ ∧ _))

def toList (r : Record) : List UInt32 :=
  r.header.toList ++ r.vertices.flatMap VertexWords.toList

theorem length_toList (r : Record) : r.toList.length = 7 + 4 * r.vertices.length := by
  rw [toList, List.length_append, Header.length_toList, VertexWords.length_flatMap_toList]

/-- What stands at the front of a list of words where a header is due. The
number of words consumed counts those read before a truncation as well. -/
inductive Reading where
  /-- A header that ends the model. -/
  | terminator (rest : List UInt32)
  /-- A whole record. -/
  | record (record : Record) (rest : List UInt32)
  /-- Fewer words than the header or the next vertex needs. -/
  | truncated (needed consumed : Nat) (rest : List UInt32)
deriving DecidableEq, Repr

/-- Read the record at the front of a list of words. -/
def read (words : List UInt32) : Reading :=
  match Header.read words with
  | none => .truncated 7 0 words
  | some (header, rest) =>
    if header.isTerminator then .terminator rest
    else
      let own := VertexWords.readMany header.ownCount rest
      if own.1.length < header.ownCount then
        .truncated 4 (7 + 4 * own.1.length) own.2
      else
        .record ⟨header, own.1⟩ own.2

/-- A complete record is read back from its words, whatever follows it. -/
theorem read_toList_append (r : Record) (h : r.IsComplete) (rest : List UInt32) :
    read (r.toList ++ rest) = .record r rest := by
  obtain ⟨ht, hc⟩ := h
  simp only [read, toList, List.append_assoc, Header.read_toList_append, ht]
  rw [← hc, VertexWords.readMany_append]
  simp

theorem read_terminator_append {t : Header} (h : t.isTerminator = true) (rest : List UInt32) :
    read (t.toList ++ rest) = .terminator rest := by
  simp only [read, Header.read_toList_append, h, if_true]

/-- What was read and what is left make up the input. -/
theorem eq_of_read {words rest : List UInt32} {r : Record} (h : read words = .record r rest) :
    words = r.toList ++ rest := by
  unfold read at h
  split at h
  · cases h
  · rename_i header tail e
    split at h
    · cases h
    · dsimp only at h
      split at h
      · cases h
      · cases h
        rw [Header.eq_of_read e, toList, List.append_assoc,
          ← VertexWords.eq_of_readMany header.ownCount tail]

theorem isComplete_of_read {words rest : List UInt32} {r : Record}
    (h : read words = .record r rest) : r.IsComplete := by
  unfold read at h
  split at h
  · cases h
  · rename_i header tail e
    split at h
    · cases h
    · rename_i ht
      dsimp only at h
      split at h
      · cases h
      · rename_i hcount
        cases h
        have hle := VertexWords.length_fst_readMany_le header.ownCount tail
        exact ⟨Bool.eq_false_iff.2 ht, Nat.le_antisymm hle (Nat.not_lt.1 hcount)⟩

theorem eq_of_read_terminator {words rest : List UInt32} (h : read words = .terminator rest) :
    ∃ t : Header, t.isTerminator = true ∧ words = t.toList ++ rest := by
  unfold read at h
  split at h
  · cases h
  · rename_i header tail e
    split at h
    · rename_i ht
      cases h
      exact ⟨header, ht, Header.eq_of_read e⟩
    · dsimp only at h
      split at h <;> cases h

theorem length_lt_of_read {words rest : List UInt32} {r : Record}
    (h : read words = .record r rest) : rest.length < words.length := by
  rw [eq_of_read h, List.length_append, length_toList]
  omega

end Record

end PolygonRenderer
