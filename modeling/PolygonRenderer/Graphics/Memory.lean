/-!
# Buffer memory

A memory has a fixed size and is zero where it has not been written. It is held
as the list of its writes, so that a large memory costs nothing until it is
used. `Memory.byteAt` is the byte at a place.
-/

namespace PolygonRenderer

/-- Data that was written to a place. -/
structure MemoryWrite where
  offset : Nat
  data : Array UInt8
deriving DecidableEq, Repr

/-- A memory of fixed size. -/
structure Memory where
  size : Nat
  /-- What was written, the newest first. -/
  writes : List MemoryWrite
deriving DecidableEq, Repr

namespace Memory

def zero (size : Nat) : Memory :=
  ⟨size, []⟩

/-- The newest byte that the writes have for place `i`, or zero. -/
def newest : List MemoryWrite → Nat → UInt8
  | [], _ => 0
  | w :: ws, i =>
    if w.offset ≤ i then
      match w.data[i - w.offset]? with
      | some b => b
      | none => newest ws i
    else newest ws i

/-- The byte at place `i`. -/
def byteAt (m : Memory) (i : Nat) : UInt8 :=
  newest m.writes i

/-- Write data to a place, if it lies inside the memory as a whole. -/
def write? (m : Memory) (offset : Nat) (data : Array UInt8) : Option Memory :=
  if offset + data.size ≤ m.size then some { m with writes := ⟨offset, data⟩ :: m.writes }
  else none

/-- The bytes from place `first` on. -/
def read (m : Memory) (first count : Nat) : List UInt8 :=
  (List.range' first count).map m.byteAt

def toList (m : Memory) : List UInt8 :=
  m.read 0 m.size

@[simp] theorem byteAt_zero (size i : Nat) : (zero size).byteAt i = 0 := rfl

@[simp] theorem length_read (m : Memory) (first count : Nat) :
    (m.read first count).length = count := by
  simp [read]

@[simp] theorem length_toList (m : Memory) : m.toList.length = m.size := by
  simp [toList]

theorem size_of_write? {m m' : Memory} {offset : Nat} {data : Array UInt8}
    (h : m.write? offset data = some m') : m'.size = m.size := by
  unfold write? at h
  split at h
  · cases h
    rfl
  · cases h

theorem write?_eq_none_iff {m : Memory} {offset : Nat} {data : Array UInt8} :
    m.write? offset data = none ↔ m.size < offset + data.size := by
  unfold write?
  split <;> simp <;> omega

/-- After a write, the places it covers have its data. -/
theorem byteAt_write_of_mem {m m' : Memory} {offset : Nat} {data : Array UInt8}
    (h : m.write? offset data = some m') {i : Nat} (hi : i < data.size) :
    m'.byteAt (offset + i) = data[i] := by
  unfold write? at h
  split at h
  · cases h
    simp [byteAt, newest, hi]
  · cases h

/-- A write leaves all other places as they are. -/
theorem byteAt_write_of_not_mem {m m' : Memory} {offset : Nat} {data : Array UInt8}
    (h : m.write? offset data = some m') {i : Nat} (hi : i < offset ∨ offset + data.size ≤ i) :
    m'.byteAt i = m.byteAt i := by
  unfold write? at h
  split at h
  · cases h
    rcases hi with hi | hi
    · simp [byteAt, newest, Nat.not_le.2 hi]
    · have hle : offset ≤ i := by omega
      have hout : data.size ≤ i - offset := by omega
      simp [byteAt, newest, hle, hout]
  · cases h

/-- Only the bytes that are read count. -/
theorem read_congr {m m' : Memory} {first count : Nat}
    (h : ∀ i, first ≤ i → i < first + count → m'.byteAt i = m.byteAt i) :
    m'.read first count = m.read first count := by
  apply List.map_congr_left
  intro i hi
  have hrange := List.mem_range'_1.1 hi
  exact h i hrange.1 hrange.2

theorem read_write {m m' : Memory} {offset : Nat} {data : Array UInt8}
    (h : m.write? offset data = some m') : m'.read offset data.size = data.toList := by
  apply List.ext_getElem
  · rw [length_read, Array.length_toList]
  · intro i hi hi'
    rw [Array.length_toList] at hi'
    simp only [read, List.getElem_map, List.getElem_range', Nat.one_mul, Array.getElem_toList]
    exact byteAt_write_of_mem h hi'

/-- A write leaves what is read elsewhere as it is. -/
theorem read_write_of_disjoint {m m' : Memory} {offset first count : Nat} {data : Array UInt8}
    (h : m.write? offset data = some m')
    (hdisjoint : first + count ≤ offset ∨ offset + data.size ≤ first) :
    m'.read first count = m.read first count := by
  apply read_congr
  intro i hfirst hlast
  apply byteAt_write_of_not_mem h
  omega

end Memory

end PolygonRenderer
