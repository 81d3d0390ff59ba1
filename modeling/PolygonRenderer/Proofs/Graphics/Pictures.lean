import PolygonRenderer.DisplayList
import PolygonRenderer.Graphics.Recorder
import PolygonRenderer.VertexBuffer.Vertex

/-!
# Pictures

What a draw shows depends on the commands before it and on the contents of the
buffer that is bound. `GraphicsState` is what commands leave behind, and a
`Picture` is a draw as it is carried out: the state at that point, and the bytes
of the vertices drawn. Viewports, lights and fog are left aside.

`Recorder.fetch?` reads vertices from a buffer. An upload changes what is read
in its own place and nowhere else.
-/

namespace PolygonRenderer

/-- What commands have set so far. -/
structure GraphicsState where
  buffer : Option BufferHandle
  blended : Option Bool
  cull : Option CullState
  modelView : Option (Mat4 Float32)

namespace GraphicsState

/-- Nothing is known to be set. -/
def unknown : GraphicsState :=
  ⟨none, none, none, none⟩

/-- The state after a command. -/
def apply (s : GraphicsState) : Command → GraphicsState
  | .bind buffer => { s with buffer := some buffer }
  | .blend enabled => { s with blended := some enabled }
  | .cull state => { s with cull := some state }
  | .modelView matrix => { s with modelView := some matrix }
  | .viewport .. | .uniforms _ | .draw .. => s

/-- The draws among commands, with the state that each is carried out in. -/
def draws (s : GraphicsState) : List Command → List (GraphicsState × VertexRange)
  | [] => []
  | .draw first count :: cs => (s, ⟨first, count⟩) :: draws s cs
  | c :: cs => draws (s.apply c) cs

theorem draws_append (s : GraphicsState) (cs ds : List Command) :
    s.draws (cs ++ ds) = s.draws cs ++ (cs.foldl apply s).draws ds := by
  induction cs generalizing s with
  | nil => rfl
  | cons c cs ih =>
      rw [List.cons_append, List.foldl_cons]
      cases c with
      | draw first count => exact congrArg _ (ih s)
      | bind | blend | cull | viewport | uniforms | modelView => exact ih _

end GraphicsState

namespace Recorder

/-- The buffer is live and has room for that many vertices. -/
def HasRoom (r : Recorder) (h : BufferHandle) (capacity : Nat) : Prop :=
  ∃ m, r.buffer? h = some m ∧ m.size = BufferVertex.byteCount * capacity

/-- The bytes of vertices in a buffer, if it is live and all of them lie inside. -/
def fetch? (r : Recorder) (h : BufferHandle) (range : VertexRange) : Option (List UInt8) :=
  (r.buffer? h).bind fun m =>
    if BufferVertex.byteCount * (range.first + range.count) ≤ m.size then
      some (m.read (BufferVertex.byteCount * range.first) (BufferVertex.byteCount * range.count))
    else none

theorem fetch?_congr {r r' : Recorder} {h : BufferHandle} (hsame : r'.buffer? h = r.buffer? h)
    (range : VertexRange) : r'.fetch? h range = r.fetch? h range := by
  rw [fetch?, hsame, fetch?]

theorem HasRoom.congr {r r' : Recorder} {h : BufferHandle} {capacity : Nat}
    (hroom : r.HasRoom h capacity) (hsame : r'.buffer? h = r.buffer? h) :
    r'.HasRoom h capacity := by
  rw [HasRoom, hsame]
  exact hroom

theorem fetch?_eq {r : Recorder} {h : BufferHandle} {capacity : Nat} {m : Memory}
    (hm : r.buffer? h = some m) (hsize : m.size = BufferVertex.byteCount * capacity)
    (range : VertexRange) :
    r.fetch? h range =
      if range.first + range.count ≤ capacity then
        some (m.read (BufferVertex.byteCount * range.first)
          (BufferVertex.byteCount * range.count))
      else none := by
  have hle : BufferVertex.byteCount * (range.first + range.count) ≤
      BufferVertex.byteCount * capacity ↔ range.first + range.count ≤ capacity :=
    Nat.mul_le_mul_left_iff (by decide)
  simp only [fetch?, hm, Option.bind_some, hsize, hle]

/-- The number of vertices can be told from their bytes. -/
theorem count_eq_of_fetch? {r : Recorder} {h : BufferHandle} {range : VertexRange}
    {vertices : List BufferVertex}
    (hfetch : r.fetch? h range = some (BufferVertex.encodeAll vertices)) :
    range.count = vertices.length := by
  rw [fetch?, Option.bind_eq_some_iff] at hfetch
  obtain ⟨m, -, hread⟩ := hfetch
  split at hread
  · have hlength := congrArg List.length (Option.some.inj hread)
    rw [Memory.length_read, BufferVertex.length_encodeAll] at hlength
    exact Nat.eq_of_mul_eq_mul_left (by decide) hlength
  · cases hread

/-- From `r` to `r'`, vertices are written to a place of a buffer. Nothing is changed
anywhere else. -/
structure Writes (r r' : Recorder) (h : BufferHandle) (capacity : Nat) (range : VertexRange)
    (bytes : List UInt8) : Prop where
  hasRoom : r'.HasRoom h capacity
  fetch?_self : r'.fetch? h range = some bytes
  fetch?_of_disjoint : ∀ other : VertexRange, other.first + other.count ≤ range.first ∨
    range.first + range.count ≤ other.first → r'.fetch? h other = r.fetch? h other
  buffer?_of_ne : ∀ other, other ≠ h → r'.buffer? other = r.buffer? other

/-- There is no need to write no vertices. -/
theorem writes_nothing {r : Recorder} {h : BufferHandle} {capacity : Nat}
    (hroom : r.HasRoom h capacity) {range : VertexRange} (hcount : range.count = 0)
    (hfirst : range.first ≤ capacity) : Writes r r h capacity range [] where
  hasRoom := hroom
  fetch?_self := by
    obtain ⟨m, hm, hsize⟩ := hroom
    rw [fetch?_eq hm hsize, if_pos (by omega), hcount]
    rfl
  fetch?_of_disjoint _ _ := rfl
  buffer?_of_ne _ _ := rfl

/-- Vertices are uploaded to a place that lies inside the buffer. -/
theorem writes_upload {r : Recorder} {h : BufferHandle} {capacity : Nat}
    (hroom : r.HasRoom h capacity) {range : VertexRange} {vertices : List BufferVertex}
    (hcount : range.count = vertices.length) (hle : range.first + range.count ≤ capacity) :
    Writes r (r.upload h (BufferVertex.byteCount * range.first)
      (BufferVertex.encodeAll vertices).toArray).value h capacity range
      (BufferVertex.encodeAll vertices) := by
  obtain ⟨m, hm, hsize⟩ := hroom
  have hdata : (BufferVertex.encodeAll vertices).toArray.size =
      BufferVertex.byteCount * range.count := by
    rw [List.size_toArray, BufferVertex.length_encodeAll, hcount]
  have hfits : ∃ m', m.write? (BufferVertex.byteCount * range.first)
      (BufferVertex.encodeAll vertices).toArray = some m' := by
    rw [← Option.ne_none_iff_exists', Ne, Memory.write?_eq_none_iff, hdata, hsize, ← Nat.mul_add,
      Nat.not_lt]
    exact Nat.mul_le_mul_left _ hle
  obtain ⟨m', hwrite⟩ := hfits
  have hm' := buffer?_upload_self hm hwrite
  have hsize' : m'.size = BufferVertex.byteCount * capacity :=
    (Memory.size_of_write? hwrite).trans hsize
  refine ⟨⟨m', hm', hsize'⟩, ?_, ?_, ?_⟩
  · rw [fetch?_eq hm' hsize', if_pos hle, ← hdata, Memory.read_write hwrite]
  · intro other hother
    rw [fetch?_eq hm' hsize', fetch?_eq hm hsize, Memory.read_write_of_disjoint hwrite]
    rw [hdata, ← Nat.mul_add, ← Nat.mul_add]
    rcases hother with hbefore | hbehind
    · exact .inl (Nat.mul_le_mul_left _ hbefore)
    · exact .inr (Nat.mul_le_mul_left _ hbehind)
  · intro other hne
    exact buffer?_upload_of_ne r _ _ hne

end Recorder

/-- A draw as it is carried out. -/
structure Picture where
  state : GraphicsState
  /-- The bytes of the vertices in the bound buffer, if they are there. -/
  bytes : Option (List UInt8)

namespace Recorder

/-- What is seen of commands that are carried out with these buffers, whatever was
set before. -/
def pictures (r : Recorder) (commands : List Command) : List Picture :=
  (GraphicsState.unknown.draws commands).map fun (s, range) =>
    ⟨s, s.buffer.bind fun h => r.fetch? h range⟩

end Recorder

end PolygonRenderer
