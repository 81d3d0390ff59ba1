import PolygonRenderer.Polygon.Header

/-!
# Vertices

A vertex is stored in four words: a signed 24-bit position and a signed 8-bit
offset to the normal of the polygon in each of the first three, and two 16-bit
texture coordinates in the fourth.
-/

namespace PolygonRenderer

structure Vertex (α : Type) where
  position : Vec3 α
  normal : Vec3 α
  /-- Texture coordinates in texels. -/
  u : α
  v : α
deriving DecidableEq, Repr

/-- The four words a vertex is stored in. -/
structure VertexWords where
  x : UInt32
  y : UInt32
  z : UInt32
  uv : UInt32
deriving DecidableEq, Repr

namespace VertexWords

def toList (w : VertexWords) : List UInt32 :=
  [w.x, w.y, w.z, w.uv]

@[simp] theorem length_toList (w : VertexWords) : w.toList.length = 4 := rfl

theorem length_flatMap_toList (vs : List VertexWords) :
    (vs.flatMap toList).length = 4 * vs.length := by
  induction vs with
  | nil => rfl
  | cons v vs ih =>
    simp only [List.flatMap_cons, List.length_append, length_toList, ih, List.length_cons]
    omega

/-- Any four words are those of a vertex. -/
theorem exists_toList_eq {words : List UInt32} (h : words.length = 4) :
    ∃ w : VertexWords, words = w.toList := by
  match words, h with
  | [x, y, z, uv], _ => exact ⟨⟨x, y, z, uv⟩, rfl⟩

/-- Read up to `n` vertices off the front of a list of words. Reading stops
where fewer than four words are left. -/
def readMany : Nat → List UInt32 → List VertexWords × List UInt32
  | n + 1, x :: y :: z :: uv :: rest =>
    let (vertices, left) := readMany n rest
    (⟨x, y, z, uv⟩ :: vertices, left)
  | _, words => ([], words)

/-- Reading gives back what was written. -/
theorem readMany_append (vs : List VertexWords) (rest : List UInt32) :
    readMany vs.length (vs.flatMap toList ++ rest) = (vs, rest) := by
  induction vs with
  | nil => rfl
  | cons v vs ih =>
    simp only [List.length_cons, List.flatMap_cons, toList, List.cons_append,
      List.nil_append, readMany, ih]

/-- Nothing is lost: what was read and what is left make up the input. -/
theorem eq_of_readMany (n : Nat) (words : List UInt32) :
    words = (readMany n words).1.flatMap toList ++ (readMany n words).2 := by
  fun_induction readMany n words with
  | case1 n x y z uv rest vertices left e ih =>
    rw [e] at ih
    simp [toList, ← ih]
  | case2 => simp

theorem length_fst_readMany_le (n : Nat) (words : List UInt32) :
    (readMany n words).1.length ≤ n := by
  fun_induction readMany n words with
  | case1 n x y z uv rest vertices left e ih =>
    rw [e] at ih
    exact Nat.succ_le_succ ih
  | case2 => exact Nat.zero_le _

/-- Reading stops early only where no vertex is left. -/
theorem length_snd_readMany_lt {n : Nat} {words : List UInt32}
    (h : (readMany n words).1.length < n) : (readMany n words).2.length < 4 := by
  fun_induction readMany n words with
  | case1 n x y z uv rest vertices left e ih =>
    rw [e] at ih
    exact ih (Nat.lt_of_succ_lt_succ h)
  | case2 n words hshort =>
    cases n with
    | zero => cases h
    | succ n =>
      match words, hshort with
      | [], _ | [_], _ | [_, _], _ | [_, _, _], _ => simp
      | x :: y :: z :: uv :: rest, hshort => exact absurd rfl (hshort n x y z uv rest rfl)

end VertexWords

namespace Vertex

/-- The vertex at the origin, with no normal and no texture coordinates. -/
def zero : Vertex Float32 :=
  ⟨0, 0, 0, 0⟩

/-- The signed offset in the lowest byte of a word. -/
def normalOffset (word : UInt32) : Float32 :=
  .ofInt word.toUInt8.toInt8.toInt

/-- Decode a vertex of a polygon with the given normal. Positions are scaled by
`factor` and texture coordinates by `textureScale`; the sum of the normal of the
polygon and the offset of the vertex is brought to unit length. -/
def decode (words : VertexWords) (normal : Vec3 Float32) (factor textureScale : Float32) :
    Vertex Float32 :=
  let corner : Vec3 UInt32 := ⟨words.x, words.y, words.z⟩
  { position := corner.map fun w => signedUpper24 w * factor
    normal := (normal + corner.map normalOffset).normalize
    u := (words.uv >>> 16).toFloat32 * textureScale
    v := (words.uv &&& 0xFFFF).toFloat32 * textureScale }

end Vertex

end PolygonRenderer
