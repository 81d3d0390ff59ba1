import PolygonRenderer.Proofs.Geometry.Rational
import PolygonRenderer.Proofs.ModelCache.Triangulation

/-!
# Orientation of triangles

A polygon is put in order by its first three vertices. Over the rationals the test is the
sign of an area (`runsClockwise_iff`), which does not depend on the vertex a triangle starts
with and changes its sign with the order and with the normal. So the first triangle always
runs clockwise, and so does the second one of a quad whose diagonal lies inside.
-/

namespace PolygonRenderer

theorem Vec3.sub_eq {α : Type} [Sub α] (a b : Vec3 α) :
    a - b = ⟨a.x - b.x, a.y - b.y, a.z - b.z⟩ := rfl

theorem Vec3.neg_eq {α : Type} [Neg α] (a : Vec3 α) : -a = ⟨-a.x, -a.y, -a.z⟩ := rfl

/-- Twice the area of a triangle as seen along a normal, which has a sign. -/
def signedArea (a b c normal : Vec3 ℚ) : ℚ :=
  ((b - a).cross (c - a)).dot normal

section Area

variable (a b c normal : Vec3 ℚ)

theorem signedArea_rotate : signedArea b c a normal = signedArea a b c normal := by
  simp only [signedArea, Vec3.cross, Vec3.dot, Vec3.sub_eq]
  ring

theorem signedArea_reverse : signedArea c b a normal = -signedArea a b c normal := by
  simp only [signedArea, Vec3.cross, Vec3.dot, Vec3.sub_eq]
  ring

theorem signedArea_neg : signedArea a b c (-normal) = -signedArea a b c normal := by
  simp only [signedArea, Vec3.dot, Vec3.neg_eq]
  ring

/-- The edges out of the second vertex span the same area, with the other sign. -/
theorem runsClockwise_iff (zSign : ℚ) :
    runsClockwise a b c normal zSign = true ↔ 0 ≤ zSign * signedArea a b c normal := by
  have harea : -zSign * ((a - b).cross (c - b)).dot normal =
      zSign * signedArea a b c normal := by
    simp only [signedArea, Vec3.cross, Vec3.dot, Vec3.sub_eq]
    ring
  rw [← harea]
  exact decide_eq_true_iff

end Area

/-- Numbers of one sign may stand for each other beside a factor. -/
theorem mul_nonneg_of_mul_pos {x y z : ℚ} (h : 0 < x * y) (hx : 0 ≤ z * x) : 0 ≤ z * y := by
  have hsquare : z * y * x ^ 2 = z * x * (x * y) := by ring
  have hx0 : x ≠ 0 := by
    rintro rfl
    rw [zero_mul] at h
    exact lt_irrefl 0 h
  refine nonneg_of_mul_nonneg_left ?_ (by positivity : 0 < x ^ 2)
  rw [hsquare]
  exact mul_nonneg hx h.le

namespace Polygon

/-- The area of the triangle on three slots, as seen along a normal. -/
def area (p : Polygon ℚ) (normal : Vec3 ℚ) (i j k : Fin 4) : ℚ :=
  signedArea (p.slots.get i).position (p.slots.get j).position (p.slots.get k).position normal

theorem isClockwise_iff (p : Polygon ℚ) (zSign : ℚ) :
    p.isClockwise zSign = true ↔ 0 ≤ zSign * p.area p.normal 0 1 2 :=
  runsClockwise_iff ..

end Polygon

namespace Triangle

variable {p : Polygon ℚ} {t : Triangle} {i j k : Fin 4}

/-- The vertices of the triangle run clockwise as seen along a normal. -/
def IsClockwise (p : Polygon ℚ) (normal : Vec3 ℚ) (zSign : ℚ) (t : Triangle) : Prop :=
  runsClockwise (p.slots.get t.first).position (p.slots.get t.second).position
    (p.slots.get t.third).position normal zSign = true

theorem isClockwise_iff {normal : Vec3 ℚ} {zSign : ℚ} :
    t.IsClockwise p normal zSign ↔ 0 ≤ zSign * p.area normal t.first t.second t.third :=
  runsClockwise_iff ..

/-- The area depends on the order only. -/
theorem area_of_order (h : t.order = .ofList [i, j, k]) (normal : Vec3 ℚ) :
    p.area normal t.first t.second t.third = p.area normal i j k := by
  rcases order_eq_iff.1 h with rfl | rfl | rfl
  · rfl
  · exact signedArea_rotate ..
  · exact (signedArea_rotate ..).symm

theorem area_of_order_reverse (h : t.order = (Cycle.ofList [i.val, j.val, k.val]).reverse)
    (normal : Vec3 ℚ) :
    p.area normal t.first t.second t.third = -p.area normal i j k := by
  have hreverse : t.order = .ofList [k, j, i] := h
  rw [area_of_order hreverse]
  exact signedArea_reverse ..

end Triangle

namespace Face

variable {p : Polygon ℚ} {f : Face} {forward doubleSided : Bool} {i j k : Fin 4}

/-- The triangle in front runs clockwise along the normal of the polygon, and the one behind
along the opposite normal. -/
def IsClockwise (p : Polygon ℚ) (zSign : ℚ) (f : Face) : Prop :=
  f.front.IsClockwise p p.normal zSign ∧ ∀ t ∈ f.behind?, t.IsClockwise p (-p.normal) zSign

/-- Behind, both the order and the normal are reversed, so it is enough to look in front. -/
theorem Runs.isClockwise (h : f.Runs forward doubleSided (.ofList [i, j, k])) {zSign : ℚ}
    (hfront : 0 ≤ zSign * if forward then p.area p.normal i j k else -p.area p.normal i j k) :
    f.IsClockwise p zSign := by
  have harea : p.area p.normal f.front.first f.front.second f.front.third =
      if forward then p.area p.normal i j k else -p.area p.normal i j k := by
    have horder := h.front
    cases forward with
    | true => exact Triangle.area_of_order horder _
    | false => exact Triangle.area_of_order_reverse horder _
  refine ⟨?_, ?_⟩
  · rw [Triangle.isClockwise_iff, harea]
    exact hfront
  · intro t ht
    have hbehind : p.area (-p.normal) t.first t.second t.third =
        p.area p.normal f.front.first f.front.second f.front.third := by
      rw [Triangle.area_of_order_reverse (h.behind t ht)]
      exact neg_eq_iff_eq_neg.2 (signedArea_neg ..)
    rw [Triangle.isClockwise_iff, hbehind, harea]
    exact hfront

end Face

namespace Polygon

variable {p : Polygon ℚ} {zSign : ℚ}

/-- Reversed where that is needed, the first triangle has its area on the right side. -/
theorem zSign_mul_area_nonneg (p : Polygon ℚ) (zSign : ℚ) :
    0 ≤ zSign * if p.isClockwise zSign then p.area p.normal 0 1 2
      else -p.area p.normal 0 1 2 := by
  split
  · rename_i hforward
    exact p.isClockwise_iff zSign |>.1 hforward
  · rename_i hbackward
    rw [isClockwise_iff, not_le] at hbackward
    linarith

/-- Vertices on opposite sides of the diagonal give the two triangles areas of one sign. -/
theorem zSign_mul_area_nonneg_of_opposite
    (h : p.area p.normal 0 2 1 * p.area p.normal 0 2 3 < 0) (zSign : ℚ) :
    0 ≤ zSign * if p.isClockwise zSign then p.area p.normal 0 2 3
      else -p.area p.normal 0 2 3 := by
  have hturn : p.area p.normal 0 2 1 = -p.area p.normal 0 1 2 :=
    (signedArea_rotate ..).symm.trans (signedArea_reverse ..)
  have hsame : 0 < p.area p.normal 0 1 2 * p.area p.normal 0 2 3 := by
    rw [hturn, neg_mul] at h
    exact neg_lt_zero.1 h
  have hfirst := p.zSign_mul_area_nonneg zSign
  cases hforward : p.isClockwise zSign with
  | true =>
      rw [hforward] at hfirst
      exact mul_nonneg_of_mul_pos hsame hfirst
  | false =>
      rw [hforward] at hfirst
      rw [← neg_mul_neg] at hsame
      exact mul_nonneg_of_mul_pos hsame hfirst

/-- The faces of a polygon run clockwise, the second one if it lies on the other side of the
diagonal. -/
theorem isClockwise_of_isCutInto {faces : List Face}
    (h : p.IsCutInto (p.isClockwise zSign) faces) :
    ∃ face rest, faces = face :: rest ∧ face.IsClockwise p zSign ∧
      (p.area p.normal 0 2 1 * p.area p.normal 0 2 3 < 0 →
        ∀ f ∈ rest, f.IsClockwise p zSign) := by
  unfold IsCutInto cuts at h
  split at h
  · obtain _ | ⟨h₁, _ | ⟨h₂, _ | _⟩⟩ := h
    have hfirst := h₁.isClockwise (i := 0) (j := 1) (k := 2) (p.zSign_mul_area_nonneg zSign)
    refine ⟨_, _, rfl, hfirst, ?_⟩
    intro hopposite
    exact List.forall_mem_singleton.2 (h₂.isClockwise (i := 0) (j := 2) (k := 3)
      (zSign_mul_area_nonneg_of_opposite hopposite zSign))
  · obtain _ | ⟨h₁, _ | _⟩ := h
    exact ⟨_, _, rfl, h₁.isClockwise (i := 0) (j := 1) (k := 2) (p.zSign_mul_area_nonneg zSign),
      fun _ => List.forall_mem_nil _⟩

/-- A polygon with rounded coordinates is cut as `p` is: they have one header and one number
of vertices, and rounding does not change the outcome of the test. -/
structure AgreesWith (q : Polygon Float32) (z : Float32) (p : Polygon ℚ) (zSign : ℚ) : Prop where
  header : q.header = p.header
  vertexCount : q.vertexCount = p.vertexCount
  isClockwise : q.isClockwise z = p.isClockwise zSign

theorem AgreesWith.corners_eq {q : Polygon Float32} {z : Float32}
    (h : q.AgreesWith z p zSign) : q.corners z = p.corners zSign := by
  unfold corners
  rw [h.header, h.vertexCount, h.isClockwise]

/-- The first face of a polygon runs clockwise, in front along its normal and behind along the
opposite normal. So does the second face of a quad whose vertices 1 and 3 are on opposite
sides of the 0-2 diagonal. These are the faces that an insertion stages, in this order, if
the test comes out as it does without rounding. -/
theorem isClockwise_of_corners (p : Polygon ℚ) (zSign : ℚ) :
    let v (i : Fin 4) : Vec3 ℚ := (p.slots.get i).position
    ∃ face rest, p.IsCutInto (p.isClockwise zSign) (face :: rest) ∧
      p.corners zSign = (face :: rest).flatMap (Face.drawn (⟨·, false⟩) (⟨·, true⟩)) ∧
      face.IsClockwise p zSign ∧
      (signedArea (v 0) (v 2) (v 1) p.normal * signedArea (v 0) (v 2) (v 3) p.normal < 0 →
        ∀ f ∈ rest, f.IsClockwise p zSign) ∧
      ∀ (q : Polygon Float32) (ctx : DecodeContext), q.AgreesWith ctx.zSign p zSign →
        ∀ (c c' : ModelCache) (h : StagingHandle),
          (c.insertPolygon h q ctx).value = (.ok (), c') →
            c'.staging.vertices.get q.pass = c.staging.vertices.get q.pass ++
              (p.corners zSign).map (BufferVertex.ofCorner ctx q) := by
  intro v
  obtain ⟨faces, hcut, hcorners⟩ := p.exists_isCutInto zSign
  obtain ⟨face, rest, rfl, hface, hrest⟩ := isClockwise_of_isCutInto hcut
  refine ⟨face, rest, hcut, hcorners, hface, hrest, ?_⟩
  intro q ctx hagrees c c' h hinsert
  rcases c.insertPolygon_taken_or_refused h q ctx with ⟨-, hvalue⟩ | ⟨-, e, hvalue⟩
  · rw [hvalue] at hinsert
    cases hinsert
    rw [← hagrees.corners_eq]
    exact PerPass.get_modify_self ..
  · rw [hvalue] at hinsert
    cases hinsert

/-- A double-sided square, whose normal points along Z. -/
def square (α : Type) [Zero α] [One α] : Polygon α :=
  let vertex (x y : α) : Vertex α := ⟨⟨x, y, 0⟩, 0, 0, 0⟩
  { header := ⟨0, 0x10, 0, 0, 0, 0, 0x80⟩
    slots := #v[vertex 0 0, vertex 1 0, vertex 1 1, vertex 0 1]
    vertexCount := 4
    normal := ⟨0, 0, 1⟩
    pass := .solid }

/-- The square runs against its normal, so it is reversed, and both of its faces run clockwise
where it is staged. -/
theorem isClockwise_of_corners_square :
    let ctx : DecodeContext := ⟨1, -1, 0, 0, #[], .unlessWord4, .origin⟩
    let c := (ModelCache.empty ⟨128, 64, 4, 16, 8⟩ .static ⟨0⟩ 128).begun
    (square ℚ).isClockwise (-1) = false ∧
      ∃ face rest c', rest.length = 1 ∧ (∀ f ∈ face :: rest, f.IsClockwise (square ℚ) (-1)) ∧
        (c.insertPolygon ⟨0, 0⟩ (square Float32) ctx).value = (.ok (), c') ∧
        c'.staging.vertices.solid = c.staging.vertices.solid ++
          ((face :: rest).flatMap (Face.drawn (⟨·, false⟩) (⟨·, true⟩))).map
            (BufferVertex.ofCorner ctx (square Float32)) := by
  intro ctx c
  obtain ⟨face, rest, hcut, hcorners, hface, hrest, hstaged⟩ :=
    isClockwise_of_corners (square ℚ) (-1)
  have hagrees : (square Float32).AgreesWith ctx.zSign (square ℚ) (-1) :=
    ⟨rfl, rfl, by decide +kernel⟩
  refine ⟨by decide +kernel, face, rest, _, ?_, ?_, rfl, ?_⟩
  · exact Nat.succ.inj hcut.length_eq
  · exact List.forall_mem_cons.2 ⟨hface, hrest (by decide +kernel)⟩
  · rw [← hcorners]
    exact hstaged (square Float32) ctx hagrees c _ ⟨0, 0⟩ rfl

end Polygon

end PolygonRenderer
