import PolygonRenderer.Proofs.Geometry.Rational

/-!
# Winding and determinants

`Winding.ofTransform` carries a made-up polygon along and compares two normals of it. Over
the rationals the outcome is the sign of one number (`Winding.ofTransform_eq_ofSign`), in
which the determinant of the matrix and the direction of the Z axis stand beside a square.
What mirrors and translations do to the winding is what they do to this number.
-/

namespace PolygonRenderer

namespace Mat3

/-- The Z component of the cross product of the first two columns. -/
def crossZ (m : Mat3 ℚ) : ℚ :=
  m.toMatrix 0 0 * m.toMatrix 1 1 - m.toMatrix 1 0 * m.toMatrix 0 1

/-- The normal of the made-up polygon, compared with the one the host culls by. -/
theorem mulVec_mul_cross {m n : Mat3 ℚ} (h : m.inverseTranspose = some n) (zSign : ℚ) :
    (n.mulVec ⟨0, 0, -zSign⟩).z * ((m.mulVec ⟨1, 0, 0⟩).cross (m.mulVec ⟨0, 1, 0⟩)).z =
      -zSign * m.crossZ ^ 2 / m.det := by
  have hcross : m.crossZ = m.row0.x * m.row1.y - m.row1.x * m.row0.y := rfl
  rw [hcross]
  unfold inverseTranspose at h
  dsimp only at h
  split at h
  · cases h
  · cases h
    simp only [mulVec, Vec3.dot, Vec3.cross]
    ring

end Mat3

namespace Winding

/-- The winding with the order of the vertices reversed. -/
def reversed : Winding → Winding
  | clockwise => counterClockwise
  | counterClockwise => clockwise
  | noCull => noCull

/-- The winding for a number of which only the sign counts. -/
def ofSign (x : ℚ) : Winding :=
  if x = 0 then noCull else if 0 < x then clockwise else counterClockwise

theorem reversed_reversed (w : Winding) : w.reversed.reversed = w := by
  cases w <;> rfl

theorem ofSign_neg (x : ℚ) : ofSign (-x) = (ofSign x).reversed := by
  unfold ofSign
  rcases lt_trichotomy x 0 with hx | rfl | hx
  · simp [hx, hx.ne, hx.not_gt, reversed]
  · simp [reversed]
  · simp [hx, hx.ne', hx.not_gt, reversed]

theorem ofSign_eq_noCull_iff {x : ℚ} : ofSign x = noCull ↔ x = 0 := by
  unfold ofSign
  grind

theorem ofSign_eq_clockwise_iff {x : ℚ} : ofSign x = clockwise ↔ 0 < x := by
  unfold ofSign
  grind

theorem ofSign_eq_counterClockwise_iff {x : ℚ} : ofSign x = counterClockwise ↔ x < 0 := by
  unfold ofSign
  grind

/-- A positive factor does not count. -/
theorem ofSign_mul_pos (x : ℚ) {y : ℚ} (hy : 0 < y) : ofSign (x * y) = ofSign x := by
  unfold ofSign
  simp only [mul_eq_zero, hy.ne', or_false, mul_pos_iff_of_pos_right hy]

/-- Beside a factor, a square counts only where it is zero. -/
theorem mul_sq_pos_iff {x c : ℚ} : 0 < x * c ^ 2 ↔ c ≠ 0 ∧ 0 < x := by
  rcases eq_or_ne c 0 with rfl | hc
  · simp
  · have hsquare : 0 < c ^ 2 := by positivity
    rw [mul_pos_iff_of_pos_right hsquare, and_iff_right hc]

theorem mul_sq_neg_iff {x c : ℚ} : x * c ^ 2 < 0 ↔ c ≠ 0 ∧ x < 0 := by
  rw [← neg_pos, ← neg_mul, mul_sq_pos_iff, neg_pos]

/-- The number is zero unless the matrix, the cross product and the direction of the Z axis
all have something to say. -/
theorem ofTransform_eq_ofSign (m : Mat4 ℚ) (zSign : ℚ) :
    ofTransform m zSign = ofSign (-zSign * m.upper.det * m.upper.crossZ ^ 2) := by
  unfold ofTransform
  dsimp only
  cases hn : m.upper.inverseTranspose with
  | none =>
      have hdet : m.upper.det = 0 := Mat3.inverseTranspose_eq_none_iff.1 hn
      rw [hdet, mul_zero, zero_mul]
      rfl
  | some n =>
      have hdet : m.upper.det ≠ 0 := by
        intro hdet
        rw [Mat3.inverseTranspose_eq_none_iff.2 hdet] at hn
        cases hn
      -- a number has the sign of its inverse
      have hinverse : -zSign * m.upper.det * m.upper.crossZ ^ 2 =
          -zSign * m.upper.crossZ ^ 2 / m.upper.det * m.upper.det ^ 2 := by
        field_simp
      have hsquare : 0 < m.upper.det ^ 2 := by positivity
      dsimp only
      rw [Mat3.mulVec_mul_cross hn, hinverse, ofSign_mul_pos _ hsquare]
      unfold ofSign
      grind [sign_neg_iff, sign_pos_iff]

end Winding

namespace Mat4

/-- The transform with one axis of the model mirrored. -/
def mirror (m : Mat4 ℚ) : Fin 3 → Mat4 ℚ
  | 0 => { m with col0 := ⟨-m.col0.x, -m.col0.y, -m.col0.z, m.col0.w⟩ }
  | 1 => { m with col1 := ⟨-m.col1.x, -m.col1.y, -m.col1.z, m.col1.w⟩ }
  | 2 => { m with col2 := ⟨-m.col2.x, -m.col2.y, -m.col2.z, m.col2.w⟩ }

/-- One column is negated. -/
theorem toMatrix_mirror (m : Mat4 ℚ) (axis : Fin 3) :
    (m.mirror axis).upper.toMatrix =
      m.upper.toMatrix.updateCol axis (-m.upper.toMatrix.col axis) := by
  ext i j
  fin_cases axis <;> fin_cases i <;> fin_cases j <;> rfl

theorem det_mirror (m : Mat4 ℚ) (axis : Fin 3) : (m.mirror axis).upper.det = -m.upper.det := by
  have hself : m.upper.toMatrix.updateCol axis (m.upper.toMatrix.col axis) = m.upper.toMatrix :=
    Matrix.updateCol_eq_self _ _
  rw [← Mat3.det_toMatrix, ← Mat3.det_toMatrix, toMatrix_mirror, ← neg_one_smul ℚ,
    Matrix.det_updateCol_smul, hself, neg_one_mul]

theorem crossZ_mirror_sq (m : Mat4 ℚ) (axis : Fin 3) :
    (m.mirror axis).upper.crossZ ^ 2 = m.upper.crossZ ^ 2 := by
  fin_cases axis <;> simp [mirror, upper, Mat3.crossZ, Mat3.toMatrix] <;> ring

end Mat4

namespace Winding

theorem ofTransform_neg (m : Mat4 ℚ) (zSign : ℚ) :
    ofTransform m (-zSign) = (ofTransform m zSign).reversed := by
  rw [ofTransform_eq_ofSign, ofTransform_eq_ofSign, ← ofSign_neg]
  congr 1
  ring

theorem ofTransform_mirror (m : Mat4 ℚ) (axis : Fin 3) (zSign : ℚ) :
    ofTransform (m.mirror axis) zSign = (ofTransform m zSign).reversed := by
  rw [ofTransform_eq_ofSign, ofTransform_eq_ofSign, m.det_mirror, m.crossZ_mirror_sq,
    ← ofSign_neg]
  congr 1
  ring

/-- The winding is the sign of the determinant, taken in the direction of the Z axis. Nothing
is culled if there is no such sign, or if the cross product of the first two columns has
nothing along Z. So the winding is reversed by a mirror of one axis and by a Z axis that
points the other way, and kept by mirrors of two axes and by translations. -/
theorem ofTransform_iff_det (m : Mat4 ℚ) (zSign : ℚ) :
    let a := m.upper.toMatrix
    let d := a.det
    let c := a 0 0 * a 1 1 - a 1 0 * a 0 1
    (ofTransform m zSign = noCull ↔ d = 0 ∨ c = 0 ∨ zSign = 0) ∧
      (ofTransform m zSign = clockwise ↔ c ≠ 0 ∧ 0 < -zSign * d) ∧
      (ofTransform m zSign = counterClockwise ↔ c ≠ 0 ∧ -zSign * d < 0) ∧
      (∀ axis, ofTransform (m.mirror axis) zSign = (ofTransform m zSign).reversed) ∧
      (∀ axis axis', ofTransform ((m.mirror axis).mirror axis') zSign = ofTransform m zSign) ∧
      (∀ translation, ofTransform { m with col3 := translation } zSign = ofTransform m zSign) ∧
      ofTransform m (-zSign) = (ofTransform m zSign).reversed := by
  intro a d c
  have hsign : ofTransform m zSign = ofSign (-zSign * d * c ^ 2) := by
    have hdet : d = m.upper.det := m.upper.det_toMatrix
    rw [hdet]
    exact ofTransform_eq_ofSign m zSign
  refine ⟨?_, ?_, ?_, fun axis => ofTransform_mirror m axis zSign, ?_, fun _ => rfl,
    ofTransform_neg m zSign⟩
  · rw [hsign, ofSign_eq_noCull_iff, mul_eq_zero, mul_eq_zero, neg_eq_zero,
      pow_eq_zero_iff two_ne_zero]
    grind
  · rw [hsign, ofSign_eq_clockwise_iff, mul_sq_pos_iff]
  · rw [hsign, ofSign_eq_counterClockwise_iff, mul_sq_neg_iff]
  · intro axis axis'
    rw [ofTransform_mirror, ofTransform_mirror, reversed_reversed]

end Winding

end PolygonRenderer
