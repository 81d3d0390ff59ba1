import Mathlib.LinearAlgebra.Matrix.Determinant.Basic
import Mathlib.Tactic.FieldSimp
import Mathlib.Tactic.Linarith
import Mathlib.Tactic.Positivity
import Mathlib.Tactic.Ring
import PolygonRenderer.Geometry.Winding

/-!
# Geometry over the rationals

The geometry is written for any scalars. Over the rationals nothing is rounded and all
numbers are finite, so there the laws of linear algebra hold.
-/

namespace PolygonRenderer

instance : Scalar ℚ where
  decLt := inferInstance
  decLe := inferInstance
  isFinite _ := true

theorem sign_neg_iff {x : ℚ} : sign x < 0 ↔ x < 0 := by
  unfold sign
  grind

theorem sign_pos_iff {x : ℚ} : 0 < sign x ↔ 0 < x := by
  unfold sign
  grind

namespace Mat3

/-- The entries as a matrix. -/
def toMatrix (m : Mat3 ℚ) : Matrix (Fin 3) (Fin 3) ℚ :=
  !![m.row0.x, m.row0.y, m.row0.z; m.row1.x, m.row1.y, m.row1.z; m.row2.x, m.row2.y, m.row2.z]

/-- The determinant is that of the matrix, whichever way it is expanded. -/
theorem det_toMatrix (m : Mat3 ℚ) : m.toMatrix.det = m.det := by
  rw [Matrix.det_fin_three]
  simp only [toMatrix, det]
  simp
  ring

/-- The normals of a matrix can be carried along unless it is singular. -/
theorem inverseTranspose_eq_none_iff {m : Mat3 ℚ} : m.inverseTranspose = none ↔ m.det = 0 := by
  unfold inverseTranspose
  simp [Scalar.isFinite]

end Mat3

end PolygonRenderer
