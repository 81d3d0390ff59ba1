import Mathlib.LinearAlgebra.Matrix.NonsingularInverse
import PolygonRenderer.Proofs.Geometry.Rational

/-!
# Carrying normals along

A matrix carries directions along, and its inverse transpose the normals to them. Over the
rationals `Mat3.inverseTranspose` is that of linear algebra (`Mat3.toMatrix_of_inverseTranspose`):
the cofactors that it divides by the determinant are the adjugate, transposed. So a normal that
is carried along has the same scalar products with directions as before
(`Mat3.dot_of_inverseTranspose`).
-/

namespace PolygonRenderer

open Matrix

namespace Vec3

/-- The components as a vector. -/
def toVector (v : Vec3 ℚ) : Fin 3 → ℚ :=
  ![v.x, v.y, v.z]

theorem dotProduct_toVector (v w : Vec3 ℚ) : v.toVector ⬝ᵥ w.toVector = v.dot w := by
  simp [toVector, dot, dotProduct, Fin.sum_univ_three]

end Vec3

namespace Mat3

variable {m n : Mat3 ℚ}

theorem toMatrix_injective : Function.Injective toMatrix := by
  intro m n h
  have hentries := fun i j => congrFun (congrFun h i) j
  rcases m with ⟨⟨_, _, _⟩, ⟨_, _, _⟩, ⟨_, _, _⟩⟩
  rcases n with ⟨⟨_, _, _⟩, ⟨_, _, _⟩, ⟨_, _, _⟩⟩
  simpa [toMatrix, Fin.forall_fin_succ, and_assoc] using hentries

theorem toVector_mulVec (m : Mat3 ℚ) (v : Vec3 ℚ) :
    (m.mulVec v).toVector = m.toMatrix *ᵥ v.toVector := by
  ext i
  fin_cases i <;>
    simp [mulVec, Vec3.dot, Vec3.toVector, toMatrix, Matrix.mulVec, dotProduct, Fin.sum_univ_three]

/-- The cofactors, divided by the determinant, are the inverse transpose entry by entry. -/
theorem toMatrix_of_inverseTranspose (h : m.inverseTranspose = some n) :
    n.toMatrix = m.toMatrix⁻¹ᵀ := by
  rw [Matrix.inv_def, det_toMatrix, Ring.inverse_eq_inv']
  unfold inverseTranspose at h
  dsimp only at h
  split at h
  · cases h
  · cases h
    simp only [toMatrix, adjugate_fin_three_of]
    ext i j
    fin_cases i <;> fin_cases j <;> simp [-mul_eq_mul_left_iff] <;> ring

theorem isUnit_det_of_inverseTranspose (h : m.inverseTranspose = some n) :
    IsUnit m.toMatrix.det := by
  rw [isUnit_iff_ne_zero, det_toMatrix]
  intro hdet
  rw [inverseTranspose_eq_none_iff.2 hdet] at h
  cases h

theorem transpose_mul_of_inverseTranspose (h : m.inverseTranspose = some n) :
    n.toMatrixᵀ * m.toMatrix = 1 := by
  rw [toMatrix_of_inverseTranspose h, transpose_transpose]
  exact nonsing_inv_mul _ (isUnit_det_of_inverseTranspose h)

/-- A matrix whose transpose undoes `m` from the left is the one that is computed. -/
theorem inverseTranspose_of_transpose_mul (h : n.toMatrixᵀ * m.toMatrix = 1) :
    m.inverseTranspose = some n := by
  cases hm : m.inverseTranspose with
  | none =>
      have hdet : m.toMatrix.det = 0 := m.det_toMatrix.trans (inverseTranspose_eq_none_iff.1 hm)
      have hone := congrArg Matrix.det h
      rw [det_mul, hdet, mul_zero, det_one] at hone
      cases zero_ne_one hone
  | some n' =>
      have hinv : n'.toMatrix = n.toMatrix := by
        rw [toMatrix_of_inverseTranspose hm, inv_eq_left_inv h, transpose_transpose]
      rw [toMatrix_injective hinv]

/-- Normals keep their scalar products with directions. -/
theorem dot_of_inverseTranspose (h : m.inverseTranspose = some n) (v t : Vec3 ℚ) :
    (n.mulVec v).dot (m.mulVec t) = v.dot t := by
  calc (n.mulVec v).dot (m.mulVec t)
      = (n.toMatrix *ᵥ v.toVector) ⬝ᵥ (m.toMatrix *ᵥ t.toVector) := by
        rw [← Vec3.dotProduct_toVector, toVector_mulVec, toVector_mulVec]
    _ = v.toVector ⬝ᵥ ((n.toMatrixᵀ * m.toMatrix) *ᵥ t.toVector) := by
        rw [← vecMul_transpose, ← dotProduct_mulVec, mulVec_mulVec]
    _ = v.dot t := by
        rw [transpose_mul_of_inverseTranspose h, one_mulVec, Vec3.dotProduct_toVector]

/-- There is no inverse transpose exactly where the determinant is zero. Otherwise it is the one
matrix whose transpose undoes the matrix, on the left or on the right, which is the same. It
carries normals along: what was orthogonal to a direction is so afterwards, and nothing else. -/
theorem inverseTranspose_spec (m : Mat3 ℚ) :
    (m.inverseTranspose = none ↔ m.toMatrix.det = 0) ∧
      (∀ n, m.inverseTranspose = some n ↔ n.toMatrixᵀ * m.toMatrix = 1) ∧
      (∀ n : Mat3 ℚ, n.toMatrixᵀ * m.toMatrix = 1 ↔ m.toMatrix * n.toMatrixᵀ = 1) ∧
      ∀ n, m.inverseTranspose = some n →
        ∀ v t, (n.mulVec v).dot (m.mulVec t) = 0 ↔ v.dot t = 0 := by
  refine ⟨?_, ?_, ?_, ?_⟩
  · rw [inverseTranspose_eq_none_iff, det_toMatrix]
  · intro n
    exact ⟨transpose_mul_of_inverseTranspose, inverseTranspose_of_transpose_mul⟩
  · intro n
    exact mul_eq_one_comm
  · intro n hn v t
    rw [dot_of_inverseTranspose hn]

/-- Normals under a matrix that shears along two axes and whose determinant is one. -/
theorem inverseTranspose_spec_of_shear :
    let m : Mat3 ℚ := ⟨⟨1, 2, 3⟩, ⟨0, 1, 4⟩, ⟨5, 6, 0⟩⟩
    let n : Mat3 ℚ := ⟨⟨-24, 20, -5⟩, ⟨18, -15, 4⟩, ⟨5, -4, 1⟩⟩
    m.inverseTranspose = some n ∧ (n.mulVec ⟨1, 2, 3⟩).dot (m.mulVec ⟨3, 0, -1⟩) = 0 := by
  intro m n
  have hn : m.inverseTranspose = some n := by decide +kernel
  have horthogonal : (⟨1, 2, 3⟩ : Vec3 ℚ).dot ⟨3, 0, -1⟩ = 0 := by decide +kernel
  exact ⟨hn, ((inverseTranspose_spec m).2.2.2 n hn _ _).2 horthogonal⟩

end Mat3

end PolygonRenderer
