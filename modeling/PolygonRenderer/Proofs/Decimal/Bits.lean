import Mathlib
import PolygonRenderer.Proofs.Decimal.Formats

/-!
# Bits of floating point numbers

A binary32 number is given by its bits, unless it is undefined: the infinite numbers
are the two that `infinity32` makes, and a finite one is made again of its sign and
its magnitude.
-/

namespace PolygonRenderer

theorem infinity32_of_isInf {x : Float32} (h : x.isInf) : infinity32 (decide (x < 0)) = x := by
  have hpack : Float32.ofModel (.pack x.toModel.unpack) = x := Float32.ofBits_toBits x
  have hinf : x.toModel.unpack.isInf := h
  cases hunpack : x.toModel.unpack with
  | infinity sign =>
    rw [← hpack, hunpack]
    cases sign <;> decide
  | notANumber => simp [hunpack, Float.Model.UnpackedFloat.isInf] at hinf
  | zero sign => simp [hunpack, Float.Model.UnpackedFloat.isInf] at hinf
  | finite sign mantissa exponent hpos =>
    simp [hunpack, Float.Model.UnpackedFloat.isInf] at hinf

/-- The exponent field of a number that is neither undefined nor infinite is not
full. -/
theorem exponentField_ne {x : Float32} (hnan : x.isNaN = false) (hinf : x.isInf = false) :
    x.toBits.toNat / twoPow 23 % twoPow 8 ≠ 255 := by
  intro hfull
  have hfield : @Float.Model.UnpackedFloat.unpackExponent .binary32 x.toBits.toBitVec = -1#8 := by
    rw [Float.Model.UnpackedFloat.unpackExponent_def]
    refine BitVec.eq_of_toNat_eq ?_
    rw [BitVec.extractLsb'_toNat, Nat.shiftRight_eq_div_pow]
    exact hfull
  have hnan : x.toModel.unpack.isNaN = false := hnan
  have hinf : x.toModel.unpack.isInf = false := hinf
  have hunpack : x.toModel.unpack =
      Float.Model.UnpackedFloat.unpack .binary32 x.toBits.toBitVec := rfl
  rw [hunpack, Float.Model.UnpackedFloat.unpack] at hnan hinf
  dsimp only at hnan hinf
  rw [if_pos hfield] at hnan hinf
  split at hnan
  · rename_i hzero
    rw [if_pos hzero] at hinf
    contradiction
  · contradiction

namespace Binary

/-- A number is made of its sign and its magnitude. -/
theorem toFloat32_ofFloat32 (x : Float32) :
    (ofFloat32 x).toFloat32 (x.toBits.toNat.testBit 31) = x := by
  have hlt : x.toBits.toNat < 0x100000000 := x.toBits.toNat_lt
  have h23 : twoPow 23 = 0x800000 := rfl
  have hsign : (if x.toBits.toNat.testBit 31 then twoPow 31 else 0) =
      x.toBits.toNat / 0x80000000 % 2 * 0x80000000 := by
    rw [Nat.testBit_eq_decide_div_mod_eq, show twoPow 31 = 0x80000000 from rfl]
    simp only [decide_eq_true_eq]
    split <;> omega
  have hbits : (ofFloat32 x).mantissa + ((ofFloat32 x).exponent + 149).toNat * twoPow 23 +
      (if x.toBits.toNat.testBit 31 then twoPow 31 else 0) = x.toBits.toNat := by
    rw [hsign, h23]
    rcases ofFloat32_cases x with ⟨hfield, hx⟩ | ⟨hfield, hx⟩ <;> rw [hx] <;> dsimp only <;> omega
  rw [toFloat32, hbits, UInt32.ofNat_toNat]
  exact Float32.ofBits_toBits x

theorem isNormal32_ofFloat32 {x : Float32} (hnan : x.isNaN = false) (hinf : x.isInf = false)
    (hzero : (ofFloat32 x).mantissa ≠ 0) : (ofFloat32 x).IsNormal32 := by
  have hfield : x.toBits.toNat / 0x800000 % 0x100 ≠ 255 := exponentField_ne hnan hinf
  rcases ofFloat32_cases x with ⟨hleast, hx⟩ | ⟨hnot, hx⟩
  · rw [hx] at hzero ⊢
    exact
      { mantissa_pos := Nat.pos_of_ne_zero hzero
        mantissa_lt := by dsimp only; omega
        le_exponent := le_rfl
        exponent_le := by dsimp only; omega
        full := .inl rfl }
  · rw [hx]
    exact
      { mantissa_pos := by dsimp only; omega
        mantissa_lt := by dsimp only; omega
        le_exponent := by dsimp only; omega
        exponent_le := by dsimp only; omega
        full := .inr (by dsimp only; omega) }

end Binary

end PolygonRenderer
