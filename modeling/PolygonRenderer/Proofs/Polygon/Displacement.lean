import Mathlib.Data.Int.ModEq
import PolygonRenderer.Polygon.Header

/-!
# Displaced textures

Texture memory is as wide and as high as 2048 texels, and a texture that is displaced beyond an
edge enters at the other. `Header.displace` adds two's complement numbers of 32 bits and keeps
the lowest 11 bits of the sum. Since 2048 divides `2 ^ 32`, nothing is lost where the sum wraps
around: displacing is addition modulo 2048 (`Header.toNat_displace`).
-/

namespace PolygonRenderer

/-- A texture displaced by `dx` and `dy` texels. -/
def TextureRef.displaced (t : TextureRef) (dx dy : Int32) : TextureRef :=
  { t with x := Header.displace t.x dx, y := Header.displace t.y dy }

namespace Header

theorem toNat_and_2047 (w : UInt32) : (w &&& 2047).toNat = w.toNat % 2048 := by
  rw [UInt32.toNat_and]
  exact Nat.and_two_pow_sub_one_eq_mod w.toNat 11

/-- Whatever the signs, words are added modulo `2 ^ 32`. -/
theorem toNat_toInt32_add (base : UInt32) (offset : Int32) :
    ((base.toInt32 + offset).toUInt32.toNat : ℤ) ≡ base.toNat + offset.toInt [ZMOD 2 ^ 32] := by
  have hsum : (base.toInt32 + offset).toUInt32.toNat =
      (base.toNat + offset.toBitVec.toNat) % 2 ^ 32 := by
    rw [← UInt32.toNat_toBitVec, Int32.toBitVec_toUInt32, Int32.toBitVec_add, BitVec.toNat_add]
    rfl
  have hoffset : offset.toInt ≡ offset.toBitVec.toNat [ZMOD 2 ^ 32] := by
    rw [← Int32.toInt_toBitVec, BitVec.toInt_eq_toNat_bmod]
    exact Int.bmod_emod
  rw [hsum]
  push_cast
  exact (Int.mod_modEq _ _).trans (hoffset.symm.add_left _)

/-- Displacing is addition modulo 2048. -/
theorem toNat_displace (base : UInt32) (offset : Int32) :
    ((displace base offset).toNat : ℤ) = (base.toNat + offset.toInt) % 2048 := by
  have hdvd : (2048 : ℤ) ∣ 2 ^ 32 := ⟨2 ^ 21, rfl⟩
  rw [displace, toNat_and_2047]
  push_cast
  exact (toNat_toInt32_add base offset).of_dvd hdvd

theorem toNat_displace_lt (base : UInt32) (offset : Int32) :
    (displace base offset).toNat < 2048 := by
  have h := toNat_displace base offset
  omega

theorem displace_modEq (base : UInt32) (offset : Int32) :
    ((displace base offset).toNat : ℤ) ≡ base.toNat + offset.toInt [ZMOD 2048] := by
  rw [toNat_displace]
  exact Int.mod_modEq _ _

/-- An offset counts modulo 2048, and in no other way. -/
theorem displace_eq_displace_iff (base : UInt32) {d d' : Int32} :
    displace base d = displace base d' ↔ d.toInt ≡ d'.toInt [ZMOD 2048] := by
  rw [← UInt32.toNat_inj, ← Int.natCast_inj, toNat_displace, toNat_displace]
  exact ⟨Int.ModEq.add_left_cancel' _, Int.ModEq.add_left _⟩

theorem toInt_add_modEq (d e : Int32) :
    (d + e).toInt ≡ d.toInt + e.toInt [ZMOD 2048] := by
  have hdvd : (2048 : ℤ) ∣ 2 ^ 32 := ⟨2 ^ 21, rfl⟩
  have hwrap : (d + e).toInt ≡ d.toInt + e.toInt [ZMOD 2 ^ 32] := by
    rw [Int32.toInt_add]
    exact Int.bmod_emod
  exact hwrap.of_dvd hdvd

/-- A sum of offsets displaces as one of them and then the other, also where it wraps around. -/
theorem displace_add (base : UInt32) (d e : Int32) :
    displace base (d + e) = displace (displace base d) e := by
  rw [← UInt32.toNat_inj, ← Int.natCast_inj, toNat_displace, toNat_displace]
  change _ ≡ _ [ZMOD 2048]
  calc (base.toNat : ℤ) + (d + e).toInt
      ≡ base.toNat + (d.toInt + e.toInt) [ZMOD 2048] := (toInt_add_modEq d e).add_left _
    _ = base.toNat + d.toInt + e.toInt := (add_assoc _ _ _).symm
    _ ≡ (displace base d).toNat + e.toInt [ZMOD 2048] := (displace_modEq base d).symm.add_right _

/-- A displaced texture lies inside the texture memory, where it is found by addition modulo
2048, and has the format and the size that it had. So offsets count modulo 2048, and the sum of
two offsets, taken with 32 bits, displaces as one of them and then the other. -/
theorem textureRef_modulo (h : Header) (dx dy : Int32) :
    let t := h.textureRef dx dy
    (t.x.toNat < 2048 ∧ (t.x.toNat : ℤ) ≡ h.textureBaseX.toNat + dx.toInt [ZMOD 2048]) ∧
      (t.y.toNat < 2048 ∧ (t.y.toNat : ℤ) ≡ h.textureBaseY.toNat + dy.toInt [ZMOD 2048]) ∧
      (t.format = h.textureFormat ∧ t.width = h.textureWidth ∧ t.height = h.textureHeight) ∧
      (∀ dx' dy', h.textureRef dx' dy' = t ↔
        dx'.toInt ≡ dx.toInt [ZMOD 2048] ∧ dy'.toInt ≡ dy.toInt [ZMOD 2048]) ∧
      ∀ ex ey, h.textureRef (dx + ex) (dy + ey) = t.displaced ex ey := by
  intro t
  refine ⟨⟨toNat_displace_lt _ _, displace_modEq _ _⟩, ⟨toNat_displace_lt _ _, displace_modEq _ _⟩,
    ⟨rfl, rfl, rfl⟩, ?_, ?_⟩
  · intro dx' dy'
    rw [← displace_eq_displace_iff h.textureBaseX, ← displace_eq_displace_iff h.textureBaseY]
    simp [t, textureRef]
  · intro ex ey
    simp only [textureRef, TextureRef.displaced, displace_add, t]

end Header

end PolygonRenderer
