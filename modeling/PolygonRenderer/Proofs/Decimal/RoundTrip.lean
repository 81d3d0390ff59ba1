import PolygonRenderer.Proofs.Decimal.Bits
import PolygonRenderer.Proofs.Decimal.Neighbours
import PolygonRenderer.Proofs.Decimal.Shortest

/-!
# Shortest decimals are read back

A decimal is rounded to binary64 first and to binary32 then. The first rounding
moves it by so little that it stays in the rounding interval of its number, unless
the end of the interval is nearer than that. Then the decimal is the end itself,
which binary64 has, or the number is next to the one exception.
-/

namespace PolygonRenderer

namespace Decimal

/-- A decimal that rounding to binary64 moves to the end of an interval or beyond is
next to the exception. The end `m * 2 ^ s` is as far from the number `v` as its unit,
and the decimal is at most a unit of its last digit away from `v`. -/
theorem exception_of_moved {s : ℤ} (hlow : -150 ≤ s) (hhigh : s ≤ 103) {m : Nat}
    (hodd : m % 2 = 1) (hm : m < 0x2000000) {d : Decimal} {v y : ℚ}
    (hv : (m : ℚ) * 2 ^ s = v + 2 ^ s ∨ (m : ℚ) * 2 ^ s = v - 2 ^ s)
    (hunit : |d.magnitude - v| ≤ 10 ^ d.exponent) (hy : Binary.Rounds64 d.magnitude y)
    (hmoved : y ≠ d.magnitude) (hnear : |y - d.magnitude| ≤ 2 ^ s / 0x20000000)
    (hbetween : |d.magnitude - m * 2 ^ s| ≤ |y - d.magnitude|) :
    m = 22841339 ∧ (s = -108 ∨ s = -107) := by
  have hend := hbetween.trans hnear
  have hdistance : |(m : ℚ) * 2 ^ s - v| = 2 ^ s := by
    rw [abs_eq (by positivity)]
    exact hv.imp (by intro h; linarith) (by intro h; linarith)
  have hlast : (2 : ℚ) ^ s * (1 - 1 / 0x20000000) ≤ 10 ^ d.exponent := by
    have htriangle := abs_sub_le ((m : ℚ) * 2 ^ s) d.magnitude v
    rw [abs_sub_comm _ d.magnitude] at htriangle
    linarith
  rcases mul_eq_or_exception hlow hhigh hodd hm hlast hend with hexact | hexception
  · exact absurd (hy.exact m s (by omega) (by omega) hexact) hmoved
  · exact hexception

end Decimal

namespace Binary

/-- Rounding to binary64 moves a rational by a small part of the unit of binary32. -/
theorem Rounds64.abs_sub_le {x y : ℚ} (hy : Rounds64 x y) {s : ℤ} (hs : -1022 ≤ s)
    (hlt : x < 2 ^ (s + 25)) : |y - x| ≤ 2 ^ s / 0x20000000 := by
  have hlt : x < 2 ^ (s + 24 + 1) := by rwa [add_assoc]
  calc |y - x| ≤ 2 ^ (s + 24 - 53) := hy.near _ (by omega) hlt
    _ = 2 ^ s / 0x20000000 := by
      rw [show s + 24 - 53 = s - 29 by ring, zpow_sub₀ two_ne_zero]
      norm_num

/-- The numbers on both sides of the exception. -/
def IsIrregular (b : Binary) : Prop :=
  (b.mantissa = 11420669 ∨ b.mantissa = 11420670) ∧ (b.exponent = -107 ∨ b.exponent = -106)

namespace IsNormal32

variable {b : Binary}

section Ends

variable (hb : b.IsNormal32) (hregular : ¬b.IsIrregular) {d : Decimal}
  (hd : (RoundingInterval.ofBinary b).Contains d.magnitude)
  (hunit : |d.magnitude - b.value| ≤ 10 ^ d.exponent) {y : ℚ} (hy : Rounds64 d.magnitude y)
  (hmoved : y ≠ d.magnitude)

include hb hd hy in
theorem abs_sub_le : |y - d.magnitude| ≤ 2 ^ (b.exponent - 1) / 0x20000000 := by
  have hge := hb.le_exponent
  refine hy.abs_sub_le (by omega) ?_
  rw [show b.exponent - 1 + 25 = b.exponent + 23 + 1 by ring]
  exact hb.lt_of_contains hd

include hb hd hunit hy hmoved

/-- A decimal is not moved to an end that is half of the unit away from the number. -/
theorem isIrregular_of_moved {m : Nat}
    (hm : m = 2 * b.mantissa + 1 ∨ m + 1 = 2 * b.mantissa)
    (hbetween : |d.magnitude - m * 2 ^ (b.exponent - 1)| ≤ |y - d.magnitude|) :
    b.IsIrregular := by
  have hvalue : (m : ℚ) * 2 ^ (b.exponent - 1) = b.value + 2 ^ (b.exponent - 1) ∨
      (m : ℚ) * 2 ^ (b.exponent - 1) = b.value - 2 ^ (b.exponent - 1) := by
    rw [value_eq, two_zpow_sub_one]
    refine hm.imp (fun hm => ?_) fun hm => ?_
    · rw [hm]
      push_cast
      ring
    · have hm : (m : ℚ) + 1 = 2 * b.mantissa := by exact_mod_cast hm
      linear_combination 2 * 2 ^ (b.exponent - 2) * hm
  have hlt := hb.mantissa_lt
  have hle := hb.exponent_le
  have hge := hb.le_exponent
  obtain ⟨hmantissa, hexponent⟩ := Decimal.exception_of_moved (by omega) (by omega) (by omega)
    (by omega) hvalue hunit hy hmoved (hb.abs_sub_le hd hy) hbetween
  exact ⟨by omega, by omega⟩

/-- A decimal is not moved to the end below a power of two, where the unit is half as
large, and so is the error of rounding. -/
theorem not_moved_below_power (hpower : b.mantissa = 0x800000) (hexponent : b.exponent ≠ -149)
    (hbetween : |d.magnitude - (0x1FFFFFF : ℕ) * 2 ^ (b.exponent - 2)| ≤ |y - d.magnitude|) :
    False := by
  have hquarter : (0 : ℚ) < 2 ^ (b.exponent - 2) := by positivity
  have hvalue : ((0x1FFFFFF : ℕ) : ℚ) * 2 ^ (b.exponent - 2) =
      b.value - 2 ^ (b.exponent - 2) := by
    rw [value_eq, hpower]
    push_cast
    ring
  have hbelow : d.magnitude < 2 ^ (b.exponent - 2 + 25) := by
    have hclose := (le_abs_self _).trans (hbetween.trans (hb.abs_sub_le hd hy))
    rw [two_zpow_sub_one] at hclose
    push_cast at hclose
    rw [zpow_add₀ two_ne_zero]
    norm_num
    linarith
  have hle := hb.exponent_le
  have hge := hb.le_exponent
  obtain ⟨hmantissa, -⟩ := Decimal.exception_of_moved (by omega) (by omega) (by decide)
    (by decide) (.inr hvalue) hunit hy hmoved (hy.abs_sub_le (by omega) hbelow) hbetween
  exact absurd hmantissa (by decide)

include hregular

/-- The first rounding does not move a decimal to the upper end of the interval. -/
theorem lt_high : y < (RoundingInterval.ofBinary b).high * 2 ^ (b.exponent - 2) := by
  by_contra hnot
  have hend : ((2 * b.mantissa + 1 : ℕ) : ℚ) * 2 ^ (b.exponent - 1) =
      (RoundingInterval.ofBinary b).high * 2 ^ (b.exponent - 2) := by
    rw [two_zpow_sub_one, high_ofBinary]
    push_cast
    ring
  refine hregular (hb.isIrregular_of_moved hd hunit hy hmoved (.inl rfl) ?_)
  rw [hend, abs_sub_comm, abs_of_nonneg (sub_nonneg.2 (bounds_ofBinary hd).2)]
  exact (sub_le_sub_right (not_lt.1 hnot) _).trans (le_abs_self _)

/-- The first rounding does not move a decimal to the lower end of the interval. -/
theorem low_lt : (RoundingInterval.ofBinary b).low * 2 ^ (b.exponent - 2) < y := by
  by_contra hnot
  have hbetween : |d.magnitude - (RoundingInterval.ofBinary b).low * 2 ^ (b.exponent - 2)| ≤
      |y - d.magnitude| := by
    rw [abs_of_nonneg (sub_nonneg.2 (bounds_ofBinary hd).1), abs_sub_comm]
    exact (sub_le_sub_left (not_lt.1 hnot) _).trans (le_abs_self _)
  rcases hb.low_ofBinary with ⟨hend, -⟩ | ⟨hend, hpower, hexponent⟩
  · have hpos := hb.mantissa_pos
    have hend : ((2 * b.mantissa - 1 : ℕ) : ℚ) * 2 ^ (b.exponent - 1) =
        (RoundingInterval.ofBinary b).low * 2 ^ (b.exponent - 2) := by
      rw [two_zpow_sub_one, hend, Nat.cast_sub (by omega)]
      push_cast
      ring
    rw [← hend] at hbetween
    exact hregular (hb.isIrregular_of_moved hd hunit hy hmoved (.inr (by omega)) hbetween)
  · have hend : ((RoundingInterval.ofBinary b).low : ℚ) = (0x1FFFFFF : ℕ) := by
      rw [hend, hpower]
      norm_num
    rw [hend] at hbetween
    exact hb.not_moved_below_power hd hunit hy hmoved hpower hexponent hbetween

omit hmoved in
/-- The first rounding leaves a decimal in the interval. -/
theorem contains_of_rounds64 : (RoundingInterval.ofBinary b).Contains y := by
  by_cases hmoved : y = d.magnitude
  · rwa [hmoved]
  · exact RoundingInterval.contains_of_lt (hb.low_lt hregular hd hunit hy hmoved)
      (hb.lt_high hregular hd hunit hy hmoved)

end Ends

theorem pos_of_contains (hb : b.IsNormal32) {x : ℚ}
    (hx : (RoundingInterval.ofBinary b).Contains x) : 0 < x := by
  have hpos : (1 : ℚ) ≤ b.mantissa := by exact_mod_cast hb.mantissa_pos
  have hlow : (0 : ℚ) < (RoundingInterval.ofBinary b).low := by
    rcases hb.low_ofBinary with ⟨hend, -⟩ | ⟨hend, -⟩ <;> linarith
  exact (mul_pos hlow (by positivity)).trans_le (bounds_ofBinary hx).1

end IsNormal32

end Binary

namespace Decimal

/-- A hit of the interval of a number is read as the number. -/
theorem toFloat32_of_hit {b : Binary} (hb : b.IsNormal32) (hregular : ¬b.IsIrregular) {d : Decimal}
    (hhit : (RoundingInterval.ofBinary b).hit d.exponent = some d.digits)
    (hhuge : d.exponent ≤ 309) (htiny : -300 ≤ d.exponent) :
    d.toFloat32 = some (b.toFloat32 d.negative) := by
  have hd : (RoundingInterval.ofBinary b).Contains d.magnitude :=
    (RoundingInterval.contains_iff _ _ _).1 (RoundingInterval.hit_cases hhit).1
  have hunit : |d.magnitude - b.value| ≤ 10 ^ d.exponent := by
    have hvalue : ((RoundingInterval.ofBinary b).value : ℚ) *
        2 ^ (RoundingInterval.ofBinary b).exponent = b.value := by
      rw [Binary.value_eq, RoundingInterval.ofBinary]
      push_cast
      rfl
    rw [← hvalue]
    exact RoundingInterval.abs_sub_le_of_hit hhit
  have hpos := hb.pos_of_contains hd
  have hlt : d.magnitude < 2 ^ (200 : ℤ) :=
    (hb.lt_of_contains hd).trans (zpow_lt_zpow_right₀ (by norm_num) (by linarith [hb.exponent_le]))
  have hdigits : d.digits ≠ 0 := by
    intro hzero
    rw [magnitude, hzero, Nat.cast_zero, zero_mul] at hpos
    exact lt_irrefl 0 hpos
  have hnum : 0 < d.ratio.1 := Nat.mul_pos (Nat.pos_of_ne_zero hdigits) (tenPow_pos _)
  rw [← ratio_div] at hlt
  obtain ⟨c, hc, hrounds⟩ := Binary.exists_rounds64 hnum d.ratio_den_pos hlt
  rw [ratio_div] at hrounds
  have hcontains := hb.contains_of_rounds64 hregular hd hunit hrounds
  have hcnum : 0 < c.ratio.1 := by
    have hcpos := hb.pos_of_contains hcontains
    rw [← c.ratio_div, div_pos_iff_of_pos_right (by exact_mod_cast c.ratio_den_pos)] at hcpos
    exact_mod_cast hcpos
  rw [← c.ratio_div] at hcontains
  rw [toFloat32, toBinary64_of_exponent_le hdigits hhuge htiny, hc, Option.map_some, nearest32,
    hb.round_eq hcnum c.ratio_den_pos hcontains]

theorem toFloat32_zero (negative : Bool) :
    toFloat32 ⟨negative, 0, 0⟩ = some (Binary.toFloat32 negative ⟨0, -149⟩) :=
  rfl

/-- Zeros are read back. -/
theorem toFloat32_shortest_of_zero {x : Float32} (hzero : (Binary.ofFloat32 x).mantissa = 0) :
    (shortest x).toFloat32 = some x := by
  have hx : Binary.ofFloat32 x = ⟨0, -149⟩ := by
    rcases Binary.ofFloat32_cases x with ⟨-, hx⟩ | ⟨-, hx⟩
    · rw [hx] at hzero ⊢
      exact congrArg (Binary.mk · _) hzero
    · rw [hx] at hzero
      dsimp only at hzero
      omega
  rw [shortest, if_pos hzero, toFloat32_zero, ← hx, Binary.toFloat32_ofFloat32]

/-- Next to the exception every number but one is read back. -/
theorem toFloat32_shortest_of_isIrregular {x : Float32}
    (hirregular : (Binary.ofFloat32 x).IsIrregular) (hpos : x.toBits ≠ 0x15AE43FD)
    (hneg : x.toBits ≠ 0x95AE43FD) : (shortest x).toFloat32 = some x := by
  obtain ⟨negative, b, hb, rfl⟩ :
      ∃ negative b, Binary.IsIrregular b ∧ Binary.toFloat32 negative b = x :=
    ⟨_, _, hirregular, Binary.toFloat32_ofFloat32 x⟩
  obtain ⟨m, e⟩ := b
  obtain ⟨rfl | rfl, rfl | rfl⟩ := hb <;> cases negative
  · exact absurd (by decide +kernel) hpos
  · exact absurd (by decide +kernel) hneg
  all_goals decide +kernel

/-- The shortest decimal of a finite number is read as the number, except for that of
`7.038531e-26` and its negative. -/
theorem toFloat32_shortest {x : Float32} (hnan : x.isNaN = false) (hinf : x.isInf = false)
    (hpos : x.toBits ≠ 0x15AE43FD) (hneg : x.toBits ≠ 0x95AE43FD) :
    (shortest x).toFloat32 = some x := by
  by_cases hzero : (Binary.ofFloat32 x).mantissa = 0
  · exact toFloat32_shortest_of_zero hzero
  by_cases hregular : (Binary.ofFloat32 x).IsIrregular
  · exact toFloat32_shortest_of_isIrregular hregular hpos hneg
  · obtain ⟨hnegative, hle, hge, hhit⟩ := hit_shortest hzero
    rw [toFloat32_of_hit (Binary.isNormal32_ofFloat32 hnan hinf hzero) hregular hhit (by omega)
      (by omega), hnegative, Binary.toFloat32_ofFloat32]

/-- The exception is read as the next number. -/
example : (shortest (.ofBits 0x15AE43FD)).toFloat32 = some (.ofBits 0x15AE43FE) := by
  decide +kernel

end Decimal

end PolygonRenderer
