import Mathlib.Tactic.GCongr
import Mathlib.Tactic.Ring
import PolygonRenderer.Proofs.Decimal.Nearest

/-!
# Rounding to binary formats

A rounded number is a multiple of a unit that depends on the size of the quotient,
at most half of the unit away from it. A quotient in the rounding interval of a
binary32 number is rounded to that number.
-/

namespace PolygonRenderer

namespace Binary

/-- The number as a rational. -/
def value (b : Binary) : ℚ :=
  b.mantissa * 2 ^ b.exponent

/-- Powers of two in quarters of the unit. -/
theorem two_zpow_add (b : Binary) (j : ℤ) :
    (2 : ℚ) ^ (b.exponent + j) = 2 ^ (j + 2) * 2 ^ (b.exponent - 2) := by
  rw [← zpow_add₀ two_ne_zero]
  congr 1
  omega

theorem two_zpow_exponent (b : Binary) : (2 : ℚ) ^ b.exponent = 4 * 2 ^ (b.exponent - 2) := by
  rw [← add_zero b.exponent, two_zpow_add]
  norm_num

theorem two_zpow_sub_one (b : Binary) :
    (2 : ℚ) ^ (b.exponent - 1) = 2 * 2 ^ (b.exponent - 2) := by
  rw [sub_eq_add_neg, two_zpow_add]
  norm_num

theorem value_eq (b : Binary) : b.value = 4 * b.mantissa * 2 ^ (b.exponent - 2) := by
  rw [value, two_zpow_exponent]
  ring

theorem ratio_den_pos (b : Binary) : 0 < b.ratio.2 :=
  twoPow_pos _

theorem ratio_div (b : Binary) : (b.ratio.1 : ℚ) / b.ratio.2 = b.value := by
  rw [ratio, value, Nat.cast_mul, mul_div_assoc, twoPow_toNat_div]

/-- The exponent of the unit in which a quotient is rounded. -/
def unitExponent (f : BinaryFormat) (num den : Nat) : ℤ :=
  max f.minExponent (log2Ratio num den - (f.precision - 1))

/-- The quotient in its unit, rounded. -/
def unitCount (f : BinaryFormat) (num den : Nat) : Nat :=
  roundDiv (num * twoPow (-unitExponent f num den).toNat)
    (den * twoPow (unitExponent f num den).toNat)

variable {f : BinaryFormat} {num den : Nat}

theorem round_eq (hnum : 0 < num) :
    round f num den =
      let b : Binary :=
        if unitCount f num den = twoPow f.precision then
          ⟨twoPow (f.precision - 1), unitExponent f num den + 1⟩
        else ⟨unitCount f num den, unitExponent f num den⟩
      if b.exponent ≤ f.maxExponent then some b else none :=
  if_neg hnum.ne'

/-- A quotient of moderate size is rounded to a multiple of its unit. -/
theorem exists_round_eq (hnum : 0 < num) (hprecision : 0 < f.precision)
    (hmax : unitExponent f num den < f.maxExponent) :
    ∃ b, round f num den = some b ∧
      b.value = unitCount f num den * 2 ^ unitExponent f num den := by
  rw [round_eq hnum]
  dsimp only
  split_ifs with hfull hfits hfits
  · refine ⟨_, rfl, ?_⟩
    rw [hfull, value, zpow_add_one₀ two_ne_zero, cast_twoPow, cast_twoPow]
    obtain ⟨p, hp⟩ := Nat.exists_eq_add_one_of_ne_zero hprecision.ne'
    rw [hp, Nat.add_sub_cancel, pow_succ]
    ring
  · dsimp only at hfits
    omega
  · exact ⟨_, rfl, rfl⟩
  · dsimp only at hfits
    omega

/-- A rounded quotient is at most half of its unit away. -/
theorem abs_unitCount_sub_le (hden : 0 < den) :
    |(unitCount f num den : ℚ) * 2 ^ unitExponent f num den - num / den| ≤
      2 ^ unitExponent f num den / 2 := by
  have hunit : (0 : ℚ) < 2 ^ unitExponent f num den := by positivity
  have hround : |(unitCount f num den : ℚ) - num / den / 2 ^ unitExponent f num den| ≤ 1 / 2 := by
    rw [← scaled_div]
    exact abs_roundDiv_sub_le (Nat.mul_pos hden (twoPow_pos _))
  have heq : (unitCount f num den : ℚ) * 2 ^ unitExponent f num den - num / den =
      (unitCount f num den - num / den / 2 ^ unitExponent f num den) *
        2 ^ unitExponent f num den := by
    field_simp
  rw [heq, abs_mul, abs_of_pos hunit]
  linarith [mul_le_mul_of_nonneg_right hround hunit.le]

/-- The multiple of the unit that is nearest, with ties to the even one. -/
theorem unitCount_eq (hden : 0 < den) {n : Nat} {e : ℤ} (hunit : unitExponent f num den = e)
    (hnear : |(n : ℚ) - num / den / 2 ^ e| ≤ 1 / 2)
    (heven : |(n : ℚ) - num / den / 2 ^ e| = 1 / 2 → n % 2 = 0) : unitCount f num den = n := by
  rw [← hunit, ← scaled_div] at hnear heven
  exact roundDiv_eq (Nat.mul_pos hden (twoPow_pos _)) hnear heven

/-- A multiple of the unit is not rounded. -/
theorem unitCount_of_eq_mul (hden : 0 < den) {n : Nat}
    (h : (num : ℚ) / den = n * 2 ^ unitExponent f num den) : unitCount f num den = n := by
  have hexact : (n : ℚ) - num / den / 2 ^ unitExponent f num den = 0 := by
    rw [h, mul_div_assoc, div_self (by positivity), mul_one, sub_self]
  refine unitCount_eq hden rfl (by rw [hexact]; norm_num) fun htie => ?_
  rw [hexact] at htie
  norm_num at htie

/-- Below `2 ^ (k + 1)` the unit is no larger than the precision allows. -/
theorem unitExponent_le (hnum : 0 < num) (hden : 0 < den) {k : ℤ}
    (hlt : (num : ℚ) / den < 2 ^ (k + 1)) :
    unitExponent f num den ≤ max f.minExponent (k - (f.precision - 1)) := by
  have hlog := (zpow_lt_zpow_iff_right₀ (one_lt_two (α := ℚ))).1
    ((log2Ratio_spec hnum hden).1.trans_lt hlt)
  unfold unitExponent
  omega

/-- Between `2 ^ k` and `2 ^ (k + 1)` the unit is the one of the exponent. -/
theorem unitExponent_eq (hnum : 0 < num) (hden : 0 < den) {k : ℤ}
    (hge : (2 : ℚ) ^ k ≤ num / den) (hlt : (num : ℚ) / den < 2 ^ (k + 1)) :
    unitExponent f num den = max f.minExponent (k - (f.precision - 1)) := by
  rw [unitExponent, log2Ratio_eq hnum hden hge hlt]

/-- What rounding to binary64 makes of a positive rational: a number within half of
the last place, and the rational itself if it is a number of the format. -/
structure Rounds64 (x y : ℚ) : Prop where
  near : ∀ k : ℤ, -1022 ≤ k → x < 2 ^ (k + 1) → |y - x| ≤ 2 ^ (k - 53)
  exact : ∀ (m : Nat) (s : ℤ), m < 0x20000000000000 → -1074 ≤ s → x = m * 2 ^ s → y = x

theorem unitExponent_binary64_le (hnum : 0 < num) (hden : 0 < den) {k : ℤ} (hk : -1022 ≤ k)
    (hlt : (num : ℚ) / den < 2 ^ (k + 1)) : unitExponent .binary64 num den ≤ k - 52 := by
  have hle : unitExponent .binary64 num den ≤ max (-1074) (k - 52) :=
    unitExponent_le hnum hden hlt
  omega

theorem abs_binary64_sub_le (hnum : 0 < num) (hden : 0 < den) {k : ℤ} (hk : -1022 ≤ k)
    (hlt : (num : ℚ) / den < 2 ^ (k + 1)) :
    |(unitCount .binary64 num den : ℚ) * 2 ^ unitExponent .binary64 num den - num / den| ≤
      2 ^ (k - 53) := by
  have hle := unitExponent_binary64_le hnum hden hk hlt
  calc |(unitCount .binary64 num den : ℚ) * 2 ^ unitExponent .binary64 num den - num / den|
      ≤ 2 ^ unitExponent .binary64 num den / 2 := abs_unitCount_sub_le hden
    _ ≤ 2 ^ (k - 52) / 2 := by
      gcongr
      norm_num
    _ = 2 ^ (k - 53) := by
      rw [show k - 52 = k - 53 + 1 by ring, zpow_add_one₀ two_ne_zero]
      ring

theorem binary64_eq_of_eq_mul (hnum : 0 < num) (hden : 0 < den) {m : Nat} {s : ℤ}
    (hm : m < 0x20000000000000) (hs : -1074 ≤ s) (hx : (num : ℚ) / den = m * 2 ^ s) :
    (unitCount .binary64 num den : ℚ) * 2 ^ unitExponent .binary64 num den = num / den := by
  have hm : (m : ℚ) < 2 ^ (53 : ℤ) := by
    norm_num
    exact_mod_cast hm
  have hle := unitExponent_binary64_le hnum hden (k := s + 52) (by omega) (by
    rw [hx, show s + 52 + 1 = 53 + s by ring, zpow_add₀ two_ne_zero]
    exact mul_lt_mul_of_pos_right hm (by positivity))
  obtain ⟨j, hj⟩ := Int.le.dest (show unitExponent .binary64 num den ≤ s by omega)
  have hx : (num : ℚ) / den = (m * 2 ^ j : ℕ) * 2 ^ unitExponent .binary64 num den := by
    rw [hx, ← hj, zpow_add₀ two_ne_zero, zpow_natCast]
    push_cast
    ring
  rw [unitCount_of_eq_mul hden hx, hx]

theorem exists_rounds64 (hnum : 0 < num) (hden : 0 < den)
    (hlt : (num : ℚ) / den < 2 ^ (200 : ℤ)) :
    ∃ b, round .binary64 num den = some b ∧ Rounds64 (num / den) b.value := by
  have hmax : unitExponent .binary64 num den < 971 :=
    (unitExponent_binary64_le (k := 199) hnum hden (by decide) hlt).trans_lt (by decide)
  obtain ⟨b, hb, hvalue⟩ := exists_round_eq hnum (by decide) hmax
  refine ⟨b, hb, fun k hk hlt => ?_, fun m s hm hs hx => ?_⟩
  · rw [hvalue]
    exact abs_binary64_sub_le hnum hden hk hlt
  · rw [hvalue]
    exact binary64_eq_of_eq_mul hnum hden hm hs hx

end Binary

/-! ### Rounding intervals -/

namespace RoundingInterval

/-- Whether a rational belongs to the interval. -/
def Contains (r : RoundingInterval) (x : ℚ) : Prop :=
  if r.closed then r.low * 2 ^ r.exponent ≤ x ∧ x ≤ r.high * 2 ^ r.exponent
  else r.low * 2 ^ r.exponent < x ∧ x < r.high * 2 ^ r.exponent

theorem Contains.bounds {r : RoundingInterval} {x : ℚ} (h : r.Contains x) :
    r.low * 2 ^ r.exponent ≤ x ∧ x ≤ r.high * 2 ^ r.exponent := by
  unfold Contains at h
  split at h
  · exact h
  · exact ⟨h.1.le, h.2.le⟩

theorem contains_of_lt {r : RoundingInterval} {x : ℚ} (hlow : r.low * 2 ^ r.exponent < x)
    (hhigh : x < r.high * 2 ^ r.exponent) : r.Contains x := by
  unfold Contains
  split
  · exact ⟨hlow.le, hhigh.le⟩
  · exact ⟨hlow, hhigh⟩

/-- A quarter and a power of ten in a common unit. -/
theorem exists_quarter_eq (r : RoundingInterval) (k : ℤ) :
    ∃ c : ℚ, 0 < c ∧ ((r.quarter k).1 : ℚ) = 2 ^ r.exponent * c ∧
      ((r.quarter k).2 : ℚ) = 10 ^ k * c := by
  have htwo : (0 : ℚ) < twoPow (-r.exponent).toNat := by exact_mod_cast twoPow_pos _
  have hten : (0 : ℚ) < tenPow (-k).toNat := by exact_mod_cast tenPow_pos _
  refine ⟨twoPow (-r.exponent).toNat * tenPow (-k).toNat, mul_pos htwo hten, ?_, ?_⟩
  · rw [← twoPow_toNat_div, quarter, Nat.cast_mul]
    field_simp
  · rw [← tenPow_toNat_div, quarter, Nat.cast_mul]
    field_simp

/-- The check of an interval compares rationals. -/
theorem contains_iff (r : RoundingInterval) (k : ℤ) (n : Nat) :
    r.contains k n ↔ r.Contains (n * 10 ^ k) := by
  obtain ⟨c, hc, hnum, hden⟩ := r.exists_quarter_eq k
  have hle (a b : Nat) (x y : ℚ) (ha : (a : ℚ) = x * c) (hb : (b : ℚ) = y * c) :
      a ≤ b ↔ x ≤ y := by
    rw [← Nat.cast_le (α := ℚ), ha, hb, mul_le_mul_iff_of_pos_right hc]
  have hquarter (a : Nat) : ((a * (r.quarter k).1 : ℕ) : ℚ) = a * 2 ^ r.exponent * c := by
    rw [Nat.cast_mul, hnum, mul_assoc]
  have hten (a : Nat) : ((a * (r.quarter k).2 : ℕ) : ℚ) = a * 10 ^ k * c := by
    rw [Nat.cast_mul, hden, mul_assoc]
  have hlow := hle _ _ _ _ (hquarter r.low) (hten n)
  have hhigh := hle _ _ _ _ (hten n) (hquarter r.high)
  have hlow' := hle _ _ _ _ (hten n) (hquarter r.low)
  have hhigh' := hle _ _ _ _ (hquarter r.high) (hten n)
  unfold contains Contains
  dsimp only
  split <;> simp only [Bool.and_eq_true, decide_eq_true_eq, ← not_le, hlow, hhigh, hlow', hhigh']

end RoundingInterval

/-! ### The numbers of binary32 -/

namespace Binary

/-- The form of a positive finite binary32 number. -/
structure IsNormal32 (b : Binary) : Prop where
  mantissa_pos : 0 < b.mantissa
  mantissa_lt : b.mantissa < 0x1000000
  le_exponent : -149 ≤ b.exponent
  exponent_le : b.exponent ≤ 104
  full : b.exponent = -149 ∨ 0x800000 ≤ b.mantissa

/-- Zeros and subnormal numbers have an exponent field of zero, and the others one
more bit than their fraction. -/
theorem ofFloat32_cases (x : Float32) :
    x.toBits.toNat / 0x800000 % 0x100 = 0 ∧
        ofFloat32 x = ⟨x.toBits.toNat % 0x800000, -149⟩ ∨
      x.toBits.toNat / 0x800000 % 0x100 ≠ 0 ∧
        ofFloat32 x = ⟨0x800000 + x.toBits.toNat % 0x800000,
          ((x.toBits.toNat / 0x800000 % 0x100 : ℕ) : ℤ) - 150⟩ := by
  have h23 : twoPow 23 = 0x800000 := rfl
  have h8 : twoPow 8 = 0x100 := rfl
  rw [ofFloat32, h23, h8]
  split
  · exact .inl ⟨by assumption, rfl⟩
  · exact .inr ⟨by assumption, rfl⟩

theorem exponent_ofFloat32_ge (x : Float32) : -149 ≤ (ofFloat32 x).exponent := by
  rcases ofFloat32_cases x with ⟨-, hx⟩ | ⟨hfield, hx⟩
  · rw [hx]
  · rw [hx]
    dsimp only
    omega

namespace IsNormal32

variable {b : Binary} {num den : Nat}

/-- The lower end of the interval is half of the unit below the number, or a quarter
below a power of two. -/
theorem low_ofBinary (hb : b.IsNormal32) :
    ((RoundingInterval.ofBinary b).low : ℚ) = 4 * b.mantissa - 2 ∧
        (b.mantissa ≠ 0x800000 ∨ b.exponent = -149) ∨
      ((RoundingInterval.ofBinary b).low : ℚ) = 4 * b.mantissa - 1 ∧ b.mantissa = 0x800000 ∧
        b.exponent ≠ -149 := by
  have hpos := hb.mantissa_pos
  have hexponent := hb.le_exponent
  have hpower : twoPow 23 = 0x800000 := rfl
  unfold RoundingInterval.ofBinary
  dsimp only
  rw [hpower]
  split
  · refine .inr ⟨?_, by omega, by omega⟩
    rw [Nat.cast_sub (by omega)]
    push_cast
    ring
  · refine .inl ⟨?_, by omega⟩
    rw [Nat.cast_sub (by omega)]
    push_cast
    ring

theorem high_ofBinary : ((RoundingInterval.ofBinary b).high : ℚ) = 4 * b.mantissa + 2 := by
  rw [RoundingInterval.ofBinary]
  push_cast
  ring

theorem bounds_ofBinary {x : ℚ} (hx : (RoundingInterval.ofBinary b).Contains x) :
    (RoundingInterval.ofBinary b).low * 2 ^ (b.exponent - 2) ≤ x ∧
      x ≤ (RoundingInterval.ofBinary b).high * 2 ^ (b.exponent - 2) :=
  hx.bounds

/-- An end of an interval that belongs to it is the end of that of an even number. -/
theorem even_of_contains_end {x : ℚ} (hx : (RoundingInterval.ofBinary b).Contains x)
    (hend : x = (RoundingInterval.ofBinary b).low * 2 ^ (b.exponent - 2) ∨
      x = (RoundingInterval.ofBinary b).high * 2 ^ (b.exponent - 2)) : b.mantissa % 2 = 0 := by
  unfold RoundingInterval.Contains at hx
  split at hx
  · rename_i hclosed
    simpa [RoundingInterval.ofBinary] using hclosed
  · rcases hend with hend | hend
    · exact absurd hend.symm hx.1.ne
    · exact absurd hend hx.2.ne

theorem lt_of_contains (hb : b.IsNormal32) {x : ℚ}
    (hx : (RoundingInterval.ofBinary b).Contains x) : x < 2 ^ (b.exponent + 23 + 1) := by
  have hquarter : (0 : ℚ) < 2 ^ (b.exponent - 2) := by positivity
  have hmantissa : (b.mantissa : ℚ) + 1 ≤ 0x1000000 := by exact_mod_cast hb.mantissa_lt
  refine (bounds_ofBinary hx).2.trans_lt ?_
  rw [high_ofBinary, add_assoc, two_zpow_add]
  exact mul_lt_mul_of_pos_right (by norm_num; linarith) hquarter

/-- A quotient of the interval that is not below the exponent of the number has the
unit of the number. -/
theorem unitExponent_eq_exponent (hb : b.IsNormal32) (hnum : 0 < num) (hden : 0 < den)
    (hx : (RoundingInterval.ofBinary b).Contains (num / den))
    (hge : b.exponent = -149 ∨ (2 : ℚ) ^ (b.exponent + 23) ≤ num / den) :
    unitExponent .binary32 num den = b.exponent := by
  have hmin := hb.le_exponent
  rcases hge with hleast | hge
  · have hle : unitExponent .binary32 num den ≤ max (-149) (b.exponent + 23 - 23) :=
      unitExponent_le hnum hden (hb.lt_of_contains hx)
    have hge : -149 ≤ unitExponent .binary32 num den := le_max_left _ _
    omega
  · have heq : unitExponent .binary32 num den = max (-149) (b.exponent + 23 - 23) :=
      unitExponent_eq hnum hden hge (hb.lt_of_contains hx)
    omega

/-- In the unit of the number its mantissa is nearest to every quotient of the
interval. -/
theorem unitCount_eq_mantissa (hb : b.IsNormal32) (hden : 0 < den)
    (hx : (RoundingInterval.ofBinary b).Contains (num / den))
    (hunit : unitExponent .binary32 num den = b.exponent) :
    unitCount .binary32 num den = b.mantissa := by
  have hquarter : (0 : ℚ) < 2 ^ (b.exponent - 2) := by positivity
  have hscaled : (num : ℚ) / den = 4 * (num / den / 2 ^ b.exponent) * 2 ^ (b.exponent - 2) := by
    rw [two_zpow_exponent]
    field_simp
  obtain ⟨hlow, hhigh⟩ := bounds_ofBinary hx
  have heven := even_of_contains_end hx
  rw [high_ofBinary] at hhigh heven
  rw [hscaled] at hlow hhigh heven
  have hlow := le_of_mul_le_mul_right hlow hquarter
  have hhigh := le_of_mul_le_mul_right hhigh hquarter
  have hlowEnd := hb.low_ofBinary
  have hnear : |(b.mantissa : ℚ) - num / den / 2 ^ b.exponent| ≤ 1 / 2 := by
    rw [abs_le]
    constructor <;> rcases hlowEnd with ⟨hlowEnd, -⟩ | ⟨hlowEnd, -⟩ <;> linarith
  refine unitCount_eq hden hunit hnear fun htie => heven ?_
  rcases (abs_eq (by norm_num)).1 htie with htie | htie
  · rcases hlowEnd with ⟨hlowEnd, -⟩ | ⟨hlowEnd, -⟩
    · left
      rw [hlowEnd]
      congr 1
      linarith
    · linarith
  · right
    congr 1
    linarith

theorem round_eq_of_ge (hb : b.IsNormal32) (hnum : 0 < num) (hden : 0 < den)
    (hx : (RoundingInterval.ofBinary b).Contains (num / den))
    (hge : b.exponent = -149 ∨ (2 : ℚ) ^ (b.exponent + 23) ≤ num / den) :
    Binary.round .binary32 num den = some b := by
  have hunit := hb.unitExponent_eq_exponent hnum hden hx hge
  have hne : b.mantissa ≠ twoPow BinaryFormat.binary32.precision := hb.mantissa_lt.ne
  have hfits : b.exponent ≤ BinaryFormat.binary32.maxExponent := hb.exponent_le
  rw [Binary.round_eq hnum, hb.unitCount_eq_mantissa hden hx hunit, hunit, if_neg hne]
  exact if_pos hfits

/-- Only the interval of a power of two reaches below the exponent of its number, and
there by a quarter of the unit. -/
theorem mantissa_eq_of_lt (hb : b.IsNormal32) {x : ℚ}
    (hx : (RoundingInterval.ofBinary b).Contains x) (hexponent : b.exponent ≠ -149)
    (hlt : x < 2 ^ (b.exponent + 23)) :
    b.mantissa = 0x800000 ∧ 0x1FFFFFF * 2 ^ (b.exponent - 2) ≤ x := by
  have hquarter : (0 : ℚ) < 2 ^ (b.exponent - 2) := by positivity
  have hlow := (bounds_ofBinary hx).1
  rcases hb.low_ofBinary with ⟨hend, hnot⟩ | ⟨hend, hpower, -⟩
  · have hlarge : 0x800001 ≤ b.mantissa := by
      have := hb.full
      omega
    have hlarge : (0x800001 : ℚ) ≤ b.mantissa := by exact_mod_cast hlarge
    have hfull : (2 : ℚ) ^ (b.exponent + 23) ≤
        (RoundingInterval.ofBinary b).low * 2 ^ (b.exponent - 2) := by
      rw [two_zpow_add, hend]
      exact mul_le_mul_of_nonneg_right (by norm_num; linarith) hquarter.le
    exact absurd (hlow.trans_lt hlt) hfull.not_gt
  · rw [hend, hpower] at hlow
    norm_num at hlow
    exact ⟨hpower, hlow⟩

/-- Below the exponent of the number the unit is half as large, and the quotient is
rounded up to the power of two. -/
theorem round_eq_of_lt (hb : b.IsNormal32) (hnum : 0 < num) (hden : 0 < den)
    (hx : (RoundingInterval.ofBinary b).Contains (num / den)) (hexponent : b.exponent ≠ -149)
    (hlt : (num : ℚ) / den < 2 ^ (b.exponent + 23)) :
    Binary.round .binary32 num den = some b := by
  have hquarter : (0 : ℚ) < 2 ^ (b.exponent - 2) := by positivity
  obtain ⟨hmantissa, hlow⟩ := hb.mantissa_eq_of_lt hx hexponent hlt
  have hge : (2 : ℚ) ^ (b.exponent + 22) ≤ num / den := by
    refine le_trans ?_ hlow
    rw [two_zpow_add]
    exact mul_le_mul_of_nonneg_right (by norm_num) hquarter.le
  have hunit : unitExponent .binary32 num den = b.exponent - 1 := by
    have heq : unitExponent .binary32 num den = max (-149) (b.exponent + 22 - 23) :=
      unitExponent_eq hnum hden hge (by rwa [add_assoc])
    have hmin := hb.le_exponent
    omega
  have hcount : unitCount .binary32 num den = twoPow BinaryFormat.binary32.precision := by
    have hscaled : (num : ℚ) / den =
        2 * (num / den / 2 ^ (b.exponent - 1)) * 2 ^ (b.exponent - 2) := by
      rw [two_zpow_sub_one]
      field_simp
    rw [hscaled] at hlow
    have hlow := le_of_mul_le_mul_right hlow hquarter
    rw [hscaled, two_zpow_add] at hlt
    have hhigh := lt_of_mul_lt_mul_right hlt hquarter.le
    norm_num at hhigh
    refine unitCount_eq hden hunit ?_ fun _ => rfl
    rw [show twoPow BinaryFormat.binary32.precision = 0x1000000 from rfl, abs_le]
    push_cast
    constructor <;> linarith
  have hfits : b.exponent - 1 + 1 ≤ BinaryFormat.binary32.maxExponent := by
    rw [sub_add_cancel]
    exact hb.exponent_le
  have hpower : twoPow (BinaryFormat.binary32.precision - 1) = b.mantissa := hmantissa.symm
  rw [Binary.round_eq hnum, if_pos hcount, hunit]
  dsimp only
  rw [if_pos hfits, hpower, sub_add_cancel]

/-- A quotient in the interval of a number is rounded to the number. -/
theorem round_eq (hb : b.IsNormal32) (hnum : 0 < num) (hden : 0 < den)
    (hx : (RoundingInterval.ofBinary b).Contains (num / den)) :
    Binary.round .binary32 num den = some b := by
  by_cases hge : b.exponent = -149 ∨ (2 : ℚ) ^ (b.exponent + 23) ≤ num / den
  · exact hb.round_eq_of_ge hnum hden hx hge
  · rw [not_or, not_le] at hge
    exact hb.round_eq_of_lt hnum hden hx hge.1 hge.2

end IsNormal32

end Binary

end PolygonRenderer
