import Mathlib.Algebra.Order.Field.Power
import Mathlib.Algebra.Order.Field.Rat
import Mathlib.Tactic.FieldSimp
import Mathlib.Tactic.Linarith
import Mathlib.Tactic.Positivity
import PolygonRenderer.Decimal.Shortest

/-!
# Rounding as nearest numbers

The quotients that rounding works on stand for rationals. `roundDiv` is the only
integer nearest to its quotient, with ties to the even one, and `log2Ratio` is
the exponent of the power of two below it, so both depend on the rational alone,
and `Binary.round` with them.
-/

namespace PolygonRenderer

theorem cast_twoPow (n : Nat) : (twoPow n : ℚ) = 2 ^ n :=
  Nat.cast_pow 2 n

theorem cast_tenPow (n : Nat) : (tenPow n : ℚ) = 10 ^ n :=
  Nat.cast_pow 10 n

theorem zpow_eq_div_toNat (b : ℚ) (k : ℤ) :
    b ^ k = b ^ k.toNat / b ^ (-k).toNat := by
  rcases le_total 0 k with hk | hk
  · obtain ⟨n, rfl⟩ := Int.eq_ofNat_of_zero_le hk
    simp
  · obtain ⟨n, hn⟩ := Int.eq_ofNat_of_zero_le (neg_nonneg.2 hk)
    obtain rfl : k = -n := by omega
    simp

theorem twoPow_toNat_div (k : ℤ) :
    (twoPow k.toNat : ℚ) / twoPow (-k).toNat = 2 ^ k := by
  rw [cast_twoPow, cast_twoPow, zpow_eq_div_toNat]

theorem tenPow_toNat_div (k : ℤ) :
    (tenPow k.toNat : ℚ) / tenPow (-k).toNat = 10 ^ k := by
  rw [cast_tenPow, cast_tenPow, zpow_eq_div_toNat]

/-! ### Quotients of integers -/

section RoundDiv

variable {num den : Nat}

theorem abs_roundDiv_sub_le (hden : 0 < den) : |(roundDiv num den : ℚ) - num / den| ≤ 1 / 2 := by
  obtain ⟨hbelow, habove⟩ := roundDiv_near num den hden
  have hden : (0 : ℚ) < den := by exact_mod_cast hden
  have hbelow : 2 * (den * roundDiv num den : ℚ) ≤ 2 * num + den := by exact_mod_cast hbelow
  have habove : 2 * (num : ℚ) ≤ 2 * (den * roundDiv num den) + den := by exact_mod_cast habove
  have hnum : (num : ℚ) = num / den * den := by field_simp
  rw [abs_le]
  constructor <;> nlinarith

/-- An integer in the middle is not rounded to unless it is even. -/
theorem even_roundDiv (hden : 0 < den) (htie : |(roundDiv num den : ℚ) - num / den| = 1 / 2) :
    roundDiv num den % 2 = 0 := by
  have hden' : (0 : ℚ) < den := by exact_mod_cast hden
  have htie : 2 * (den * roundDiv num den) = 2 * num + den ∨
      2 * num = 2 * (den * roundDiv num den) + den := by
    rcases (abs_eq (by norm_num)).1 htie with h | h
    · left
      have : (2 * (den * roundDiv num den) : ℚ) = 2 * num + den := by
        field_simp at h
        linarith
      exact_mod_cast this
    · right
      have : (2 * num : ℚ) = 2 * (den * roundDiv num den) + den := by
        field_simp at h
        linarith
      exact_mod_cast this
  have hdiv := Nat.div_add_mod num den
  have hmod := Nat.mod_lt num hden
  revert htie
  unfold roundDiv
  dsimp only
  generalize num / den = floor at *
  split
  · rename_i hc
    simp only [Bool.or_eq_true, decide_eq_true_eq, Bool.and_eq_true, beq_iff_eq] at hc
    omega
  · rename_i hc
    simp only [Bool.or_eq_true, decide_eq_true_eq, Bool.and_eq_true, beq_iff_eq] at hc
    rw [Nat.mul_add, Nat.mul_one]
    omega

/-- Only neighbours are both nearest, and only to the middle between them. -/
theorem tie_of_lt {a b : Nat} {x : ℚ} (hlt : a < b) (ha : |(a : ℚ) - x| ≤ 1 / 2)
    (hb : |(b : ℚ) - x| ≤ 1 / 2) :
    b = a + 1 ∧ |(a : ℚ) - x| = 1 / 2 ∧ |(b : ℚ) - x| = 1 / 2 := by
  have hstep : (a : ℚ) + 1 ≤ b := by exact_mod_cast hlt
  have hbelow := abs_le.1 ha
  have habove := abs_le.1 hb
  have hle : (b : ℚ) ≤ (a + 1 : ℕ) := by
    push_cast
    linarith
  refine ⟨le_antisymm (by exact_mod_cast hle) hlt, ?_, ?_⟩
  · rw [abs_of_nonpos] <;> linarith
  · rw [abs_of_nonneg] <;> linarith

/-- The nearest integer is unique, with ties to the even one. -/
theorem roundDiv_eq (hden : 0 < den) {n : Nat} (hnear : |(n : ℚ) - num / den| ≤ 1 / 2)
    (heven : |(n : ℚ) - num / den| = 1 / 2 → n % 2 = 0) : roundDiv num den = n := by
  have hround : |(roundDiv num den : ℚ) - num / den| ≤ 1 / 2 := abs_roundDiv_sub_le hden
  have hroundEven : |(roundDiv num den : ℚ) - num / den| = 1 / 2 → roundDiv num den % 2 = 0 :=
    even_roundDiv hden
  by_contra hne
  rcases Nat.lt_or_gt_of_ne hne with hlt | hlt
  · obtain ⟨hnext, hroundTie, htie⟩ := tie_of_lt hlt hround hnear
    have heven := heven htie
    have hroundEven := hroundEven hroundTie
    omega
  · obtain ⟨hnext, htie, hroundTie⟩ := tie_of_lt hlt hnear hround
    have heven := heven htie
    have hroundEven := hroundEven hroundTie
    omega

/-- Rounding depends on the quotient alone. -/
theorem roundDiv_congr {num' den' : Nat} (hden : 0 < den) (hden' : 0 < den')
    (h : (num : ℚ) / den = num' / den') : roundDiv num den = roundDiv num' den' :=
  roundDiv_eq hden (h ▸ abs_roundDiv_sub_le hden') fun htie =>
    even_roundDiv hden' (h ▸ htie)

end RoundDiv

/-! ### Binary logarithms -/

namespace Binary

section Log2Ratio

variable {num den : Nat}

theorem two_pow_log2_le {n : Nat} (hn : 0 < n) : (2 : ℚ) ^ (n.log2 : ℤ) ≤ n := by
  rw [zpow_natCast]
  exact_mod_cast Nat.log2_self_le hn.ne'

theorem lt_two_pow_log2 (n : Nat) : (n : ℚ) < 2 ^ (n.log2 + 1 : ℤ) := by
  have h : (n : ℚ) < 2 ^ (n.log2 + 1) := by exact_mod_cast Nat.lt_log2_self
  exact_mod_cast h

/-- A quotient and a power of two are compared without division. -/
theorem div_lt_two_zpow_iff (hden : 0 < den) (k : ℤ) :
    (num : ℚ) / den < 2 ^ k ↔ num * twoPow (-k).toNat < den * twoPow k.toNat := by
  have hden' : (0 : ℚ) < den := by exact_mod_cast hden
  have hpos : (0 : ℚ) < twoPow (-k).toNat := by exact_mod_cast twoPow_pos _
  rw [← twoPow_toNat_div, div_lt_div_iff₀ hden' hpos, mul_comm (twoPow k.toNat : ℚ)]
  exact_mod_cast Iff.rfl

/-- The power of two at or below a quotient. -/
theorem log2Ratio_spec (hnum : 0 < num) (hden : 0 < den) :
    (2 : ℚ) ^ log2Ratio num den ≤ num / den ∧ (num : ℚ) / den < 2 ^ (log2Ratio num den + 1) := by
  have hden' : (0 : ℚ) < den := by exact_mod_cast hden
  have hnum' : (0 : ℚ) < num := by exact_mod_cast hnum
  have habove : (num : ℚ) / den < 2 ^ ((num.log2 - den.log2 : ℤ) + 1) := by
    rw [show (num.log2 - den.log2 : ℤ) + 1 = (num.log2 + 1) - den.log2 by omega,
      zpow_sub₀ two_ne_zero]
    exact div_lt_div₀ (lt_two_pow_log2 num) (two_pow_log2_le hden) (by positivity) (by positivity)
  have hbelow : (2 : ℚ) ^ ((num.log2 - den.log2 : ℤ) - 1) ≤ num / den := by
    rw [show (num.log2 - den.log2 : ℤ) - 1 = num.log2 - (den.log2 + 1) by omega,
      zpow_sub₀ two_ne_zero]
    exact div_le_div₀ hnum'.le (two_pow_log2_le hnum) hden' (lt_two_pow_log2 den).le
  unfold log2Ratio
  dsimp only
  split
  · rename_i hlt
    exact ⟨hbelow, by simpa using (div_lt_two_zpow_iff hden _).2 hlt⟩
  · rename_i hnot
    exact ⟨not_lt.1 fun hlt => hnot ((div_lt_two_zpow_iff hden _).1 hlt), habove⟩

theorem log2Ratio_eq (hnum : 0 < num) (hden : 0 < den) {k : ℤ} (hbelow : (2 : ℚ) ^ k ≤ num / den)
    (habove : (num : ℚ) / den < 2 ^ (k + 1)) : log2Ratio num den = k := by
  obtain ⟨hlow, hhigh⟩ := log2Ratio_spec hnum hden
  have hlt := (zpow_lt_zpow_iff_right₀ (one_lt_two (α := ℚ))).1 (hlow.trans_lt habove)
  have hgt := (zpow_lt_zpow_iff_right₀ (one_lt_two (α := ℚ))).1 (hbelow.trans_lt hhigh)
  omega

end Log2Ratio

/-! ### Rounding to a format -/

/-- A quotient in units of a power of two. -/
theorem scaled_div (num den : Nat) (e : ℤ) :
    ((num * twoPow (-e).toNat : ℕ) : ℚ) / (den * twoPow e.toNat : ℕ) = num / den / 2 ^ e := by
  rw [← twoPow_toNat_div, Nat.cast_mul, Nat.cast_mul, div_div_eq_mul_div, div_mul_eq_mul_div,
    div_div]

/-- Rounding depends on the quotient alone. -/
theorem round_congr (f : BinaryFormat) {num den num' den' : Nat} (hden : 0 < den)
    (hden' : 0 < den') (h : (num : ℚ) / den = num' / den') :
    round f num den = round f num' den' := by
  have hden₀ : (den : ℚ) ≠ 0 := by exact_mod_cast hden.ne'
  have hden₀' : (den' : ℚ) ≠ 0 := by exact_mod_cast hden'.ne'
  have hzero : num = 0 ↔ num' = 0 := by
    have hiff : (num : ℚ) / den = 0 ↔ (num' : ℚ) / den' = 0 := by rw [h]
    simpa [hden₀, hden₀', hden.ne', hden'.ne'] using hiff
  unfold round
  by_cases hnum : num = 0
  · rw [if_pos hnum, if_pos (hzero.1 hnum)]
  · have hpos : 0 < num' := Nat.pos_of_ne_zero fun h => hnum (hzero.2 h)
    obtain ⟨hbelow, habove⟩ := log2Ratio_spec hpos hden'
    have hlog : log2Ratio num den = log2Ratio num' den' :=
      log2Ratio_eq (Nat.pos_of_ne_zero hnum) hden (h ▸ hbelow) (h ▸ habove)
    rw [if_neg hnum, if_neg hpos.ne', hlog]
    dsimp only
    rw [roundDiv_congr (Nat.mul_pos hden (twoPow_pos _)) (Nat.mul_pos hden' (twoPow_pos _))
      (by rw [scaled_div, scaled_div, h])]

end Binary

/-! ### Decimals as they are written -/

namespace Decimal

theorem ratio_den_pos (d : Decimal) : 0 < d.ratio.2 :=
  tenPow_pos _

/-- The magnitude of a decimal. -/
def magnitude (d : Decimal) : ℚ :=
  d.digits * 10 ^ d.exponent

theorem ratio_div (d : Decimal) : (d.ratio.1 : ℚ) / d.ratio.2 = d.magnitude := by
  rw [ratio, magnitude, Nat.cast_mul, mul_div_assoc, tenPow_toNat_div]

/-- A decimal of moderate size is read as the nearest number to its magnitude. -/
theorem toBinary64_of_exponent_le {d : Decimal} (hdigits : d.digits ≠ 0)
    (hhuge : d.exponent ≤ 309) (htiny : -300 ≤ d.exponent) :
    d.toBinary64 = Binary.round .binary64 d.ratio.1 d.ratio.2 := by
  have hnotHuge : d.isHuge = false := by simp [isHuge, hhuge]
  have hnotTiny : d.isTiny = false := by
    simp [isTiny, hdigits]
    omega
  rw [toBinary64, hnotHuge, hnotTiny]
  rfl

end Decimal

end PolygonRenderer
