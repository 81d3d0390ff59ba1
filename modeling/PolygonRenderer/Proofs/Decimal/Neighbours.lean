import Mathlib.Tactic.Linarith
import Mathlib.Tactic.LinearCombination
import Mathlib.Tactic.Positivity
import Mathlib.Tactic.Ring
import PolygonRenderer.Proofs.Decimal.Nearest

/-!
# Decimals next to the middle of two numbers

A decimal of few digits is either in the middle of two neighbouring binary32
numbers or so far away from it that rounding to binary64 does not reach it, with
a single exception. Multiples of a power of ten come close to multiples of a
power of two only as the ratio of the two powers is close to a fraction, so
fractions next to each other that enclose the ratio tell how close they come.
-/

namespace PolygonRenderer

/-- Two fractions that enclose a ratio. -/
structure Neighbours where
  lowNum : Nat
  lowDen : Nat
  highNum : Nat
  highDen : Nat
deriving DecidableEq, Repr

namespace Neighbours

/-- Close in on `num / den` until the denominators add up to the bound. Each step
moves one of the fractions by as many mediants as stay on its side. -/
def closeIn (num den bound : Nat) : Nat → Neighbours → Neighbours
  | 0, w => w
  | fuel + 1, w =>
    let below := num * w.lowDen - w.lowNum * den
    let above := w.highNum * den - num * w.highDen
    let room := bound - (w.lowDen + w.highDen)
    if room = 0 then w
    else if above ≤ below then
      let steps := min (below / above) (room / w.highDen + 1)
      closeIn num den bound fuel
        { w with
          lowNum := w.lowNum + steps * w.highNum
          lowDen := w.lowDen + steps * w.highDen }
    else
      let steps :=
        if below = 0 then room / w.lowDen + 1 else min ((above - 1) / below) (room / w.lowDen + 1)
      closeIn num den bound fuel
        { w with
          highNum := w.highNum + steps * w.lowNum
          highDen := w.highDen + steps * w.lowDen }

/-- Whether no odd multiple of a fraction is near the ratio without being it, other
than an exception. The gap is the distance of the fraction from the ratio. -/
def isApart (den exception num gap : Nat) : Bool :=
  num % 2 == 0 || decide (0x2000000 ≤ num) || gap == 0 || decide (den < 0x20000000 * gap) ||
    (num == exception && decide (0x1000000 ≤ num))

/-- Whether the fractions are next to each other, enclose `num / den` and show that
no fraction of an odd number below `2 ^ 25` is near it. -/
def separate (num den exception : Nat) (w : Neighbours) : Bool :=
  w.highNum * w.lowDen == w.lowNum * w.highDen + 1 &&
    decide (w.lowNum * den ≤ num * w.lowDen) && decide (num * w.highDen ≤ w.highNum * den) &&
    decide (0x2000000 ≤ w.lowDen + w.highDen) &&
    decide (w.lowDen < 0x20000000) && decide (w.highDen < 0x20000000) &&
    isApart den exception w.lowNum (num * w.lowDen - w.lowNum * den) &&
    isApart den exception w.highNum (w.highNum * den - num * w.highDen)

/-- What a fraction on one side of the ratio leaves for `m / n`. The distance of
`n` times the ratio from `m` is `δ`, that of the fraction is `gap`, and `t` says
how far `m / n` lies beyond the fraction. -/
theorem eq_zero_or_eq_of_side {den exception p q gap m n : Nat} {δ t : ℤ}
    (hapart : isApart den exception p gap) (hden : 0 < den) (hq : q < 0x20000000) (hn : 0 < n)
    (hodd : m % 2 = 1) (hm : m < 0x2000000) (ht : 0 ≤ t) (hδ : q * δ = den * t + n * gap)
    (hmultiple : t = 0 → ∃ c : ℤ, (n : ℤ) = c * q ∧ (m : ℤ) = c * p)
    (hnear : 0x20000000 * δ ≤ den) : δ = 0 ∨ m = exception := by
  have hden : (0 : ℤ) < den := by exact_mod_cast hden
  rcases ht.eq_or_lt with ht | ht
  · obtain ⟨c, hnc, hmc⟩ := hmultiple ht.symm
    have hq : (0 : ℤ) < q := by
      refine lt_of_le_of_ne (by positivity) fun hzero => hn.ne' ?_
      rw [← hzero, mul_zero] at hnc
      exact_mod_cast hnc
    have hc : 0 < c := (mul_pos_iff_of_pos_right hq).1 (by rw [← hnc]; exact_mod_cast hn)
    have hgap : δ = c * gap := by
      refine mul_left_cancel₀ hq.ne' ?_
      rw [hδ, ← ht, hnc]
      ring
    simp only [isApart, Bool.or_eq_true, Bool.and_eq_true, beq_iff_eq, decide_eq_true_eq] at hapart
    rcases hapart with (((heven | hlarge) | hzero) | hfar) | ⟨rfl, hlarge⟩
    · have hdvd : (2 : ℤ) ∣ m := hmc ▸ Dvd.dvd.mul_left (by omega) c
      omega
    · have hle : (p : ℤ) ≤ c * p := le_mul_of_one_le_left (by positivity) hc
      omega
    · exact .inl (by rw [hgap, hzero, Nat.cast_zero, mul_zero])
    · have hle : (gap : ℤ) ≤ c * gap := le_mul_of_one_le_left (by positivity) hc
      omega
    · have hone : c = 1 := by
        by_contra hne
        have hle : 2 * (p : ℤ) ≤ c * p := mul_le_mul_of_nonneg_right (by omega) (by positivity)
        omega
      rw [hone, one_mul] at hmc
      exact .inr (by exact_mod_cast hmc)
  · have hbeyond : (den : ℤ) ≤ q * δ := by
      rw [hδ]
      nlinarith [mul_nonneg (Nat.cast_nonneg (α := ℤ) n) (Nat.cast_nonneg (α := ℤ) gap)]
    have hscaled : q * (0x20000000 * δ) ≤ q * den :=
      mul_le_mul_of_nonneg_left hnear (by positivity)
    have hless : (q : ℤ) * den < 0x20000000 * den :=
      mul_lt_mul_of_pos_right (by exact_mod_cast hq) hden
    linarith

/-- Between fractions next to each other there is none with a smaller denominator
than both together. -/
theorem le_or_le_of_lt_add {w : Neighbours} (hdet : w.highNum * w.lowDen = w.lowNum * w.highDen + 1)
    {m n : Nat} (hn : n < w.lowDen + w.highDen) :
    m * w.lowDen ≤ w.lowNum * n ∨ w.highNum * n ≤ m * w.highDen := by
  by_contra hnot
  simp only [not_or, not_le] at hnot
  obtain ⟨hlow, hhigh⟩ := hnot
  have hscaledLow := Nat.mul_le_mul_right w.highDen hlow
  have hscaledHigh := Nat.mul_le_mul_right w.lowDen hhigh
  have hscaledDet : n * (w.highNum * w.lowDen) = n * (w.lowNum * w.highDen + 1) := by rw [hdet]
  nlinarith

/-- A multiple of a ratio not below one that is near a number is no larger multiple
than the number. -/
theorem pos_and_le_of_near {num den m n : Nat} (hden : 0 < den) (hle : den ≤ num) (hm : 0 < m)
    (hnear : 0x20000000 * |(n : ℤ) * num - m * den| ≤ den) : 0 < n ∧ n ≤ m := by
  have hden : (0 : ℤ) < den := by exact_mod_cast hden
  have hle : (n : ℤ) * den ≤ n * num :=
    mul_le_mul_of_nonneg_left (by exact_mod_cast hle) (Int.natCast_nonneg n)
  obtain ⟨hbelow, habove⟩ := abs_le.1 (le_refl |(n : ℤ) * num - m * den|)
  constructor
  · refine Nat.pos_of_ne_zero fun hzero => ?_
    have hlarge : (den : ℤ) ≤ m * den := le_mul_of_one_le_left hden.le (by exact_mod_cast hm)
    rw [hzero, Nat.cast_zero, zero_mul] at hbelow hnear
    omega
  · have hlt : (n : ℤ) * den < (m + 1) * den := by
      rw [add_mul, one_mul]
      omega
    have hlt : (n : ℤ) < m + 1 := lt_of_mul_lt_mul_right hlt hden.le
    omega

/-- Where two fractions separate the odd numbers from a ratio, a multiple of the
ratio that is near an odd number is that number. -/
theorem mul_eq_or_eq_of_near {num den exception : Nat} {w : Neighbours}
    (hseparate : w.separate num den exception) (hden : 0 < den) (hle : den ≤ num) {m n : Nat}
    (hodd : m % 2 = 1) (hm : m < 0x2000000)
    (hnear : 0x20000000 * |(n : ℤ) * num - m * den| ≤ den) :
    n * num = m * den ∨ m = exception := by
  obtain ⟨hn, hn'⟩ := pos_and_le_of_near hden hle (by omega) hnear
  have hn' := hn'.trans_lt hm
  simp only [separate, Bool.and_eq_true, beq_iff_eq, decide_eq_true_eq] at hseparate
  obtain ⟨⟨⟨⟨⟨⟨⟨hdet, hlow⟩, hhigh⟩, hsum⟩, hlowDen⟩, hhighDen⟩, hapartLow⟩, hapartHigh⟩ :=
    hseparate
  have hdet' : (w.highNum : ℤ) * w.lowDen = w.lowNum * w.highDen + 1 := by exact_mod_cast hdet
  obtain ⟨hbelow, habove⟩ := abs_le.1 (le_refl |(n : ℤ) * num - m * den|)
  rcases le_or_le_of_lt_add hdet (hn'.trans_le hsum) (m := m) with hside | hside
  · have hside' : (m : ℤ) * w.lowDen ≤ w.lowNum * n := by exact_mod_cast hside
    refine (eq_zero_or_eq_of_side (δ := (n : ℤ) * num - m * den)
      (t := (w.lowNum : ℤ) * n - m * w.lowDen) hapartLow hden hlowDen hn hodd hm (by omega) ?_
      (fun ht => ⟨w.highNum * n - w.highDen * m, ?_, ?_⟩) (by omega)).imp_left fun hzero => ?_
    · rw [Nat.cast_sub hlow]
      push_cast
      ring
    · linear_combination (-(n : ℤ)) * hdet' - w.highDen * ht
    · linear_combination (-(m : ℤ)) * hdet' - w.highNum * ht
    · exact_mod_cast sub_eq_zero.1 hzero
  · have hside' : (w.highNum : ℤ) * n ≤ m * w.highDen := by exact_mod_cast hside
    refine (eq_zero_or_eq_of_side (δ := (m : ℤ) * den - n * num)
      (t := (m : ℤ) * w.highDen - w.highNum * n) hapartHigh hden hhighDen hn hodd hm (by omega) ?_
      (fun ht => ⟨w.lowDen * m - w.lowNum * n, ?_, ?_⟩) (by omega)).imp_left fun hzero => ?_
    · rw [Nat.cast_sub hhigh]
      push_cast
      ring
    · linear_combination (-(n : ℤ)) * hdet' - w.lowDen * ht
    · linear_combination (-(m : ℤ)) * hdet' - w.lowNum * ht
    · exact_mod_cast (sub_eq_zero.1 hzero).symm

end Neighbours

/-! ### Powers of ten and of two -/

/-- The exponent of the least power of ten that is at least `2 ^ s`. -/
def tenExponent (s : ℤ) : ℤ :=
  -(-(s * 1233) / 4096)

/-- The ratio of that power of ten to `2 ^ s`. -/
def powerRatio (s : ℤ) : Nat × Nat :=
  (tenPow (tenExponent s).toNat * twoPow (-s).toNat, twoPow s.toNat * tenPow (-tenExponent s).toNat)

/-- The odd number that a multiple of a power of ten is near to without being it. -/
def exceptionAt (s : ℤ) : Nat :=
  if s = -108 ∨ s = -107 then 22841339 else 0

def neighboursAt (s : ℤ) : Neighbours :=
  .closeIn (powerRatio s).1 (powerRatio s).2 0x2000000 40
    ⟨(powerRatio s).1 / (powerRatio s).2, 1, 1, 0⟩

/-- The power of ten is not below `2 ^ s`, and the one before it is less by more
than the distance that counts as near. -/
def isBracketed (s : ℤ) : Bool :=
  decide ((powerRatio s).2 ≤ (powerRatio s).1) &&
    decide (0x20000000 * (powerRatio s).1 < 10 * (0x1FFFFFFF * (powerRatio s).2))

theorem separate_neighboursAt {s : ℤ} (hlow : -150 ≤ s) (hhigh : s ≤ 103) :
    isBracketed s ∧
      (neighboursAt s).separate (powerRatio s).1 (powerRatio s).2 (exceptionAt s) := by
  have hall : ∀ i : Nat, i < 254 → isBracketed ((i : ℤ) - 150) ∧
      (neighboursAt ((i : ℤ) - 150)).separate (powerRatio ((i : ℤ) - 150)).1
        (powerRatio ((i : ℤ) - 150)).2 (exceptionAt ((i : ℤ) - 150)) := by
    decide +kernel
  have hindex : ((s + 150).toNat : ℤ) - 150 = s := by omega
  have h := hall (s + 150).toNat (by omega)
  rwa [hindex] at h

theorem powerRatio_den_pos (s : ℤ) : 0 < (powerRatio s).2 :=
  Nat.mul_pos (twoPow_pos _) (tenPow_pos _)

theorem powerRatio_div (s : ℤ) :
    ((powerRatio s).1 : ℚ) / (powerRatio s).2 = 10 ^ tenExponent s / 2 ^ s := by
  rw [← tenPow_toNat_div, ← twoPow_toNat_div, powerRatio, Nat.cast_mul, Nat.cast_mul,
    div_div_div_eq, mul_comm (twoPow s.toNat : ℚ)]

theorem le_of_isBracketed {s : ℤ} (h : isBracketed s) : (powerRatio s).2 ≤ (powerRatio s).1 := by
  simp only [isBracketed, Bool.and_eq_true, decide_eq_true_eq] at h
  exact h.1

theorem ten_zpow_lt_of_isBracketed {s : ℤ} (h : isBracketed s) :
    (10 : ℚ) ^ tenExponent s < 10 * (2 ^ s * (1 - 1 / 0x20000000)) := by
  have hden : (0 : ℚ) < (powerRatio s).2 := by exact_mod_cast powerRatio_den_pos s
  have htwo : (0 : ℚ) < 2 ^ s := by positivity
  have hratio := powerRatio_div s
  rw [div_eq_div_iff hden.ne' htwo.ne'] at hratio
  simp only [isBracketed, Bool.and_eq_true, decide_eq_true_eq] at h
  have hhigh : 0x20000000 * ((powerRatio s).1 : ℚ) < 10 * (0x1FFFFFFF * (powerRatio s).2) := by
    exact_mod_cast h.2
  refine lt_of_mul_lt_mul_right ?_ hden.le
  rw [← hratio]
  nlinarith

/-- A power of ten that is not much below `2 ^ s` is a multiple of the least one
that is at least `2 ^ s`. -/
theorem tenExponent_le {s k : ℤ} (hbracket : isBracketed s)
    (hk : (2 : ℚ) ^ s * (1 - 1 / 0x20000000) ≤ 10 ^ k) : tenExponent s ≤ k := by
  have hless : (10 : ℚ) ^ tenExponent s < 10 ^ (k + 1) := by
    rw [zpow_add_one₀ (by norm_num)]
    linarith [ten_zpow_lt_of_isBracketed hbracket]
  exact Int.lt_add_one_iff.1 ((zpow_lt_zpow_iff_right₀ (by norm_num)).1 hless)

/-- Zeros can move between the digits and the exponent. -/
theorem mul_ten_zpow_add (n j : Nat) (k : ℤ) :
    (n : ℚ) * 10 ^ (k + j) = (n * 10 ^ j : ℕ) * 10 ^ k := by
  rw [zpow_add₀ (by norm_num), zpow_natCast]
  push_cast
  ring

/-- A difference in units of `2 ^ s`, without division. -/
theorem sub_eq_powerRatio (s : ℤ) (m n : Nat) :
    (n : ℚ) * (powerRatio s).1 - m * (powerRatio s).2 =
      (n * 10 ^ tenExponent s - m * 2 ^ s) / 2 ^ s * (powerRatio s).2 := by
  have hden : ((powerRatio s).2 : ℚ) ≠ 0 := by exact_mod_cast (powerRatio_den_pos s).ne'
  have htwo : (2 : ℚ) ^ s ≠ 0 := by positivity
  have hratio := powerRatio_div s
  rw [div_eq_div_iff hden htwo] at hratio
  field_simp
  linear_combination n * hratio

/-- A decimal of which the last digit is not much below `2 ^ s` is an odd multiple of
`2 ^ s` if it is near one, except for one. -/
theorem mul_eq_or_exception {s k : ℤ} (hlow : -150 ≤ s) (hhigh : s ≤ 103) {m n : Nat}
    (hodd : m % 2 = 1) (hm : m < 0x2000000)
    (hk : (2 : ℚ) ^ s * (1 - 1 / 0x20000000) ≤ 10 ^ k)
    (hnear : |(n : ℚ) * 10 ^ k - m * 2 ^ s| ≤ 2 ^ s / 0x20000000) :
    (n : ℚ) * 10 ^ k = m * 2 ^ s ∨ m = 22841339 ∧ (s = -108 ∨ s = -107) := by
  obtain ⟨hbracket, hseparate⟩ := separate_neighboursAt hlow hhigh
  obtain ⟨j, hj⟩ := Int.le.dest (tenExponent_le hbracket hk)
  rw [← hj, mul_ten_zpow_add] at hnear ⊢
  have hden : (0 : ℚ) < (powerRatio s).2 := by exact_mod_cast powerRatio_den_pos s
  have htwo : (0 : ℚ) < 2 ^ s := by positivity
  have hnear : 0x20000000 * |((n * 10 ^ j : ℕ) : ℤ) * (powerRatio s).1 - m * (powerRatio s).2| ≤
      (powerRatio s).2 := by
    have hrat : 0x20000000 *
        |((n * 10 ^ j : ℕ) : ℚ) * (powerRatio s).1 - m * (powerRatio s).2| ≤ (powerRatio s).2 := by
      rw [sub_eq_powerRatio, abs_mul, abs_of_pos hden, abs_div, abs_of_pos htwo, ← mul_assoc]
      refine mul_le_of_le_one_left hden.le ?_
      rw [← mul_div_assoc, div_le_one₀ htwo]
      linarith
    exact_mod_cast hrat
  rcases Neighbours.mul_eq_or_eq_of_near hseparate (powerRatio_den_pos s)
    (le_of_isBracketed hbracket) hodd hm hnear with hexact | hexception
  · left
    have hexact : ((n * 10 ^ j : ℕ) : ℚ) * (powerRatio s).1 = m * (powerRatio s).2 := by
      exact_mod_cast hexact
    have hzero := sub_eq_powerRatio s m (n * 10 ^ j)
    rw [hexact, sub_self, eq_comm, mul_eq_zero, or_iff_left hden.ne', div_eq_zero_iff,
      or_iff_left htwo.ne'] at hzero
    exact sub_eq_zero.1 hzero
  · right
    unfold exceptionAt at hexception
    split at hexception
    · exact ⟨hexception, by assumption⟩
    · omega

end PolygonRenderer
