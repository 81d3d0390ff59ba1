import PolygonRenderer.Proofs.Decimal.Formats

/-!
# What shortest decimals are

The search goes through the powers of ten from the largest on and stops at the
first with a multiple in the interval. What it finds belongs to the interval and
is at most one unit of its last digit away from the number.
-/

namespace PolygonRenderer

namespace RoundingInterval

/-- The multiple of `10 ^ k` at or below the number. -/
def floor (r : RoundingInterval) (k : ℤ) : Nat :=
  r.value * (r.quarter k).1 / (r.quarter k).2

theorem floor_spec (r : RoundingInterval) (k : ℤ) :
    (r.floor k : ℚ) * 10 ^ k ≤ r.value * 2 ^ r.exponent ∧
      (r.value : ℚ) * 2 ^ r.exponent < (r.floor k + 1) * 10 ^ k := by
  obtain ⟨c, hc, hnum, hden⟩ := r.exists_quarter_eq k
  have hdenPos : 0 < (r.quarter k).2 := Nat.mul_pos (twoPow_pos _) (tenPow_pos _)
  have hbelow : r.floor k * (r.quarter k).2 ≤ r.value * (r.quarter k).1 := Nat.div_mul_le_self _ _
  have habove : r.value * (r.quarter k).1 < (r.quarter k).2 * (r.floor k + 1) :=
    Nat.lt_mul_div_succ _ hdenPos
  have hbelow : (r.floor k : ℚ) * (10 ^ k * c) ≤ r.value * (2 ^ r.exponent * c) := by
    rw [← hnum, ← hden]
    exact_mod_cast hbelow
  have habove : (r.value : ℚ) * (2 ^ r.exponent * c) < 10 ^ k * c * (r.floor k + 1) := by
    rw [← hnum, ← hden]
    exact_mod_cast habove
  constructor
  · exact le_of_mul_le_mul_right (by linarith) hc
  · exact lt_of_mul_lt_mul_right (by linarith) hc.le

/-- A hit is one of the multiples on either side of the number. -/
theorem hit_cases {r : RoundingInterval} {k : ℤ} {n : Nat} (h : r.hit k = some n) :
    r.contains k n ∧ (n = r.floor k ∨ n = r.floor k + 1) := by
  unfold hit at h
  dsimp only at h
  split at h
  · obtain rfl := Option.some.inj h
    split <;> exact ⟨by assumption, by simp [floor]⟩
  · obtain rfl := Option.some.inj h
    exact ⟨by assumption, .inl rfl⟩
  · obtain rfl := Option.some.inj h
    exact ⟨by assumption, .inr rfl⟩
  · contradiction

theorem abs_sub_le_of_hit {r : RoundingInterval} {k : ℤ} {n : Nat} (h : r.hit k = some n) :
    |(n : ℚ) * 10 ^ k - r.value * 2 ^ r.exponent| ≤ 10 ^ k := by
  obtain ⟨hbelow, habove⟩ := r.floor_spec k
  rcases (hit_cases h).2 with rfl | rfl
  · rw [abs_le]
    constructor <;> linarith
  · rw [abs_le]
    push_cast
    constructor <;> linarith

theorem isSome_hit {r : RoundingInterval} {k : ℤ} (h : r.Contains (r.floor k * 10 ^ k)) :
    (r.hit k).isSome := by
  have hbelow : r.contains k (r.floor k) := (r.contains_iff k _).2 h
  unfold hit
  dsimp only
  split
  · rfl
  · rfl
  · rfl
  · rename_i hnone _
    exact absurd hbelow (by simpa [floor] using hnone)

/-- What the search finds is a hit. -/
theorem exists_of_search {r : RoundingInterval} {negative : Bool} {k : ℤ} {fuel : Nat}
    {d : Decimal} (h : r.search negative k fuel = some d) :
    d.negative = negative ∧ d.exponent ≤ k ∧ k < d.exponent + fuel ∧
      r.hit d.exponent = some d.digits := by
  induction fuel generalizing k with
  | zero => contradiction
  | succ fuel ih =>
    rw [search] at h
    split at h
    · rename_i n hhit
      obtain rfl := Option.some.inj h
      exact ⟨rfl, le_rfl, by dsimp only; omega, hhit⟩
    · obtain ⟨hnegative, hle, hlt, hhit⟩ := ih h
      exact ⟨hnegative, by omega, by push_cast; omega, hhit⟩

/-- The search does not end before a power of ten that has a hit. -/
theorem isSome_search {r : RoundingInterval} {negative : Bool} {k : ℤ} {fuel : Nat} {j : Nat}
    (hj : j < fuel) (hhit : (r.hit (k - j)).isSome) : (r.search negative k fuel).isSome := by
  induction fuel generalizing k j with
  | zero => omega
  | succ fuel ih =>
    rw [search]
    split
    · rfl
    · rename_i hnone
      cases j with
      | zero => simp [hnone] at hhit
      | succ j =>
        refine ih (j := j) (by omega) ?_
        rwa [show k - 1 - (j : ℤ) = k - (j + 1 : ℕ) by push_cast; ring]

/-- A power of ten below a quarter has a hit. -/
theorem isSome_hit_of_le {r : RoundingInterval} {k : ℤ} (hlow : r.low < r.value)
    (hhigh : r.value < r.high) (hk : (10 : ℚ) ^ k ≤ 2 ^ r.exponent) : (r.hit k).isSome := by
  obtain ⟨hbelow, habove⟩ := r.floor_spec k
  have hpos : (0 : ℚ) < 2 ^ r.exponent := by positivity
  have hlow : (r.low : ℚ) + 1 ≤ r.value := by exact_mod_cast hlow
  have hhigh : (r.value : ℚ) + 1 ≤ r.high := by exact_mod_cast hhigh
  have hlow := mul_le_mul_of_nonneg_right hlow hpos.le
  have hhigh := mul_le_mul_of_nonneg_right hhigh hpos.le
  exact isSome_hit (contains_of_lt (by linarith) (by linarith))

end RoundingInterval

namespace Decimal

/-- The shortest decimal of a number other than zero is a hit. -/
theorem hit_shortest {x : Float32} (hzero : (Binary.ofFloat32 x).mantissa ≠ 0) :
    (shortest x).negative = x.toBits.toNat.testBit 31 ∧ (shortest x).exponent ≤ 39 ∧
      -149 ≤ (shortest x).exponent ∧
        (RoundingInterval.ofBinary (Binary.ofFloat32 x)).hit (shortest x).exponent =
          some (shortest x).digits := by
  have hexponent := Binary.exponent_ofFloat32_ge x
  have hlast : ((RoundingInterval.ofBinary (Binary.ofFloat32 x)).hit (39 - (188 : ℕ))).isSome := by
    refine RoundingInterval.isSome_hit_of_le ?_ ?_ ?_
    · unfold RoundingInterval.ofBinary
      dsimp only
      split <;> omega
    · unfold RoundingInterval.ofBinary
      dsimp only
      omega
    · calc (10 : ℚ) ^ (39 - (188 : ℕ) : ℤ) ≤ 2 ^ (-151 : ℤ) := by norm_num
        _ ≤ 2 ^ ((Binary.ofFloat32 x).exponent - 2) :=
          zpow_le_zpow_right₀ (by norm_num) (by omega)
  have hfound : ((RoundingInterval.ofBinary (Binary.ofFloat32 x)).search
      (x.toBits.toNat.testBit 31) 39 189).isSome :=
    RoundingInterval.isSome_search (by decide : 188 < 189) hlast
  obtain ⟨d, hd⟩ := Option.isSome_iff_exists.1 hfound
  have hshortest : shortest x = d := by
    rw [shortest, if_neg hzero, hd, Option.getD_some]
  obtain ⟨hnegative, hle, hlt, hhit⟩ := RoundingInterval.exists_of_search hd
  rw [hshortest]
  exact ⟨hnegative, hle, by push_cast at hlt; omega, hhit⟩

end Decimal

end PolygonRenderer
