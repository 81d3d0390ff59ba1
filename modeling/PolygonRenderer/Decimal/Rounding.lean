/-!
# Rounding quotients

`roundDiv` is the integer nearest to a quotient. A quotient in the middle of two
integers goes to the even one. Numbers are scaled by powers of two and of ten.
-/

namespace PolygonRenderer

def twoPow (n : Nat) : Nat :=
  Nat.pow 2 n

def tenPow (n : Nat) : Nat :=
  Nat.pow 10 n

theorem twoPow_pos (n : Nat) : 0 < twoPow n :=
  Nat.pow_pos (by decide)

theorem tenPow_pos (n : Nat) : 0 < tenPow n :=
  Nat.pow_pos (by decide)

/-- The integer nearest to `num / den`, the even one of two. -/
def roundDiv (num den : Nat) : Nat :=
  let floor := num / den
  let twice := 2 * (num % den)
  if twice < den || (twice == den && floor % 2 == 0) then floor else floor + 1

/-- The rounded quotient is at most one half away from the quotient. -/
theorem roundDiv_near (num den : Nat) (h : 0 < den) :
    2 * (den * roundDiv num den) ≤ 2 * num + den ∧
      2 * num ≤ 2 * (den * roundDiv num den) + den := by
  have e := Nat.div_add_mod num den
  have lt := Nat.mod_lt num h
  unfold roundDiv
  dsimp only
  split
  · rename_i hc
    simp only [Bool.or_eq_true, decide_eq_true_eq, Bool.and_eq_true, beq_iff_eq] at hc
    omega
  · rename_i hc
    simp only [Bool.or_eq_true, decide_eq_true_eq, Bool.and_eq_true, beq_iff_eq] at hc
    rw [Nat.mul_add, Nat.mul_one]
    omega

end PolygonRenderer
