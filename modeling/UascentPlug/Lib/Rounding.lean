import Mathlib.Algebra.Order.Field.Rat
import Mathlib.Algebra.Order.Ring.Int
import Mathlib.Data.Nat.Cast.Order.Field
import Mathlib.Tactic.Ring

/-!
# UascentPlug.Lib.Rounding

How far a rounded division is from the exact one (`div_bounds`), and two of
them with a multiplication between: how far `a / w * b / c` can be from the
exact `a * b / (w * c)`, and what exactly they drop
(`mul_eq_div_mul_div_add`).  Two rounded multiples that differ are at least
`m / k` apart (`spaced_of_lt`).
-/

namespace Rounding

/-- Rounding down loses less than one. -/
theorem div_bounds {b : Nat} (hb : 0 < b) (a : Nat) :
    ((a / b : Nat) : ℚ) ≤ (a : ℚ) / b ∧ (a : ℚ) / b < (a / b : Nat) + 1 := by
  have hpos : (0 : ℚ) < b := by exact_mod_cast hb
  refine ⟨Nat.cast_div_le, ?_⟩
  rw [div_lt_iff₀ hpos]
  exact_mod_cast Nat.lt_mul_of_div_lt (Nat.lt_succ_self (a / b)) hb

/-- Two floors never round up. -/
theorem mul_le_of_div_mul_div (a b c w : Nat) : (a / w * b / c) * (c * w) ≤ a * b := by
  have hrate : a / w * w ≤ a := Nat.div_mul_le_self a w
  have hscale : a / w * b / c * c ≤ a / w * b := Nat.div_mul_le_self _ c
  calc
    (a / w * b / c) * (c * w) = (a / w * b / c * c) * w := by ring
    _ ≤ (a / w * b) * w := Nat.mul_le_mul_right w hscale
    _ = (a / w * w) * b := by ring
    _ ≤ a * b := Nat.mul_le_mul_right b hrate

/-- Together they lose less than one unit of the result and one count per unit
of the window. -/
theorem lt_add_of_div_mul_div {c w : Nat} (hc : 0 < c) (hw : 0 < w) (a b : Nat) :
    a * b < (a / w * b / c + 1) * (c * w) + b * w := by
  have hrate : a ≤ (a / w + 1) * w := (Nat.lt_mul_of_div_lt (Nat.lt_succ_self _) hw).le
  have hscale : a / w * b < (a / w * b / c + 1) * c :=
    Nat.lt_mul_of_div_lt (Nat.lt_succ_self _) hc
  calc
    a * b ≤ (a / w + 1) * w * b := Nat.mul_le_mul_right b hrate
    _ = (a / w * b) * w + b * w := by ring
    _ < (a / w * b / c + 1) * c * w + b * w :=
        Nat.add_lt_add_right (Nat.mul_lt_mul_of_pos_right hscale hw) _
    _ = (a / w * b / c + 1) * (c * w) + b * w := by ring

/-- What the two divisions drop is the two remainders, the first one scaled by
the multiplication. -/
theorem mul_eq_div_mul_div_add (a b c w : Int) :
    a * b = (a / w * b / c) * (c * w) + (a % w * b + w * (a / w * b % c)) := by
  have hrate : w * (a / w) + a % w = a := Int.mul_ediv_add_emod a w
  have hscale : c * (a / w * b / c) + a / w * b % c = a / w * b := Int.mul_ediv_add_emod _ c
  calc
    a * b = (w * (a / w) + a % w) * b := by rw [hrate]
    _ = w * (a / w * b) + a % w * b := by ring
    _ = w * (c * (a / w * b / c) + a / w * b % c) + a % w * b := by rw [hscale]
    _ = (a / w * b / c) * (c * w) + (a % w * b + w * (a / w * b % c)) := by ring

/-- Two different multiples of `m`, divided by `k`, are not close. -/
theorem spaced_of_lt {a b m k : Nat} (h : a * m / k < b * m / k) :
    a * m / k + m / k ≤ b * m / k := by
  have hlt : a < b := by
    by_contra hle
    exact absurd (Nat.div_le_div_right (Nat.mul_le_mul_right m (Nat.le_of_not_lt hle)))
      (Nat.not_le_of_lt h)
  calc
    a * m / k + m / k ≤ (a * m + m) / k := Nat.div_add_div_le_add_div
    _ = (a + 1) * m / k := by rw [Nat.succ_mul]
    _ ≤ b * m / k := Nat.div_le_div_right (Nat.mul_le_mul_right m hlt)

end Rounding
