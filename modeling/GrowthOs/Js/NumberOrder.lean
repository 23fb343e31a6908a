import GrowthOs.Js.Number
import Mathlib.Tactic.Ring

/-!
# The order of finite numbers

The comparison of decimals is a linear order: cross-multiplying by powers of
ten compares the numbers, and numbers in lowest terms that compare equal are
the same.
-/

namespace GrowthOs.Js.Decimal

variable {a b : Decimal}

theorem blt_eq_false_iff :
    a.blt b = false ↔ b.mantissa * 10 ^ a.scale ≤ a.mantissa * 10 ^ b.scale := by
  rw [blt, decide_eq_false_iff_not, Int.not_lt]

theorem ten_pow_pos (n : Nat) : (0 : Int) < 10 ^ n :=
  Int.pow_pos (by decide)

theorem blt_total (a b : Decimal) : a.blt b = false ∨ b.blt a = false := by
  rw [blt_eq_false_iff, blt_eq_false_iff]
  exact Int.le_total _ _

theorem not_blt_trans {c : Decimal} (hab : b.blt a = false) (hbc : c.blt b = false) :
    c.blt a = false := by
  rw [blt_eq_false_iff] at hab hbc ⊢
  have hscaled : 10 ^ b.scale * (a.mantissa * 10 ^ c.scale) ≤
      10 ^ b.scale * (c.mantissa * 10 ^ a.scale) :=
    calc 10 ^ b.scale * (a.mantissa * 10 ^ c.scale)
        = a.mantissa * 10 ^ b.scale * 10 ^ c.scale := by ring
      _ ≤ b.mantissa * 10 ^ a.scale * 10 ^ c.scale :=
          Int.mul_le_mul_of_nonneg_right hab (Int.le_of_lt (ten_pow_pos _))
      _ = b.mantissa * 10 ^ c.scale * 10 ^ a.scale := by ring
      _ ≤ c.mantissa * 10 ^ b.scale * 10 ^ a.scale :=
          Int.mul_le_mul_of_nonneg_right hbc (Int.le_of_lt (ten_pow_pos _))
      _ = 10 ^ b.scale * (c.mantissa * 10 ^ a.scale) := by ring
  exact Int.le_of_mul_le_mul_left hscaled (ten_pow_pos _)

end GrowthOs.Js.Decimal
