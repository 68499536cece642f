import Acrostic.Report.Rounding
import Mathlib.Algebra.Order.Field.Power
import Mathlib.Data.Rat.Floor
import Mathlib.Tactic.Linarith
import Mathlib.Tactic.Positivity

namespace Acrostic.Report

variable {value : Rat}

theorem abs_roundEven_sub_le (value : Rat) : |(roundEven value : Rat) - value| ≤ 1 / 2 := by
  have hbelow : (value.floor : Rat) ≤ value := Rat.floor_le value
  have habove := Rat.lt_floor_add_one value
  push_cast at habove
  simp only [roundEven]
  split_ifs <;> push_cast <;> rw [abs_le] <;> constructor <;> linarith

-- The numerator and the denominator of a positive value each lie between two powers of two.
theorem zpow_binaryExponent_le (h : 0 < value) : (2 : Rat) ^ binaryExponent value ≤ value := by
  simp only [binaryExponent]
  split_ifs with hguess
  · exact hguess
  · have hnum : ((2 ^ value.num.natAbs.log2 : Nat) : Rat) ≤ value.num := by
      have hpos : 0 < value.num := Rat.num_pos.mpr h
      have hlog := Nat.log2_self_le (n := value.num.natAbs) (by omega)
      exact_mod_cast (Int.ofNat_le.mpr hlog).trans_eq (Int.natAbs_of_nonneg hpos.le)
    have hden : (value.den : Rat) ≤ ((2 ^ (value.den.log2 + 1) : Nat) : Rat) :=
      Nat.cast_le.mpr (Nat.le_of_lt Nat.lt_log2_self)
    calc (2 : Rat) ^ ((value.num.natAbs.log2 : Int) - value.den.log2 - 1)
        = ((2 ^ value.num.natAbs.log2 : Nat) : Rat) / ((2 ^ (value.den.log2 + 1) : Nat) : Rat) := by
          push_cast
          rw [Int.sub_sub, zpow_sub₀ (by norm_num)]
          norm_cast
      _ ≤ value.num / value.den := by
          have hpos : (0 : Rat) < value.den := Nat.cast_pos.mpr value.den_pos
          have hnonneg : (0 : Rat) ≤ value.num := Int.cast_nonneg (Rat.num_pos.mpr h).le
          exact div_le_div₀ hnonneg hnum hpos hden
      _ = value := Rat.num_div_den value

-- The binary digits that are left away are less than half of the last one that is kept.
theorem abs_toPrecision_sub_le (h : 0 ≤ value) :
    |toPrecision value - value| ≤ value / 2 ^ precision := by
  simp only [toPrecision]
  split_ifs with hzero
  · simp [hzero]
  · have hpos : 0 < value := lt_of_le_of_ne h (Ne.symm hzero)
    let unit := (2 : Rat) ^ (binaryExponent value - (precision - 1))
    have hunit : 0 < unit := zpow_pos (by norm_num) _
    calc |roundEven (value / unit) * unit - value|
        = |roundEven (value / unit) - value / unit| * unit := by
          rw [← abs_of_pos hunit, ← abs_mul, abs_of_pos hunit, sub_mul, div_mul_cancel₀ _ hunit.ne']
      _ ≤ 1 / 2 * unit := mul_le_mul_of_nonneg_right (abs_roundEven_sub_le _) hunit.le
      _ = (2 : Rat) ^ binaryExponent value / 2 ^ precision := by
          simp only [unit]
          rw [← sub_add, zpow_add₀ (by norm_num), zpow_sub₀ (by norm_num), zpow_natCast]
          ring
      _ ≤ value / 2 ^ precision := by
          exact div_le_div_of_nonneg_right (zpow_binaryExponent_le hpos) (by positivity)

end Acrostic.Report
