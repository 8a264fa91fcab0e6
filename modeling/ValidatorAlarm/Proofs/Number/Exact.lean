import Mathlib.Algebra.Order.Field.Rat
import Mathlib.Data.Rat.Cast.Order
import Mathlib.Tactic.Linarith
import ValidatorAlarm.Proofs.Number.Rounding

/-!
# Exact values

A finite number stands for a rational number.  Comparisons of numbers are those of the rational
numbers that they stand for; sums are not, because they are rounded.  A sum whose exact value does not
exceed a number of the format does not exceed it after rounding either.  The other way round a sum may
have been rounded down, but by no more than half the step to the next number.
-/
namespace ValidatorAlarm

open Number

namespace Binary

variable {f : Format} {x y z : Binary f}

/-- The rational number that a finite number stands for.  Infinity is counted as the power of two
behind the largest finite number. -/
def toRat (x : Binary f) : ℚ := x.value / (Nat.pow 2 f.scale : Nat)

/-- The next larger number. -/
def next (x : Binary f) : Binary f :=
  if x.negative = true ∧ x.pattern ≠ 0 then ⟨true, x.pattern - 1⟩ else ⟨false, x.pattern + 1⟩

/-! ### Comparisons -/

theorem lt_iff_position (x y : Binary f) :
    x.lt y = true ↔ x.isNaN = false ∧ y.isNaN = false ∧ x.position < y.position := by
  simp [lt, and_assoc]

theorem le_iff_position (x y : Binary f) :
    x.le y = true ↔ x.isNaN = false ∧ y.isNaN = false ∧ x.position ≤ y.position := by
  simp [le, and_assoc]

theorem scale_pos (f : Format) : (0 : ℚ) < (Nat.pow 2 f.scale : Nat) :=
  Nat.cast_pos.mpr (Nat.pow_pos (Nat.succ_pos 1))

theorem toRat_le_iff (x y : Binary f) : x.toRat ≤ y.toRat ↔ x.position ≤ y.position := by
  rw [toRat, toRat, div_le_div_iff_of_pos_right (scale_pos f), Int.cast_le, position_le_iff]

theorem toRat_lt_iff (x y : Binary f) : x.toRat < y.toRat ↔ x.position < y.position := by
  rw [← not_le, toRat_le_iff, not_le]

theorem le_iff_toRat (hx : x.isFinite = true) (hy : y.isFinite = true) :
    x.le y = true ↔ x.toRat ≤ y.toRat := by
  rw [le_iff_position, toRat_le_iff]
  simp [not_nan_of_finite hx, not_nan_of_finite hy]

theorem lt_iff_toRat (hx : x.isFinite = true) (hy : y.isFinite = true) :
    x.lt y = true ↔ x.toRat < y.toRat := by
  rw [lt_iff_position, toRat_lt_iff]
  simp [not_nan_of_finite hx, not_nan_of_finite hy]

/-! ### The next larger number -/

theorem position_next (x : Binary f) : x.next.position = x.position + 1 := by
  rw [next]
  split_ifs with h
  · obtain ⟨hnegative, hpattern⟩ := h
    simp only [position, hnegative, if_true]
    omega
  · simp only [position, Bool.false_eq_true, if_false]
    split_ifs with hnegative
    · have hzero : x.pattern = 0 := by
        by_contra hpattern
        exact h ⟨hnegative, hpattern⟩
      omega
    · omega

/-- Nothing lies between a number and the next one. -/
theorem next_le_iff (x y : Binary f) : x.next.toRat ≤ y.toRat ↔ x.toRat < y.toRat := by
  rw [toRat_le_iff, toRat_lt_iff, position_next]
  omega

/-! ### Sums -/

/-- What is rounded to at most a number does not lie beyond the middle between it and the next one. -/
theorem twice_le_of_rounded_le (hf : 0 < f.fraction) (hz : z.isFinite = true) {sum : Int}
    (h : f.rounded sum 1 ≤ z.position) : 2 * sum ≤ z.value + z.next.value := by
  have hfinite := (isFinite_iff z).mp hz
  rw [Format.rounded, position] at h
  by_cases hbelow : z.negative = true ∧ z.pattern ≠ 0
  · -- the middle between two negative numbers
    rw [value, value, next, if_pos hbelow, if_pos hbelow.1]
    rw [if_pos hbelow.1] at h
    have hsum : sum < 0 := by
      by_contra hpositive
      rw [if_neg hpositive] at h
      omega
    rw [if_pos hsum] at h
    have hbeyond : ¬ f.nearest sum.natAbs 1 ≤ z.pattern - 1 := by omega
    rw [Format.nearest_le_iff hf Nat.one_pos (by omega),
      Nat.sub_add_cancel (Nat.one_le_iff_ne_zero.mpr hbelow.2)] at hbeyond
    simp only [if_true]
    omega
  · -- the middle lies above zero
    have hzero : z.negative = true → z.pattern = 0 := by
      intro hnegative
      by_contra hpattern
      exact hbelow ⟨hnegative, hpattern⟩
    have hunits : z.value = f.units z.pattern := by
      rw [value]
      split_ifs with hnegative
      · rw [(f.units_eq_zero z.pattern).mpr (hzero hnegative)]
        rfl
      · rfl
    have hposition : f.rounded sum 1 ≤ z.pattern := by
      rw [Format.rounded]
      refine Int.le_trans h ?_
      split_ifs <;> omega
    rw [hunits, next, if_neg hbelow, value]
    simp only [Bool.false_eq_true, if_false]
    rw [Format.rounded] at hposition
    split_ifs at hposition with hsum
    · omega
    · have hle : f.nearest sum.natAbs 1 ≤ z.pattern := by omega
      rw [Format.nearest_le_iff hf Nat.one_pos hfinite] at hle
      omega

variable (hf : 0 < f.fraction) (hx : x.isFinite = true) (hy : y.isFinite = true)
  (hz : z.isFinite = true)

include hf hx hy hz

/-- A sum that does not exceed a number exactly does not exceed it when it is rounded. -/
theorem add_le_of_toRat (h : x.toRat + y.toRat ≤ z.toRat) :
    (x.add y).position ≤ z.position := by
  rw [toRat, toRat, toRat, ← add_div, div_le_div_iff_of_pos_right (scale_pos f)] at h
  rw [(position_add hx hy).2, ← rounded_value hf hz]
  exact Format.rounded_mono hf Nat.one_pos (by exact_mod_cast h)

/-- A sum that does not exceed a number when it is rounded exceeds it by half a step at most. -/
theorem toRat_le_of_add (h : (x.add y).position ≤ z.position) :
    x.toRat + y.toRat ≤ (z.toRat + z.next.toRat) / 2 := by
  rw [(position_add hx hy).2] at h
  have hmiddle : (2 * (x.value + y.value) : ℚ) ≤ z.value + z.next.value := by
    exact_mod_cast twice_le_of_rounded_le hf hz h
  rw [toRat, toRat, toRat, toRat, ← add_div, ← add_div, div_div, div_le_div_iff₀ (scale_pos f)
    (mul_pos (scale_pos f) two_pos)]
  nlinarith [scale_pos f]

end Binary

end ValidatorAlarm
