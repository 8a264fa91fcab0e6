import Mathlib.Order.Monotone.Basic
import Mathlib.Order.Nat
import Mathlib.Tactic.SplitIfs
import ValidatorAlarm.Number.Binary

/-!
# The order of binary numbers

Numbers of one format are compared by their patterns.  A greater pattern stands for a greater
magnitude, so that the comparison of two numbers is that of their values.
-/
namespace ValidatorAlarm

open Number

namespace Number.Format

/-- Of two patterns the greater one stands for the greater magnitude. -/
theorem units_strictMono (f : Format) : StrictMono f.units := by
  refine strictMono_nat_of_lt_succ fun p => ?_
  have hbase : 0 < Nat.pow 2 f.fraction := Nat.pow_pos (Nat.succ_pos 1)
  simp only [units]
  generalize Nat.pow 2 f.fraction = base at hbase
  have hfraction := Nat.mod_lt p hbase
  by_cases hlast : p % base + 1 < base
  · -- the exponent stays, and the fraction grows by one
    have hmod : (p + 1) % base = p % base + 1 := by
      rw [Nat.add_mod, Nat.mod_eq_of_lt (show 1 < base by omega), Nat.mod_eq_of_lt hlast]
    have hdiv : (p + 1) / base = p / base := by
      rw [Nat.succ_div, if_neg, Nat.add_zero]
      intro hdvd
      have := Nat.mod_eq_zero_of_dvd hdvd
      omega
    rw [hmod, hdiv]
    split
    · exact Nat.lt_succ_self _
    · exact Nat.mul_lt_mul_of_pos_right (by omega) (Nat.pow_pos (Nat.succ_pos 1))
  · -- the fraction is full, so that the exponent grows
    have hdvd : base ∣ p + 1 := by
      refine Nat.dvd_of_mod_eq_zero ?_
      rw [← Nat.mod_add_mod, show p % base + 1 = base by omega, Nat.mod_self]
    rw [Nat.mod_eq_zero_of_dvd hdvd, Nat.succ_div, if_pos hdvd, if_neg (Nat.succ_ne_zero _),
      Nat.add_sub_cancel, Nat.add_zero]
    split
    · rename_i hzero
      rw [hzero]
      simpa using hfraction
    · obtain ⟨exponent, hexponent⟩ := Nat.exists_eq_succ_of_ne_zero ‹p / base ≠ 0›
      rw [hexponent, Nat.succ_sub_one, Nat.pow_eq, Nat.pow_eq, Nat.pow_succ, ← Nat.mul_assoc,
        Nat.mul_right_comm]
      exact Nat.mul_lt_mul_of_pos_right (by omega) (Nat.pow_pos (Nat.succ_pos 1))

theorem units_eq_zero (f : Format) (pattern : Nat) : f.units pattern = 0 ↔ pattern = 0 := by
  have hzero : f.units 0 = 0 := by simp [units]
  constructor
  · intro h
    exact f.units_strictMono.injective (h.trans hzero.symm)
  · rintro rfl
    exact hzero

end Number.Format

namespace Binary

variable {f : Format}

/-- The position of a number in its format and its value are ordered alike. -/
theorem position_le_iff (x y : Binary f) : x.position ≤ y.position ↔ x.value ≤ y.value := by
  have hmono := f.units_strictMono
  have hle : f.units x.pattern ≤ f.units y.pattern ↔ x.pattern ≤ y.pattern := hmono.le_iff_le
  have hge : f.units y.pattern ≤ f.units x.pattern ↔ y.pattern ≤ x.pattern := hmono.le_iff_le
  have hx := f.units_eq_zero x.pattern
  have hy := f.units_eq_zero y.pattern
  simp only [position, value]
  split_ifs <;> omega

/-- **Comparisons are those of the values**, as far as there are numbers to compare. -/
theorem le_iff (x y : Binary f) :
    x.le y = true ↔ x.isNaN = false ∧ y.isNaN = false ∧ x.value ≤ y.value := by
  rw [← position_le_iff]
  simp [le, and_assoc]

end Binary

end ValidatorAlarm
