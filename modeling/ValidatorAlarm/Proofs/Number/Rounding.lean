import Mathlib.Tactic.Ring
import ValidatorAlarm.Proofs.Number.Order

/-!
# Rounding to the nearest number

`Format.nearest` finds the binade of a quotient, and then rounds the quotient to a whole number of the
steps of this binade.  What comes out is told here without binades (`nearest_le_iff`): a quotient goes
to at most a given number exactly if it does not lie beyond the middle between this number and the
next one, and in the middle only if the pattern of the number is even.

All else follows from the place of the middles: numbers of the format stay as they are, a greater
quotient never goes to a smaller number, and what has gone to at most some number lies at most half a
step above it.
-/
namespace ValidatorAlarm

open Number

/-! ### Whole numbers -/

/-- A quotient goes to at most `q` exactly if it lies below the middle between `q` and its successor,
or in the middle if `q` is even. -/
theorem roundHalfEven_le_iff {num den : Nat} (hden : 0 < den) (q : Nat) :
    roundHalfEven num den ≤ q ↔
      2 * num < 2 * (q * den) + den ∨ 2 * num = 2 * (q * den) + den ∧ q % 2 = 0 := by
  have hdivide : den * (num / den) + num % den = num := Nat.div_add_mod num den
  have hrest : num % den < den := Nat.mod_lt num hden
  simp only [roundHalfEven]
  generalize num / den = whole at *
  generalize num % den = rest at *
  subst hdivide
  rw [Nat.mul_comm q den]
  rcases Nat.lt_trichotomy whole q with hless | rfl | hmore
  · have hnext : den * whole + den ≤ den * q := by
      rw [← Nat.mul_succ]
      exact Nat.mul_le_mul_left den hless
    refine iff_of_true ?_ (Or.inl (by omega))
    split_ifs <;> omega
  · -- the rest decides
    split_ifs <;> omega
  · have hnext : den * q + den ≤ den * whole := by
      rw [← Nat.mul_succ]
      exact Nat.mul_le_mul_left den hmore
    refine iff_of_false ?_ (by omega)
    split_ifs <;> omega

theorem roundHalfEven_le {num den q : Nat} (hden : 0 < den) (h : num ≤ q * den) :
    roundHalfEven num den ≤ q := by
  rw [roundHalfEven_le_iff hden]
  omega

theorem le_roundHalfEven {num den q : Nat} (hden : 0 < den) (h : q * den ≤ num) :
    q ≤ roundHalfEven num den := by
  cases q with
  | zero => exact Nat.zero_le _
  | succ q =>
    by_contra hless
    have hle : roundHalfEven num den ≤ q := by omega
    rw [roundHalfEven_le_iff hden] at hle
    rw [Nat.succ_mul] at h
    omega

namespace Number.Format

variable (f : Format)

/-! ### Binades -/

/-- Between two neighbouring powers of two, and between zero and the least of them, the numbers are
evenly spaced; the upper power belongs to it. -/
theorem units_binade {k s : Nat} (hlow : k = 0 ∨ Nat.pow 2 f.fraction ≤ s)
    (hhigh : s ≤ 2 * Nat.pow 2 f.fraction) :
    f.units (k * Nat.pow 2 f.fraction + s) = s * Nat.pow 2 k := by
  have hbase : 0 < Nat.pow 2 f.fraction := Nat.pow_pos (Nat.succ_pos 1)
  simp only [units]
  generalize Nat.pow 2 f.fraction = base at *
  by_cases hsmall : s < base
  · -- no exponent, and no hidden one
    obtain rfl : k = 0 := by omega
    rw [Nat.zero_mul, Nat.zero_add, Nat.div_eq_of_lt hsmall, Nat.mod_eq_of_lt hsmall]
    simp
  by_cases hinner : s < 2 * base
  · have hpattern : k * base + s = (s - base) + base * (k + 1) := by
      rw [Nat.mul_succ, Nat.mul_comm base k]
      omega
    have hfraction : s - base < base := by omega
    rw [hpattern, Nat.add_mul_div_left _ _ hbase, Nat.add_mul_mod_self_left,
      Nat.div_eq_of_lt hfraction, Nat.mod_eq_of_lt hfraction, if_neg (by omega),
      Nat.add_sub_cancel' (by omega), Nat.zero_add, Nat.add_sub_cancel]
  · -- the upper power has the next exponent
    obtain rfl : s = 2 * base := by omega
    have hpattern : k * base + 2 * base = base * (k + 2) := by ring
    rw [hpattern, Nat.mul_div_cancel_left _ hbase, Nat.mul_mod_right, if_neg (by omega),
      show k + 2 - 1 = k + 1 by omega, Nat.pow_eq, Nat.pow_eq]
    ring

theorem exists_binade (p : Nat) : ∃ k s, p = k * Nat.pow 2 f.fraction + s ∧
    (k = 0 ∨ Nat.pow 2 f.fraction ≤ s) ∧ s < 2 * Nat.pow 2 f.fraction := by
  have hbase : 0 < Nat.pow 2 f.fraction := Nat.pow_pos (Nat.succ_pos 1)
  generalize Nat.pow 2 f.fraction = base at *
  have hdivide := Nat.div_add_mod p base
  have hrest := Nat.mod_lt p hbase
  rw [Nat.mul_comm] at hdivide
  cases hexponent : p / base with
  | zero =>
    rw [hexponent] at hdivide
    exact ⟨0, p, by omega, Or.inl rfl, by omega⟩
  | succ k =>
    rw [hexponent, Nat.succ_mul] at hdivide
    exact ⟨k, base + p % base, by omega, Or.inr (by omega), by omega⟩

theorem nearest_binade {den : Nat} (hden : 0 < den) (num : Nat) :
    ∃ k, f.nearest num den =
        min f.infinity (k * Nat.pow 2 f.fraction + roundHalfEven num (den * Nat.pow 2 k)) ∧
      (k = 0 ∨ Nat.pow 2 f.fraction * (den * Nat.pow 2 k) ≤ num) ∧
      num < 2 * Nat.pow 2 f.fraction * (den * Nat.pow 2 k) := by
  refine ⟨(num / den).log2 - f.fraction, rfl, ?_, ?_⟩
  · by_cases hsmall : (num / den).log2 ≤ f.fraction
    · exact Or.inl (Nat.sub_eq_zero_of_le hsmall)
    have hpos : num / den ≠ 0 := by
      intro hzero
      rw [hzero] at hsmall
      exact hsmall (Nat.zero_le _)
    have hsplit : Nat.pow 2 f.fraction * Nat.pow 2 ((num / den).log2 - f.fraction) =
        2 ^ (num / den).log2 := by
      rw [Nat.pow_eq, Nat.pow_eq, ← Nat.pow_add]
      congr 1
      omega
    refine Or.inr ?_
    calc Nat.pow 2 f.fraction * (den * Nat.pow 2 ((num / den).log2 - f.fraction))
        = den * 2 ^ (num / den).log2 := by rw [← hsplit]; ring
      _ ≤ den * (num / den) := Nat.mul_le_mul_left den (Nat.log2_self_le hpos)
      _ ≤ num := Nat.mul_div_le num den
  · have hpower : num / den < 2 ^ ((num / den).log2 + 1) := Nat.lt_log2_self
    have hgrow : 2 ^ ((num / den).log2 + 1) ≤
        2 * Nat.pow 2 f.fraction * Nat.pow 2 ((num / den).log2 - f.fraction) := by
      rw [Nat.pow_eq, Nat.pow_eq, ← Nat.pow_succ', ← Nat.pow_add]
      exact Nat.pow_le_pow_right (by decide) (by omega)
    calc num < den * (num / den + 1) := Nat.lt_mul_div_succ num hden
      _ ≤ den * (2 * Nat.pow 2 f.fraction * Nat.pow 2 ((num / den).log2 - f.fraction)) :=
        Nat.mul_le_mul_left den (Nat.le_trans hpower hgrow)
      _ = _ := by ring

/-! ### The nearest number -/

variable {f} {num num' den p : Nat}

/-- **Rounding goes to the nearest number.**  Up to a finite pattern go exactly the quotients below
the middle between it and the next pattern, and the one in the middle if the pattern is even. -/
theorem nearest_le_iff (hf : 0 < f.fraction) (hden : 0 < den) (hp : p < f.infinity) :
    f.nearest num den ≤ p ↔
      2 * num < (f.units p + f.units (p + 1)) * den ∨
        2 * num = (f.units p + f.units (p + 1)) * den ∧ p % 2 = 0 := by
  obtain ⟨k, hnearest, hlow, hhigh⟩ := f.nearest_binade hden num
  obtain ⟨l, s, rfl, hleast, hmost⟩ := f.exists_binade p
  have hbase : 0 < Nat.pow 2 f.fraction := Nat.pow_pos (Nat.succ_pos 1)
  have heven : Nat.pow 2 f.fraction % 2 = 0 := by
    obtain ⟨n, hn⟩ := Nat.exists_eq_succ_of_ne_zero (Nat.ne_of_gt hf)
    rw [hn, Nat.pow_eq, Nat.pow_succ, Nat.mul_mod_left]
  have hparity : (l * Nat.pow 2 f.fraction + s) % 2 = s % 2 := by
    rw [Nat.add_mod, Nat.mul_mod, heven]
    simp
  have hfirst := f.units_binade hleast (Nat.le_of_lt hmost)
  have hsecond := f.units_binade (k := l) (s := s + 1) (by omega) (by omega)
  have hsum : (f.units (l * Nat.pow 2 f.fraction + s) +
      f.units (l * Nat.pow 2 f.fraction + s + 1)) * den =
        2 * (s * (den * Nat.pow 2 l)) + den * Nat.pow 2 l := by
    rw [Nat.add_assoc, hfirst, hsecond]
    ring
  have hstep : ∀ {i j : Nat}, i < j → 2 * (den * Nat.pow 2 i) ≤ den * Nat.pow 2 j := by
    intro i j hij
    calc 2 * (den * Nat.pow 2 i) = den * Nat.pow 2 (i + 1) := by
          rw [Nat.pow_eq, Nat.pow_eq, Nat.pow_succ]
          ring
      _ ≤ den * Nat.pow 2 j := Nat.mul_le_mul_left den (Nat.pow_le_pow_right (by decide) hij)
  have hunit : ∀ i, 0 < den * Nat.pow 2 i := fun i =>
    Nat.mul_pos hden (Nat.pow_pos (Nat.succ_pos 1))
  rw [hsum, hparity, hnearest, min_le_iff, or_iff_right (Nat.not_le.mpr hp)]
  generalize Nat.pow 2 f.fraction = base at *
  rcases Nat.lt_trichotomy k l with hless | rfl | hmore
  · -- the quotient lies in a lower binade than the pattern
    have hbelow : num < s * (den * Nat.pow 2 l) :=
      calc num < 2 * base * (den * Nat.pow 2 k) := hhigh
        _ = base * (2 * (den * Nat.pow 2 k)) := by ring
        _ ≤ s * (den * Nat.pow 2 l) := Nat.mul_le_mul (by omega) (hstep hless)
    have hrounded := roundHalfEven_le (hunit k) (Nat.le_of_lt hhigh)
    have hpatterns : (k + 1) * base ≤ l * base := Nat.mul_le_mul_right base hless
    rw [Nat.succ_mul] at hpatterns
    exact iff_of_true (by omega) (Or.inl (by omega))
  · -- within one binade the patterns are counted in its steps
    rw [Nat.add_le_add_iff_left]
    exact roundHalfEven_le_iff (hunit k) s
  · -- the quotient lies in a higher binade
    have hnum : base * (den * Nat.pow 2 k) ≤ num := by omega
    have habove : (s + 1) * (den * Nat.pow 2 l) ≤ num :=
      calc (s + 1) * (den * Nat.pow 2 l) ≤ 2 * base * (den * Nat.pow 2 l) :=
            Nat.mul_le_mul_right _ hmost
        _ = base * (2 * (den * Nat.pow 2 l)) := by ring
        _ ≤ base * (den * Nat.pow 2 k) := Nat.mul_le_mul_left base (hstep hmore)
        _ ≤ num := hnum
    have hpositive := hunit l
    have hrounded := le_roundHalfEven (hunit k) hnum
    have hpatterns : (l + 1) * base ≤ k * base := Nat.mul_le_mul_right base hmore
    rw [Nat.succ_mul] at habove hpatterns
    exact iff_of_false (by omega) (by omega)

/-- A number of the format is rounded to itself. -/
theorem nearest_units (hf : 0 < f.fraction) (hp : p < f.infinity) :
    f.nearest (f.units p) 1 = p := by
  apply Nat.le_antisymm
  · rw [nearest_le_iff hf Nat.one_pos hp]
    have hnext := f.units_strictMono (Nat.lt_add_one p)
    omega
  · cases p with
    | zero => exact Nat.zero_le _
    | succ p =>
      by_contra hless
      have hle : f.nearest (f.units (p + 1)) 1 ≤ p := by omega
      rw [nearest_le_iff hf Nat.one_pos (by omega)] at hle
      have hbefore := f.units_strictMono (Nat.lt_add_one p)
      omega

theorem nearest_le_infinity (num den : Nat) : f.nearest num den ≤ f.infinity := Nat.min_le_left _ _

/-- A greater quotient is not rounded to a smaller number. -/
theorem nearest_mono (hf : 0 < f.fraction) (hden : 0 < den) (h : num ≤ num') :
    f.nearest num den ≤ f.nearest num' den := by
  by_cases hfinite : f.nearest num' den < f.infinity
  · have hself := (nearest_le_iff hf hden hfinite).mp (Nat.le_refl _)
    rw [nearest_le_iff hf hden hfinite]
    omega
  · exact Nat.le_trans (nearest_le_infinity num den) (Nat.not_lt.mp hfinite)

theorem nearest_zero : f.nearest 0 den = 0 := by
  simp [nearest, roundHalfEven]

/-! ### With a sign -/

variable (f)

/-- The position of the number nearest to `num / den` least positive numbers. -/
def rounded (num : Int) (den : Nat) : Int :=
  if num < 0 then -(f.nearest num.natAbs den : Int) else f.nearest num.natAbs den

variable {f}

theorem rounded_mono (hf : 0 < f.fraction) (hden : 0 < den) {m n : Int} (h : m ≤ n) :
    f.rounded m den ≤ f.rounded n den := by
  rw [rounded, rounded]
  split_ifs with hm hn
  · have hmono := nearest_mono hf hden (show n.natAbs ≤ m.natAbs by omega)
    omega
  · omega
  · omega
  · have hmono := nearest_mono hf hden (show m.natAbs ≤ n.natAbs by omega)
    omega

end Number.Format

namespace Binary

variable {f : Format} {x y z : Binary f}

theorem isFinite_iff (x : Binary f) : x.isFinite = true ↔ x.pattern < f.infinity := by
  rw [isFinite, decide_eq_true_eq]

theorem isNaN_eq_false_iff (x : Binary f) : x.isNaN = false ↔ x.pattern ≤ f.infinity := by
  rw [isNaN, decide_eq_false_iff_not, Nat.not_lt]

theorem natAbs_position (x : Binary f) : x.position.natAbs = x.pattern := by
  rw [position]
  split_ifs <;> omega

theorem not_nan_of_finite (h : x.isFinite = true) : x.isNaN = false := by
  rw [isNaN_eq_false_iff]
  exact Nat.le_of_lt ((isFinite_iff x).mp h)

theorem not_infinite_of_finite (h : x.isFinite = true) : x.isInfinite = false := by
  rw [isInfinite, decide_eq_false_iff_not]
  exact Nat.ne_of_lt ((isFinite_iff x).mp h)

theorem rounded_value (hf : 0 < f.fraction) (h : x.isFinite = true) :
    f.rounded x.value 1 = x.position := by
  have hself := Format.nearest_units hf ((isFinite_iff x).mp h)
  have hzero := f.units_eq_zero x.pattern
  rw [Format.rounded, value, position]
  split_ifs with hnegative
  · rw [Int.natAbs_neg, Int.natAbs_natCast, hself]
  · -- a zero with a sign
    rw [Int.natAbs_neg, Int.natAbs_natCast, hself]
    omega
  · omega
  · rw [Int.natAbs_natCast, hself]

/-- What is no number cannot be added to. -/
theorem nan_add (h : x.isNaN = true) (y : Binary f) : (x.add y).isNaN = true := by
  have hnan : f.infinity < f.infinity + Nat.pow 2 (f.fraction - 1) :=
    Nat.lt_add_of_pos_right (Nat.pow_pos (Nat.succ_pos 1))
  rw [add, h, Bool.true_or, if_pos rfl, isNaN, nan]
  exact decide_eq_true hnan

/-- **A sum is rounded once**: it stands where the exact sum of the values belongs. -/
theorem position_add (hx : x.isFinite = true) (hy : y.isFinite = true) :
    (x.add y).isNaN = false ∧ (x.add y).position = f.rounded (x.value + y.value) 1 := by
  have hsum : x.add y =
      if x.value + y.value = 0 then ⟨x.negative && y.negative, 0⟩
      else ofUnits f (x.value + y.value < 0) (x.value + y.value).natAbs 1 := by
    simp only [add, not_nan_of_finite hx, not_nan_of_finite hy, not_infinite_of_finite hx,
      not_infinite_of_finite hy, Bool.or_self, Bool.false_eq_true, if_false]
  rw [hsum]
  split_ifs with hzero
  · rw [hzero, isNaN_eq_false_iff]
    refine ⟨Nat.zero_le _, ?_⟩
    simp [position, Format.rounded, Format.nearest_zero]
  · rw [isNaN_eq_false_iff]
    refine ⟨Format.nearest_le_infinity _ 1, ?_⟩
    rw [ofUnits, position, Format.rounded]
    simp only [decide_eq_true_eq]

/-- A number of another format stands in a coarser one where its value belongs. -/
theorem position_narrow {g : Format} (hx : x.isFinite = true) :
    (x.narrow g).isNaN = false ∧
      (x.narrow g).position = g.rounded x.value (Nat.pow 2 (f.scale - g.scale)) := by
  have hnarrow : x.narrow g =
      ofUnits g x.negative (f.units x.pattern) (Nat.pow 2 (f.scale - g.scale)) := by
    simp only [narrow, not_nan_of_finite hx, not_infinite_of_finite hx, Bool.false_eq_true, if_false]
  rw [hnarrow, isNaN_eq_false_iff]
  refine ⟨Format.nearest_le_infinity _ _, ?_⟩
  rw [ofUnits, position, Format.rounded, value]
  split_ifs with hnegative hless
  · rw [Int.natAbs_neg, Int.natAbs_natCast]
  · -- a zero with a sign
    obtain hzero : f.units x.pattern = 0 := by omega
    simp [hzero, Format.nearest_zero]
  · omega
  · rw [Int.natAbs_natCast]

theorem narrow_position_mono {g : Format} (hg : 0 < g.fraction) (hx : x.isFinite = true)
    (hy : y.isFinite = true) (h : x.position ≤ y.position) :
    (x.narrow g).position ≤ (y.narrow g).position := by
  rw [(position_narrow hx).2, (position_narrow hy).2]
  rw [position_le_iff] at h
  exact Format.rounded_mono hg (Nat.pow_pos (Nat.succ_pos 1)) h

/-- Greater terms do not make a smaller sum. -/
theorem add_position_mono (hf : 0 < f.fraction) {x' y' : Binary f} (hx : x.isFinite = true)
    (hy : y.isFinite = true) (hx' : x'.isFinite = true) (hy' : y'.isFinite = true)
    (hxx' : x.position ≤ x'.position) (hyy' : y.position ≤ y'.position) :
    (x.add y).position ≤ (x'.add y').position := by
  rw [(position_add hx hy).2, (position_add hx' hy').2]
  rw [position_le_iff] at hxx' hyy'
  exact Format.rounded_mono hf Nat.one_pos (by omega)

end Binary

end ValidatorAlarm
