import Mathlib.Tactic.FieldSimp
import Mathlib.Tactic.Positivity
import ValidatorAlarm.Proofs.Json.Number
import ValidatorAlarm.Proofs.Number.Exact

/-!
# How near a number is taken

A number of JSON that is no word is taken up in some steps, and each of them is rounded.  What is lost
in one rounding to 64 bits is a 2⁻⁵³ of the value at most, as long as the value does not get too small
for the format.  No number takes more than six such steps, so what is taken differs from the number by a
2⁻⁵⁰ of it at most.

Numbers below 10⁻³⁰⁷ may lose all their digits on the way; they all become zero when they are rounded to
32 bits.
-/
namespace ValidatorAlarm

open Number

/-! ### Nearness -/

namespace Number

/-- The greatest ratio between a value and what it is rounded to. -/
def slack : ℚ := 2 ^ 53 / (2 ^ 53 - 1)

/-- Two values are at most some roundings apart. -/
def Near (k : Nat) (x y : ℚ) : Prop := x ≤ y * slack ^ k ∧ y ≤ x * slack ^ k

theorem slack_pos : 0 < slack := by norm_num [slack]

theorem one_le_slack : 1 ≤ slack := by norm_num [slack]

namespace Near

variable {j k : Nat} {x y z x' y' : ℚ}

theorem trans (h : Near j x y) (h' : Near k y z) : Near (j + k) x z := by
  have hj := pow_pos slack_pos j
  have hk := pow_pos slack_pos k
  constructor
  · calc x ≤ y * slack ^ j := h.1
      _ ≤ z * slack ^ k * slack ^ j := mul_le_mul_of_nonneg_right h'.1 hj.le
      _ = z * slack ^ (j + k) := by rw [pow_add]; ring
  · calc z ≤ y * slack ^ k := h'.2
      _ ≤ x * slack ^ j * slack ^ k := mul_le_mul_of_nonneg_right h.2 hk.le
      _ = x * slack ^ (j + k) := by rw [pow_add]; ring

theorem mono (h : Near j x y) (hx : 0 ≤ x) (hy : 0 ≤ y) (hjk : j ≤ k) : Near k x y := by
  have hgrow := pow_le_pow_right₀ one_le_slack hjk
  exact ⟨h.1.trans (mul_le_mul_of_nonneg_left hgrow hy), h.2.trans (mul_le_mul_of_nonneg_left hgrow hx)⟩

theorem mul (h : Near j x y) (h' : Near k x' y') (hx : 0 ≤ x) (hy : 0 ≤ y) (hx' : 0 ≤ x') (hy' : 0 ≤ y') :
    Near (j + k) (x * x') (y * y') := by
  have hj := (pow_pos slack_pos j).le
  have hk := (pow_pos slack_pos k).le
  constructor
  · calc x * x' ≤ y * slack ^ j * (y' * slack ^ k) := mul_le_mul h.1 h'.1 hx' (mul_nonneg hy hj)
      _ = y * y' * slack ^ (j + k) := by rw [pow_add]; ring
  · calc y * y' ≤ x * slack ^ j * (x' * slack ^ k) := mul_le_mul h.2 h'.2 hy' (mul_nonneg hx hj)
      _ = x * x' * slack ^ (j + k) := by rw [pow_add]; ring

theorem inv (h : Near k x y) (hx : 0 < x) (hy : 0 < y) : Near k x⁻¹ y⁻¹ := by
  have hk := pow_pos slack_pos k
  constructor
  · rw [inv_mul_eq_div, inv_le_comm₀ hx (div_pos hk hy), inv_div, div_le_iff₀ hk]
    exact h.2
  · rw [inv_mul_eq_div, inv_le_comm₀ hy (div_pos hk hx), inv_div, div_le_iff₀ hk]
    exact h.1

theorem div (h : Near j x y) (h' : Near k x' y') (hx : 0 ≤ x) (hy : 0 ≤ y) (hx' : 0 < x') (hy' : 0 < y') :
    Near (j + k) (x / x') (y / y') := by
  rw [div_eq_mul_inv, div_eq_mul_inv]
  exact h.mul (h'.inv hx' hy') hx hy (inv_nonneg.mpr hx'.le) (inv_nonneg.mpr hy'.le)

theorem div_right (h : Near k x y) {c : ℚ} (hc : 0 < c) : Near k (x / c) (y / c) := by
  constructor
  · rw [div_mul_eq_mul_div]
    exact div_le_div_of_nonneg_right h.1 hc.le
  · rw [div_mul_eq_mul_div]
    exact div_le_div_of_nonneg_right h.2 hc.le

/-- A value that is not small is not made small. -/
theorem half_le (h : Near k x y) (hk : k ≤ 6) (hy : 0 ≤ y) : x / 2 ≤ y := by
  have hgrow : slack ^ k ≤ 2 := (pow_le_pow_right₀ one_le_slack hk).trans (by norm_num [slack])
  have hle := h.1.trans (mul_le_mul_of_nonneg_left hgrow hy)
  linarith

/-- Six roundings make a difference of a 2⁻⁵⁰ at most. -/
theorem abs_le (h : Near 6 x y) (hx : 0 ≤ x) : |y - x| ≤ x / 2 ^ 50 := by
  have hup : slack ^ 6 ≤ 1 + 1 / 2 ^ 50 := by norm_num [slack]
  have hdown : slack ^ 6 * (1 - 1 / 2 ^ 50) ≤ 1 := by norm_num [slack]
  have hmost := h.2.trans (mul_le_mul_of_nonneg_left hup hx)
  have hy : 0 ≤ y := by
    have hpos := pow_pos slack_pos 6
    exact nonneg_of_mul_nonneg_left (hx.trans h.1) hpos
  have hleast : x * (1 - 1 / 2 ^ 50) ≤ y :=
    calc x * (1 - 1 / 2 ^ 50) ≤ y * slack ^ 6 * (1 - 1 / 2 ^ 50) :=
          mul_le_mul_of_nonneg_right h.1 (by norm_num)
      _ = y * (slack ^ 6 * (1 - 1 / 2 ^ 50)) := by ring
      _ ≤ y * 1 := mul_le_mul_of_nonneg_left hdown hy
      _ = y := mul_one y
  rw [abs_le']
  constructor <;> linarith

end Near

/-! ### One rounding -/

/-- A whole number is at most a half from what is rounded to it. -/
theorem roundHalfEven_error (num : Nat) {den : Nat} (hden : 0 < den) :
    2 * (roundHalfEven num den * den) ≤ 2 * num + den ∧
      2 * num ≤ 2 * (roundHalfEven num den * den) + den := by
  constructor
  · cases hq : roundHalfEven num den with
    | zero => omega
    | succ q =>
      have hbeyond : ¬ roundHalfEven num den ≤ q := by omega
      rw [roundHalfEven_le_iff hden] at hbeyond
      rw [Nat.succ_mul q den]
      omega
  · have hself := (roundHalfEven_le_iff hden _).mp (Nat.le_refl (roundHalfEven num den))
    omega

namespace Format

variable {f : Format}

/-- The value of a pattern without a sign. -/
def amount (f : Format) (p : Nat) : ℚ := f.units p / (Nat.pow 2 f.scale : Nat)

/-- The least value that has all bits of the format. -/
def least (f : Format) : ℚ := (Nat.pow 2 f.fraction : Nat) / (Nat.pow 2 f.scale : Nat)

theorem toRat_eq_amount (x : Binary f) :
    x.toRat = if x.negative then -f.amount x.pattern else f.amount x.pattern := by
  rw [Binary.toRat, Binary.value, amount]
  split
  · rw [Int.cast_neg, Int.cast_natCast, neg_div]
  · rw [Int.cast_natCast]

theorem amount_nonneg (p : Nat) : 0 ≤ f.amount p := div_nonneg (Nat.cast_nonneg _) (Nat.cast_nonneg _)

/-- With all bits of the format, a quotient is rounded by half a step of the last bit at most. -/
theorem nearest_error {num den : Nat} (hden : 0 < den) (hall : Nat.pow 2 f.fraction * den ≤ num)
    (hfinite : f.nearest num den < f.infinity) :
    2 * Nat.pow 2 f.fraction * (f.units (f.nearest num den) * den) ≤
        2 * Nat.pow 2 f.fraction * num + num ∧
      2 * Nat.pow 2 f.fraction * num ≤
        2 * Nat.pow 2 f.fraction * (f.units (f.nearest num den) * den) + num := by
  obtain ⟨k, hnearest, hlow, hhigh⟩ := f.nearest_binade hden num
  have hstep : 0 < den * Nat.pow 2 k := Nat.mul_pos hden (Nat.pow_pos (Nat.succ_pos 1))
  have hfull : Nat.pow 2 f.fraction * (den * Nat.pow 2 k) ≤ num := by
    rcases hlow with rfl | hlow
    · rwa [show Nat.pow 2 0 = 1 from rfl, Nat.mul_one]
    · exact hlow
  have hleast := le_roundHalfEven hstep hfull
  have hmost := roundHalfEven_le hstep (Nat.le_of_lt hhigh)
  have hpattern : f.nearest num den =
      k * Nat.pow 2 f.fraction + roundHalfEven num (den * Nat.pow 2 k) := by omega
  obtain ⟨hup, hdown⟩ := roundHalfEven_error num hstep
  have hunits : f.units (f.nearest num den) * den =
      roundHalfEven num (den * Nat.pow 2 k) * (den * Nat.pow 2 k) := by
    rw [hpattern, f.units_binade (.inr hleast) hmost]
    ring
  rw [hunits]
  generalize roundHalfEven num (den * Nat.pow 2 k) * (den * Nat.pow 2 k) = rounded at *
  generalize Nat.pow 2 f.fraction = base at *
  constructor <;> nlinarith

/-! ### 64 bits -/

theorem nearest_near {num den : Nat} (hden : 0 < den) (hall : Nat.pow 2 double.fraction * den ≤ num)
    (hfinite : double.nearest num den < double.infinity) :
    Near 1 ((num : ℚ) / den) (double.units (double.nearest num den)) := by
  obtain ⟨hup, hdown⟩ := nearest_error hden hall hfinite
  have hbase : 2 * Nat.pow 2 double.fraction = 2 ^ 53 := by decide
  rw [hbase] at hup hdown
  have hden' : (0 : ℚ) < den := Nat.cast_pos.mpr hden
  generalize double.units (double.nearest num den) = taken at *
  have hup' : (2 : ℚ) ^ 53 * (taken * den) ≤ 2 ^ 53 * num + num := by exact_mod_cast hup
  have hdown' : (2 : ℚ) ^ 53 * num ≤ 2 ^ 53 * (taken * den) + num := by exact_mod_cast hdown
  have hnum : (0 : ℚ) ≤ num := Nat.cast_nonneg _
  rw [Near, pow_one, slack]
  constructor
  · rw [div_le_iff₀ hden']
    linarith
  · rw [div_mul_eq_mul_div, le_div_iff₀ hden']
    linarith

/-- A product with all bits of the format is rounded once. -/
theorem times_near {p q : Nat} (hall : double.least ≤ double.amount p * double.amount q)
    (hfinite : double.times p q < double.infinity) :
    Near 1 (double.amount p * double.amount q) (double.amount (double.times p q)) := by
  have hscale := double.pow_scale_pos
  have hscale' : (0 : ℚ) < (Nat.pow 2 double.scale : Nat) := Nat.cast_pos.mpr hscale
  have hexact : double.amount p * double.amount q =
      ((double.units p * double.units q : Nat) : ℚ) / (Nat.pow 2 double.scale : Nat) /
        (Nat.pow 2 double.scale : Nat) := by
    rw [amount, amount, Nat.cast_mul, div_mul_div_comm, div_div]
  rw [hexact] at hall ⊢
  rw [least, div_le_div_iff_of_pos_right hscale', le_div_iff₀ hscale'] at hall
  exact (nearest_near hscale (by exact_mod_cast hall) hfinite).div_right hscale'

/-- So is a quotient. -/
theorem dividedBy_near {p q : Nat} (hq : 0 < double.amount q)
    (hall : double.least ≤ double.amount p / double.amount q)
    (hfinite : double.dividedBy p q < double.infinity) :
    Near 1 (double.amount p / double.amount q) (double.amount (double.dividedBy p q)) := by
  have hscale := double.pow_scale_pos
  have hscale' : (0 : ℚ) < (Nat.pow 2 double.scale : Nat) := Nat.cast_pos.mpr hscale
  have hunits' : (0 : ℚ) < double.units q := by
    rw [amount, div_pos_iff_of_pos_right hscale'] at hq
    exact hq
  have hunits : 0 < double.units q := Nat.cast_pos.mp hunits'
  have hexact : double.amount p / double.amount q =
      ((double.units p * Nat.pow 2 double.scale : Nat) : ℚ) / double.units q /
        (Nat.pow 2 double.scale : Nat) := by
    rw [amount, amount, Nat.cast_mul]
    field_simp
  rw [hexact] at hall ⊢
  rw [least, div_le_div_iff_of_pos_right hscale', le_div_iff₀ hunits'] at hall
  exact (nearest_near hunits (by exact_mod_cast hall) hfinite).div_right hscale'

/-- A number that is divided by one or more does not get greater. -/
theorem dividedBy_le {p q : Nat} (hp : p < double.infinity)
    (hq : Nat.pow 2 double.scale ≤ double.units q) : double.dividedBy p q ≤ p := by
  have hfraction : 0 < double.fraction := by decide
  have hpos : 0 < double.units q := Nat.lt_of_lt_of_le double.pow_scale_pos hq
  calc double.dividedBy p q
      ≤ double.nearest (double.units p * double.units q) (double.units q) :=
        nearest_mono hfraction hpos (Nat.mul_le_mul_left _ hq)
    _ = double.nearest (double.units p) 1 := nearest_mul_self _ hpos
    _ = p := nearest_units hfraction hp

/-- A whole number is rounded once. -/
theorem nearest_scaled_near {n : Nat} (hn : 0 < n)
    (hfinite : double.nearest (n * Nat.pow 2 double.scale) 1 < double.infinity) :
    Near 1 n (double.amount (double.nearest (n * Nat.pow 2 double.scale) 1)) := by
  have hscale := double.pow_scale_pos
  have hscale' : (0 : ℚ) < (Nat.pow 2 double.scale : Nat) := Nat.cast_pos.mpr hscale
  have hgrow : ∀ {j k : Nat}, j ≤ k → Nat.pow 2 j ≤ Nat.pow 2 k := Nat.pow_le_pow_right (Nat.succ_pos 1)
  have hall : Nat.pow 2 double.fraction * 1 ≤ n * Nat.pow 2 double.scale := by
    rw [Nat.mul_one]
    exact Nat.le_trans (hgrow (by decide)) (Nat.le_mul_of_pos_left _ hn)
  have hnear := (nearest_near Nat.one_pos hall hfinite).div_right hscale'
  rwa [Nat.cast_one, div_one, Nat.cast_mul, mul_div_cancel_right₀ _ hscale'.ne'] at hnear

end Format

end Number

namespace Json.Literal

/-! ### Sizes -/

def depth : Nat := Nat.pow 10 (maxPower - 1)

/-- The greatest word behind 308 places. -/
def dust : Nat := Format.double.dividedBy (Binary.ofNat .double false maxWord).pattern (ten maxPower)

/-- The greatest word and the greatest power of ten are finite, `depth` is less than the format reaches
down to, also by a word, and the greatest word behind 308 places is zero in 32 bits. -/
theorem fixed_sizes :
    (Binary.ofNat .double false maxWord).pattern < Format.double.infinity ∧
    ten maxPower < Format.double.infinity ∧
    0 < depth ∧
    4 * Nat.pow 2 Format.double.fraction * depth ≤ Nat.pow 2 Format.double.scale ∧
    2 * maxWord * depth < Nat.pow 10 (2 * maxPower) ∧
    dust < Format.double.infinity ∧
    Format.single.nearest (Format.double.units dust)
      (Nat.pow 2 (Format.double.scale - Format.single.scale)) = 0 ∧
    0 < bound := by
  decide +kernel

/-! ### Digits that are left out -/

theorem behind_lt (word : Nat) {cs : List Char} (h : ∀ c ∈ cs, c.isDigit = true) :
    behind word cs < (word + 1) * 10 ^ cs.length := by
  induction cs generalizing word with
  | nil => simp [behind]
  | cons c cs ih =>
    rw [List.forall_mem_cons] at h
    have hdigit := digit_le h.1
    calc behind word (c :: cs)
        < (10 * word + (c.toNat - 48) + 1) * 10 ^ cs.length := ih _ h.2
      _ ≤ (10 * word + 10) * 10 ^ cs.length := Nat.mul_le_mul_right _ (by omega)
      _ = (word + 1) * 10 ^ (c :: cs).length := by rw [List.length_cons, Nat.pow_succ]; ring

/-- What stands behind nineteen digits counts for little. -/
theorem little_behind {word digit places total taken : Nat} (hdigit : digit ≤ 9)
    (hfull : maxWord < 10 * word + digit) (htotal : total < (word + 1) * 10 ^ places)
    (htaken : word * 10 ^ places ≤ taken) : total * (2 ^ 53 - 1) ≤ taken * 2 ^ 53 := by
  have hmax : maxWord = 18446744073709551615 := rfl
  have hword : (word + 1) * (2 ^ 53 - 1) ≤ word * 2 ^ 53 := by omega
  calc total * (2 ^ 53 - 1) ≤ (word + 1) * 10 ^ places * (2 ^ 53 - 1) :=
        Nat.mul_le_mul_right _ (Nat.le_of_lt htotal)
    _ = (word + 1) * (2 ^ 53 - 1) * 10 ^ places := Nat.mul_right_comm ..
    _ ≤ word * 2 ^ 53 * 10 ^ places := Nat.mul_le_mul_right _ hword
    _ = word * 10 ^ places * 2 ^ 53 := Nat.mul_right_comm ..
    _ ≤ taken * 2 ^ 53 := Nat.mul_le_mul_right _ htaken

/-- To leave out digits makes a number smaller by no more than a rounding does. -/
theorem le_scaled {n : Literal} (hwhole : ∀ c ∈ n.whole, c.isDigit = true)
    (hpart : ∀ c ∈ n.part, c.isDigit = true) :
    ∃ left : Nat, n.scaled.2 = n.exponent + left ∧
      n.digits * (2 ^ 53 - 1) ≤ n.scaled.1 * 10 ^ left * 2 ^ 53 := by
  obtain ⟨taken, missed, more, dropped, hfront, hback, hscaled, hdigits, -, hfull, hfull'⟩ :=
    n.scaled_taken
  rw [hscaled]
  refine ⟨missed.length + dropped.length, rfl, ?_⟩
  generalize behind 0 taken = word at hdigits hfull hfull' ⊢
  cases missed with
  | nil =>
    rw [show behind word [] = word from rfl, behind_append] at hdigits
    rw [List.length_nil, Nat.zero_add]
    cases dropped with
    | nil =>
      rw [hdigits]
      simp only [behind, List.foldl_nil, List.length_nil]
      omega
    | cons c dropped =>
      have hrest : ∀ d ∈ c :: dropped, d.isDigit = true := fun d hd =>
        hpart d (by rw [hback]; exact List.mem_append_right _ hd)
      have htotal := behind_lt (behind word more) hrest
      rw [← hdigits] at htotal
      exact little_behind (digit_le (hrest c List.mem_cons_self)) (hfull' c rfl) htotal (Nat.le_refl _)
  | cons c missed =>
    have hrest : ∀ d ∈ c :: missed, d.isDigit = true := fun d hd =>
      hwhole d (by rw [hfront]; exact List.mem_append_right _ hd)
    have hall : ∀ d ∈ c :: missed ++ (more ++ dropped), d.isDigit = true := fun d hd =>
      (List.mem_append.mp hd).elim (hrest d) fun hd => hpart d (hback ▸ hd)
    have htotal := behind_lt word hall
    rw [behind_append, ← hdigits] at htotal
    refine little_behind (digit_le (hrest c List.mem_cons_self)) (hfull c rfl) htotal ?_
    calc word * 10 ^ (c :: missed ++ (more ++ dropped)).length
        = word * 10 ^ more.length * 10 ^ ((c :: missed).length + dropped.length) := by
          rw [List.length_append, List.length_append, Nat.mul_assoc, ← Nat.pow_add]
          congr 2
          omega
      _ ≤ behind word more * 10 ^ ((c :: missed).length + dropped.length) :=
          Nat.mul_le_mul_right _ (le_behind word more)

/-- The word and its power of ten differ from the number by one rounding at most. -/
theorem scaled_near {n : Literal} (hwhole : ∀ c ∈ n.whole, c.isDigit = true)
    (hpart : ∀ c ∈ n.part, c.isDigit = true) :
    Near 1 n.magnitude (n.scaled.1 * 10 ^ n.scaled.2) := by
  obtain ⟨left, hpower, hleast⟩ := le_scaled hwhole hpart
  have hten : (0 : ℚ) ≤ 10 ^ n.exponent := zpow_nonneg (by norm_num) _
  have hmagnitude : 0 ≤ n.magnitude := mul_nonneg (Nat.cast_nonneg _) hten
  have hup : (n.digits : ℚ) ≤ (n.scaled.1 * 10 ^ left : Nat) * slack := by
    have hcast : ((n.digits * (2 ^ 53 - 1) : Nat) : ℚ) ≤
        ((n.scaled.1 * 10 ^ left * 2 ^ 53 : Nat) : ℚ) := Nat.cast_le.mpr hleast
    rw [slack, mul_div_assoc', le_div_iff₀ (by norm_num)]
    push_cast at hcast ⊢
    linarith
  rw [Near, pow_one]
  constructor
  · calc n.magnitude ≤ (n.scaled.1 * 10 ^ left : Nat) * slack * 10 ^ n.exponent :=
          mul_le_mul_of_nonneg_right hup hten
      _ = n.scaled.1 * 10 ^ n.scaled.2 * slack := by rw [scaled_value hpower, mul_right_comm]
  · exact (scaled_le_magnitude hwhole).trans (le_mul_of_one_le_right hmagnitude one_le_slack)

/-! ### The steps -/

theorem ofNat_near {word : Nat} (hpos : 0 < word) (hword : word ≤ maxWord) :
    (Binary.ofNat .double false word).pattern < Format.double.infinity ∧
      Near 1 word (Format.double.amount (Binary.ofNat .double false word).pattern) := by
  obtain ⟨hmax, -⟩ := fixed_sizes
  have hfraction : 0 < Format.double.fraction := by decide
  have hfinite : (Binary.ofNat .double false word).pattern < Format.double.infinity :=
    Nat.lt_of_le_of_lt (Format.nearest_mono hfraction Nat.one_pos (Nat.mul_le_mul_right _ hword)) hmax
  exact ⟨hfinite, Format.nearest_scaled_near hpos hfinite⟩

theorem ten_near {power : Nat} (h : power ≤ maxPower) :
    Near 1 (10 ^ power) (Format.double.amount (ten power)) := by
  obtain ⟨-, hmax, -⟩ := fixed_sizes
  have hfinite := Nat.lt_of_le_of_lt (ten_mono h (Nat.le_refl _)) hmax
  rw [ten_eq h] at hfinite ⊢
  have hcast : ((1 * Nat.pow 10 power : Nat) : ℚ) = 10 ^ power := by
    rw [Nat.one_mul, Nat.pow_eq, Nat.cast_pow, Nat.cast_ofNat]
  rw [← hcast]
  exact Format.nearest_scaled_near (Nat.mul_pos Nat.one_pos (Nat.pow_pos (Nat.succ_pos 9))) hfinite

theorem one_le_ten {power : Nat} (h : power ≤ maxPower) :
    Nat.pow 2 Format.double.scale ≤ Format.double.units (ten power) := by
  have hone : ∀ u s : Nat, u = Nat.pow 10 0 * s → s ≤ u := by
    intro u s hu
    rw [hu, show Nat.pow 10 0 = 1 from rfl, Nat.one_mul]
  exact Nat.le_trans (hone _ _ (units_ten (Nat.zero_le _)))
    (Format.double.units_strictMono.monotone (ten_mono (Nat.zero_le power) h))

/-- From 10⁻³⁰⁷ on nothing gets too small for the format. -/
def floor : ℚ := 1 / depth

theorem depth_pos : 0 < depth := by
  obtain ⟨-, -, hdepth, -⟩ := fixed_sizes
  exact hdepth

theorem floor_pos : 0 < floor := one_div_pos.mpr (Nat.cast_pos.mpr depth_pos)

theorem least_le_floor : 4 * Format.double.least ≤ floor := by
  obtain ⟨-, -, -, hnat, -⟩ := fixed_sizes
  have hgeneral : ∀ base scale power : Nat, 0 < scale → 0 < power → 4 * base * power ≤ scale →
      4 * ((base : ℚ) / scale) ≤ 1 / power := by
    intro base scale power hscale hpower h
    rw [mul_div_assoc', div_le_div_iff₀ (Nat.cast_pos.mpr hscale) (Nat.cast_pos.mpr hpower), one_mul]
    exact_mod_cast h
  exact hgeneral _ _ _ Format.double.pow_scale_pos depth_pos hnat

theorem floor_le_one : floor ≤ 1 := div_le_one_of_le₀ (Nat.one_le_cast.mpr depth_pos) (Nat.cast_nonneg _)

theorem least_le_half : Format.double.least ≤ 1 / 2 := by
  have hle := least_le_floor.trans floor_le_one
  generalize Format.double.least = least at *
  linarith

/-- What is near a value that is not zero is not zero. -/
theorem ne_zero_of_near {j p : Nat} {x : ℚ} (h : Near j x (Format.double.amount p)) (hx : 0 < x) : p ≠ 0 := by
  rintro rfl
  have hzero : Format.double.amount 0 = 0 := by
    rw [Format.amount, (Format.double.units_eq_zero 0).mpr rfl, Nat.cast_zero, zero_div]
  have hle := h.1
  rw [hzero, zero_mul] at hle
  exact absurd hx hle.not_gt

variable {x : ℚ} {j k p : Nat}

/-- A division by a power of ten is two roundings, that of the power and that of the quotient. -/
theorem divide_near (hp : p < Format.double.infinity) (h : Near j x (Format.double.amount p)) (hj : j ≤ 5)
    (hx : 0 ≤ x) (hk : k ≤ maxPower) (hall : Format.double.least ≤ x / 10 ^ k / 2) :
    Format.double.dividedBy p (ten k) < Format.double.infinity ∧
      Near (j + 2) (x / 10 ^ k) (Format.double.amount (Format.double.dividedBy p (ten k))) := by
  have hfinite := Nat.lt_of_le_of_lt (Format.dividedBy_le hp (one_le_ten hk)) hp
  have hten := ten_near hk
  have hpower : (0 : ℚ) < 10 ^ k := by positivity
  have htaken : 0 < Format.double.amount (ten k) :=
    lt_of_lt_of_le (half_pos hpower) (hten.half_le (by decide) (Format.amount_nonneg _))
  have hquotient := h.div hten hx (Format.amount_nonneg _) hpower htaken
  have hhalf := hquotient.half_le (by omega) (div_nonneg (Format.amount_nonneg _) htaken.le)
  have hnear := hquotient.trans (Format.dividedBy_near htaken (hall.trans hhalf) hfinite)
  exact ⟨hfinite, hnear⟩

/-- A power of ten that is too large for the format takes two divisions. -/
theorem shrink_near (hp : p < Format.double.infinity) (h : Near 1 x (Format.double.amount p)) (hx : 0 < x)
    (hk : k ≤ 2 * maxPower) (hall : Format.double.least ≤ x / 10 ^ k / 2) :
    shrink p k < Format.double.infinity ∧ Near 5 (x / 10 ^ k) (Format.double.amount (shrink p k)) := by
  have hquotient : 0 ≤ x / 10 ^ k := by positivity
  rw [shrink]
  split
  · rename_i hsmall
    obtain ⟨hfinite, hnear⟩ := divide_near hp h (by decide) hx.le hsmall hall
    exact ⟨hfinite, hnear.mono hquotient (Format.amount_nonneg _) (by decide)⟩
  · rename_i hlarge
    have hsplit : x / 10 ^ maxPower / 10 ^ (k - maxPower) = x / 10 ^ k := by
      rw [div_div, ← pow_add, Nat.add_sub_cancel' (by omega)]
    have hfirst : x / 10 ^ k ≤ x / 10 ^ maxPower :=
      div_le_div_of_nonneg_left hx.le (by positivity) (pow_le_pow_right₀ (by norm_num) (by omega))
    obtain ⟨hfinite, hnear⟩ := divide_near hp h (by decide) hx.le (Nat.le_refl _)
      (hall.trans (div_le_div_of_nonneg_right hfirst two_pos.le))
    have hrest : k - maxPower ≤ maxPower := by omega
    rw [if_neg (ne_zero_of_near h hx), shrink, if_pos hrest, ← hsplit]
    exact divide_near hfinite hnear (by decide) (by positivity) hrest (hsplit ▸ hall)

/-- A product with a power of ten is two roundings, that of the power and that of the product. -/
theorem grow?_near {taken : Nat} (h : Near 1 x (Format.double.amount p)) (hx : 1 ≤ x)
    (hgrow : grow? p k = some taken) :
    taken < Format.double.infinity ∧ Near 3 (x * 10 ^ k) (Format.double.amount taken) := by
  rw [grow?, if_neg (ne_zero_of_near h (lt_of_lt_of_le one_pos hx))] at hgrow
  split at hgrow
  · cases hgrow
  · rename_i hpower
    simp only at hgrow
    split at hgrow
    · rename_i hfinite
      rw [← Option.some.inj hgrow]
      have hten := ten_near (Nat.not_lt.mp hpower)
      have hpos : (1 : ℚ) ≤ 10 ^ k := one_le_pow₀ (by norm_num)
      have hproduct := h.mul hten (by linarith) (Format.amount_nonneg _) (by linarith)
        (Format.amount_nonneg _)
      have hhalf := hproduct.half_le (by decide)
        (mul_nonneg (Format.amount_nonneg _) (Format.amount_nonneg _))
      have hone : 1 / 2 ≤ x * 10 ^ k / 2 :=
        div_le_div_of_nonneg_right (one_le_mul_of_one_le_of_one_le hx hpos) two_pos.le
      have hnear := hproduct.trans (Format.times_near (least_le_half.trans (hone.trans hhalf)) hfinite)
      exact ⟨hfinite, hnear⟩
    · cases hgrow

/-! ### A whole number -/

/-- A word that is not made too small has not too many places. -/
theorem places_le {word k : Nat} (hword : word ≤ maxWord) (h : floor / 2 ≤ word / 10 ^ k) :
    k ≤ 2 * maxPower := by
  refine Nat.le_of_not_lt fun hmany => ?_
  have hdepth : (0 : ℚ) < depth := Nat.cast_pos.mpr depth_pos
  have hplaces : 10 ^ k ≤ 2 * maxWord * depth := by
    rw [floor, div_div, div_le_div_iff₀ (by positivity) (by positivity), one_mul] at h
    have hnat : 10 ^ k ≤ word * (depth * 2) := by exact_mod_cast h
    calc 10 ^ k ≤ word * (depth * 2) := hnat
      _ ≤ maxWord * (depth * 2) := Nat.mul_le_mul_right _ hword
      _ = 2 * maxWord * depth := by ring
  obtain ⟨-, -, -, -, hmost, -⟩ := fixed_sizes
  have hgrow : ∀ {j l : Nat}, j < l → Nat.pow 10 j ≤ 10 ^ l := fun hlt =>
    Nat.pow_le_pow_right (Nat.succ_pos 9) (Nat.le_of_lt hlt)
  exact absurd (Nat.le_trans (hgrow hmany) hplaces) (Nat.not_le.mpr hmost)

/-- **What is taken for a number differs from it by six roundings at most**, if the number is not too
small. -/
theorem double?_near {n : Literal} (hwhole : ∀ c ∈ n.whole, c.isDigit = true)
    (hpart : ∀ c ∈ n.part, c.isDigit = true) (hfloor : floor ≤ n.magnitude) {d : Double}
    (h : n.double? = some d) : d.negative = n.negative ∧ d.isFinite = true ∧
      Near 6 n.magnitude (Format.double.amount d.pattern) := by
  obtain ⟨hword, -⟩ := scaled_le hwhole
  have hscaled := scaled_near hwhole hpart
  have hmagnitude : 0 < n.magnitude := lt_of_lt_of_le floor_pos hfloor
  rw [double?] at h
  generalize n.scaled = split at *
  obtain ⟨word, power⟩ := split
  simp only at h hword hscaled
  have hten : (0 : ℚ) < 10 ^ power := zpow_pos (by norm_num) _
  have hhalf := hscaled.half_le (by decide) (mul_nonneg (Nat.cast_nonneg _) hten.le)
  have hpos : 0 < word := by
    refine Nat.pos_of_ne_zero fun hzero => ?_
    rw [hzero, Nat.cast_zero, zero_mul] at hhalf
    linarith
  obtain ⟨hfinite, hstart⟩ := ofNat_near hpos hword
  split at h
  · rename_i hpositive
    obtain ⟨k, rfl⟩ := Int.eq_ofNat_of_zero_le hpositive
    obtain ⟨taken, hgrow, rfl⟩ := Option.map_eq_some_iff.mp h
    rw [Int.toNat_natCast] at hgrow
    obtain ⟨htaken, hnear⟩ := grow?_near hstart (Nat.one_le_cast.mpr hpos) hgrow
    rw [zpow_natCast] at hscaled
    have hall := hscaled.trans hnear
    exact ⟨rfl, (Binary.isFinite_iff _).mpr htaken, hall.mono hmagnitude.le (Format.amount_nonneg _) (by decide)⟩
  · rename_i hnegative
    obtain ⟨k, rfl⟩ : ∃ k : Nat, power = -(k : Int) := ⟨(-power).toNat, by omega⟩
    rw [neg_neg, Int.toNat_natCast] at h
    obtain rfl := Option.some.inj h
    have hquotient : (word : ℚ) * 10 ^ (-(k : Int)) = word / 10 ^ k := by
      rw [zpow_neg, zpow_natCast, div_eq_mul_inv]
    rw [hquotient] at hscaled hhalf
    have hk : k ≤ 2 * maxPower := places_le hword (by linarith)
    have hall : Format.double.least ≤ word / 10 ^ k / 2 := by
      have hleast := least_le_floor
      generalize Format.double.least = least at *
      linarith
    obtain ⟨htaken, hnear⟩ := shrink_near hfinite hstart (Nat.cast_pos.mpr hpos) hk hall
    have hsix := hscaled.trans hnear
    exact ⟨rfl, (Binary.isFinite_iff _).mpr htaken, hsix⟩

/-! ### Small numbers -/

theorem shrink_le {p k : Nat} (hp : p < Format.double.infinity) : shrink p k ≤ p := by
  induction p, k using shrink.induct with
  | case1 p k hk =>
    rw [shrink, if_pos hk]
    exact Format.dividedBy_le hp (one_le_ten hk)
  | case2 k hk =>
    rw [shrink, if_neg hk, if_pos rfl]
  | case3 p k hk hpositive ih =>
    have hfirst := Format.dividedBy_le hp (one_le_ten (Nat.le_refl maxPower))
    rw [shrink, if_neg hk, if_neg hpositive]
    exact Nat.le_trans (ih (Nat.lt_of_le_of_lt hfirst hp)) hfirst

/-- With many places a number gets at least as small as by the first division. -/
theorem shrink_beyond {p k : Nat} (hp : p < Format.double.infinity) (hk : maxPower ≤ k) :
    shrink p k ≤ Format.double.dividedBy p (ten maxPower) := by
  have hfirst := Format.dividedBy_le hp (one_le_ten (Nat.le_refl maxPower))
  rw [shrink]
  split
  · rename_i hsmall
    rw [Nat.le_antisymm hsmall hk]
  · split
    · exact Nat.zero_le _
    · exact shrink_le (Nat.lt_of_le_of_lt hfirst hp)

theorem shrink_le_dust {word k : Nat} (hword : word ≤ maxWord) (hk : maxPower ≤ k) :
    shrink (Binary.ofNat .double false word).pattern k ≤ dust := by
  obtain ⟨hmax, -⟩ := fixed_sizes
  have hfraction : 0 < Format.double.fraction := by decide
  have hstart : (Binary.ofNat .double false word).pattern ≤ (Binary.ofNat .double false maxWord).pattern :=
    Format.nearest_mono hfraction Nat.one_pos (Nat.mul_le_mul_right _ hword)
  have hten := Nat.lt_of_lt_of_le Format.double.pow_scale_pos (one_le_ten (Nat.le_refl maxPower))
  exact Nat.le_trans (shrink_beyond (Nat.lt_of_le_of_lt hstart hmax) hk)
    (Format.nearest_mono hfraction hten
      (Nat.mul_le_mul_right _ (Format.double.units_strictMono.monotone hstart)))

theorem narrow_dust (negative : Bool) {p : Nat} (h : p ≤ dust) :
    (⟨negative, p⟩ : Double).narrow .single = ⟨negative, 0⟩ := by
  obtain ⟨-, -, -, -, -, hdust, hzero, -⟩ := fixed_sizes
  have hfraction : 0 < Format.single.fraction := by decide
  have hfinite : (⟨negative, p⟩ : Double).isFinite = true :=
    (Binary.isFinite_iff _).mpr (Nat.lt_of_le_of_lt h hdust)
  have hpos : ∀ k, 0 < Nat.pow 2 k := fun k => Nat.pow_pos (Nat.succ_pos 1)
  have hmono := Format.nearest_mono hfraction (hpos (Format.double.scale - Format.single.scale))
    (Format.double.units_strictMono.monotone h)
  rw [hzero, Nat.le_zero] at hmono
  rw [Binary.narrow, Binary.not_nan_of_finite hfinite, Binary.not_infinite_of_finite hfinite]
  simp only [Bool.false_eq_true, if_false, Binary.ofUnits, hmono]

/-- **A small number is zero in 32 bits.** -/
theorem double?_small {n : Literal} (hwhole : ∀ c ∈ n.whole, c.isDigit = true)
    (hsmall : n.magnitude < floor) {d : Double} (h : n.double? = some d) :
    d.narrow .single = ⟨n.negative, 0⟩ := by
  obtain ⟨hword, -⟩ := scaled_le hwhole
  have hvalue := lt_of_le_of_lt (scaled_le_magnitude hwhole) hsmall
  rw [double?] at h
  generalize n.scaled = split at *
  obtain ⟨word, power⟩ := split
  simp only at h hword hvalue
  have hnone : (Binary.ofNat .double false 0).pattern = 0 := by
    rw [Binary.ofNat, Binary.ofUnits, Nat.zero_mul, Format.nearest_zero]
  split at h
  · rename_i hpositive
    obtain ⟨k, rfl⟩ := Int.eq_ofNat_of_zero_le hpositive
    obtain ⟨taken, hgrow, rfl⟩ := Option.map_eq_some_iff.mp h
    -- a word would make at least one
    have hzero : word = 0 := by
      by_contra hne
      have hone : (1 : ℚ) ≤ word * 10 ^ (k : Int) := by
        rw [zpow_natCast]
        exact one_le_mul_of_one_le_of_one_le (Nat.one_le_cast.mpr (Nat.pos_of_ne_zero hne))
          (one_le_pow₀ (by norm_num))
      exact absurd (hone.trans_lt hvalue) floor_le_one.not_gt
    rw [hzero, hnone, grow?, if_pos rfl] at hgrow
    rw [← Option.some.inj hgrow]
    exact narrow_dust n.negative (Nat.zero_le _)
  · rename_i hnegative
    obtain ⟨k, rfl⟩ : ∃ k : Nat, power = -(k : Int) := ⟨(-power).toNat, by omega⟩
    rw [neg_neg, Int.toNat_natCast] at h
    obtain rfl := Option.some.inj h
    by_cases hzero : word = 0
    · have hshrink := shrink_le (p := 0) (k := k) (by decide)
      rw [hzero, hnone, Nat.le_zero.mp hshrink]
      exact narrow_dust n.negative (Nat.zero_le _)
    · refine narrow_dust n.negative (shrink_le_dust hword (Nat.le_of_not_lt fun hfew => ?_))
      have hplaces : (10 : ℚ) ^ k ≤ depth := by
        have hgrow : ∀ l, k ≤ l → 10 ^ k ≤ Nat.pow 10 l := fun l => Nat.pow_le_pow_right (Nat.succ_pos 9)
        have hnat : 10 ^ k ≤ depth := by
          unfold depth
          exact hgrow (maxPower - 1) (Nat.le_of_lt_succ hfew)
        exact_mod_cast hnat
      have hleast : floor ≤ word * 10 ^ (-(k : Int)) := by
        rw [zpow_neg, zpow_natCast, ← div_eq_mul_inv, floor]
        exact div_le_div₀ (Nat.cast_nonneg _) (Nat.one_le_cast.mpr (Nat.pos_of_ne_zero hzero))
          (by positivity) hplaces
      exact absurd hvalue hleast.not_gt

/-! ### 32 bits -/

/-- The value of a number with its sign. -/
def value (n : Literal) : ℚ := if n.negative then -n.magnitude else n.magnitude

/-- What is made of a number.  One with few digits and a small power of ten is rounded to 64 bits and
then to 32, and a word is rounded once.  Any other number becomes a 64-bit number that is near to it, and
this is rounded to 32 bits; only if it is very small it is simply zero.  Within the bound no number is
refused. -/
structure Taken (n : Literal) : Prop where
  few : n.digits ≤ Nat.pow 2 53 → -22 ≤ n.exponent → n.exponent ≤ 22 →
    n.single? = some (n.nearest.narrow .single)
  word : n.IsWord → n.single? = some (.ofNat .single n.negative n.digits)
  near : ¬ n.IsWord → floor ≤ n.magnitude → ∀ x, n.single? = some x →
    ∃ d : Double, d.isFinite = true ∧ |d.toRat - n.value| ≤ n.magnitude / 2 ^ 50 ∧ x = d.narrow .single
  small : ¬ n.IsWord → n.magnitude < floor → n.single? = some ⟨n.negative, 0⟩
  accepted : n.magnitude ≤ bound → n.single?.isSome = true

theorem single?_near {n : Literal} (hwhole : ∀ c ∈ n.whole, c.isDigit = true)
    (hpart : ∀ c ∈ n.part, c.isDigit = true) (hword : ¬ n.IsWord) (hfloor : floor ≤ n.magnitude)
    {x : Single} (h : n.single? = some x) :
    ∃ d : Double, d.isFinite = true ∧ |d.toRat - n.value| ≤ n.magnitude / 2 ^ 50 ∧
      x = d.narrow .single := by
  rw [single?_of_not_isWord hword] at h
  obtain ⟨d, hd, rfl⟩ := Option.map_eq_some_iff.mp h
  obtain ⟨hnegative, hfinite, hnear⟩ := double?_near hwhole hpart hfloor hd
  refine ⟨d, hfinite, ?_, rfl⟩
  have habs := hnear.abs_le (floor_pos.le.trans hfloor)
  rw [Format.toRat_eq_amount, value, hnegative]
  split
  · rwa [neg_sub_neg, abs_sub_comm]
  · exact habs

theorem single?_small {n : Literal} (hwhole : ∀ c ∈ n.whole, c.isDigit = true) (hword : ¬ n.IsWord)
    (hsmall : n.magnitude < floor) : n.single? = some ⟨n.negative, 0⟩ := by
  have hwithin : n.magnitude ≤ bound := by
    obtain ⟨-, -, -, -, -, -, -, hbound⟩ := fixed_sizes
    have hone : (1 : ℚ) ≤ bound := Nat.one_le_cast.mpr hbound
    exact hsmall.le.trans (floor_le_one.trans hone)
  obtain ⟨d, hd⟩ := Option.isSome_iff_exists.mp (double?_isSome hwhole hwithin)
  rw [single?_of_not_isWord hword, hd, Option.map_some, double?_small hwhole hsmall hd]

/-- **Every number is taken in this way.** -/
theorem taken_of_numeral {n : Literal} {cs : List Char} (hn : Numeral n cs) : n.Taken where
  few := single?_eq_nearest
  word := single?_of_isWord
  near := by
    obtain @⟨_, _, _, _, _, -, hwhole, -, hpart, -⟩ := hn
    exact fun hword hfloor x => single?_near hwhole hpart hword hfloor
  small := by
    obtain @⟨_, _, _, _, _, -, hwhole, -, -, -⟩ := hn
    exact single?_small hwhole
  accepted := single?_isSome hn

end Json.Literal

end ValidatorAlarm
