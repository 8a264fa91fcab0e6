import Mathlib.Algebra.Order.Field.Rat
import Mathlib.Data.Rat.Cast.Order
import Mathlib.Tactic.Linarith
import ValidatorAlarm.Json.Number
import ValidatorAlarm.Proofs.Json.Layout
import ValidatorAlarm.Proofs.Number.Rounding

/-!
# What is made of a number

A number of JSON has some digits and a power of ten.  As long as the digits make at most 2⁵³ and the
power lies between -22 and 22, both are numbers of 64 bits, and the product or quotient of them is
rounded once; so the result is the nearest 64-bit number.  Beyond that it is only near.

Digits that do not fit into a word of 64 bits are left out, which makes the number smaller, never
greater.  So a number that lies well within the range is never refused as too large.
-/
namespace ValidatorAlarm

open Number

/-! ### Exact factors -/

namespace Number.Format

variable {f : Format}

theorem nearest_mul_right (num den : Nat) {c : Nat} (hc : 0 < c) :
    f.nearest (num * c) (den * c) = f.nearest num den := by
  have hround : ∀ d, roundHalfEven (num * c) (d * c) = roundHalfEven num d := by
    intro d
    simp only [roundHalfEven, Nat.mul_div_mul_right _ _ hc, Nat.mul_mod_mul_right]
    have hhalf : 2 * (num % d * c) = 2 * (num % d) * c := by ring
    simp only [hhalf, Nat.mul_lt_mul_right hc]
  simp only [nearest, Nat.mul_div_mul_right _ _ hc]
  rw [Nat.mul_right_comm, hround]

theorem nearest_mul_self (num : Nat) {c : Nat} (hc : 0 < c) : f.nearest (num * c) c = f.nearest num 1 := by
  have h := nearest_mul_right (f := f) num 1 hc
  rwa [Nat.one_mul] at h

theorem pow_scale_pos (f : Format) : 0 < Nat.pow 2 f.scale := Nat.pow_pos (Nat.succ_pos 1)

/-- A whole number with no more digits than a significand is one of the format. -/
theorem exists_units (hscale : f.fraction ≤ f.scale) {n : Nat} (hpos : 0 < n)
    (hn : n ≤ 2 * Nat.pow 2 f.fraction) : ∃ p, f.units p = n * Nat.pow 2 f.scale := by
  -- the step of the binade is the one that makes the significand as long as it can be
  let j := f.fraction - n.log2
  have hlow : 2 ^ n.log2 ≤ n := Nat.log2_self_le (Nat.pos_iff_ne_zero.mp hpos)
  have hhigh : n < 2 ^ (n.log2 + 1) := Nat.lt_log2_self
  have hleast : Nat.pow 2 f.fraction ≤ n * Nat.pow 2 j :=
    calc Nat.pow 2 f.fraction ≤ 2 ^ (n.log2 + j) := Nat.pow_le_pow_right (by decide) (by omega)
      _ = 2 ^ n.log2 * 2 ^ j := Nat.pow_add ..
      _ ≤ n * Nat.pow 2 j := Nat.mul_le_mul_right _ hlow
  have hmost : n * Nat.pow 2 j ≤ 2 * Nat.pow 2 f.fraction := by
    by_cases hlog : n.log2 ≤ f.fraction
    · calc n * Nat.pow 2 j ≤ 2 ^ (n.log2 + 1) * 2 ^ j := Nat.mul_le_mul_right _ (Nat.le_of_lt hhigh)
        _ = 2 ^ (f.fraction + 1) := by rw [← Nat.pow_add]; congr 1; omega
        _ = 2 * Nat.pow 2 f.fraction := by rw [Nat.pow_succ, Nat.mul_comm]; rfl
    · have hj : j = 0 := by omega
      rw [hj]
      exact Nat.le_trans (Nat.le_of_eq (Nat.mul_one n)) hn
  refine ⟨(f.scale - j) * Nat.pow 2 f.fraction + n * Nat.pow 2 j, ?_⟩
  rw [f.units_binade (Or.inr hleast) hmost, Nat.mul_assoc, Nat.pow_eq, Nat.pow_eq, Nat.pow_eq,
    ← Nat.pow_add, Nat.add_sub_cancel' (by omega)]

end Number.Format

namespace Json.Literal

/-! ### The value of a number -/

/-- The digits of a number, without its point. -/
def digits (n : Literal) : Nat := decimalValue (n.whole ++ n.part)

theorem digits_toDigits (n : Nat) : digits ⟨false, Nat.toDigits 10 n, [], none⟩ = n := by
  rw [digits, List.append_nil]
  exact Nat.ofDigitChars_toDigits (by decide) (by decide)

/-- The power of ten that belongs to the digits. -/
def exponent (n : Literal) : Int := n.power.getD 0 - n.part.length

/-- The value of a number without its sign. -/
def magnitude (n : Literal) : ℚ := n.digits * 10 ^ n.exponent

/-- The 64-bit number nearest to a number. -/
def nearest (n : Literal) : Double := .ofDecimal .double n.negative n.digits n.exponent

/-- The value of digits that stand behind a word. -/
def behind (word : Nat) (cs : List Char) : Nat := cs.foldl (fun n c => 10 * n + (c.toNat - 48)) word

theorem behind_append (word : Nat) (cs cs' : List Char) :
    behind word (cs ++ cs') = behind (behind word cs) cs' := List.foldl_append ..

theorem le_behind (word : Nat) (cs : List Char) : word * 10 ^ cs.length ≤ behind word cs := by
  induction cs generalizing word with
  | nil => simp [behind]
  | cons c cs ih =>
    have h := ih (10 * word + (c.toNat - 48))
    calc word * 10 ^ (c :: cs).length
        = 10 * word * 10 ^ cs.length := by rw [List.length_cons, Nat.pow_succ]; ring
      _ ≤ (10 * word + (c.toNat - 48)) * 10 ^ cs.length := Nat.mul_le_mul_right _ (by omega)
      _ ≤ behind word (c :: cs) := h

theorem digit_le {c : Char} (h : c.isDigit = true) : c.toNat - 48 ≤ 9 := by
  simp only [Char.isDigit, Bool.and_eq_true, decide_eq_true_eq] at h
  have htop : c.toNat ≤ 57 := h.2
  omega

/-! ### Digits in a word -/

/-- Digits that fit are all taken up. -/
theorem takeUp_all {word : Nat} {cs : List Char} (h : behind word cs ≤ maxWord) :
    takeUp word cs = (behind word cs, []) := by
  induction cs generalizing word with
  | nil => rfl
  | cons c cs ih =>
    have hle := le_behind (10 * word + (c.toNat - 48)) cs
    have hpos : 0 < 10 ^ cs.length := Nat.pow_pos (by decide)
    have hfits : 10 * word + (c.toNat - 48) ≤ maxWord :=
      Nat.le_trans (Nat.le_mul_of_pos_right _ hpos) (Nat.le_trans hle h)
    rw [takeUp]
    simp only [if_pos hfits]
    exact ih h

/-- The digits that are taken up make the word, and the next one would not fit. -/
theorem takeUp_spec (word : Nat) (cs : List Char) (hword : word ≤ maxWord) :
    ∃ taken, cs = taken ++ (takeUp word cs).2 ∧ (takeUp word cs).1 = behind word taken ∧
      (takeUp word cs).1 ≤ maxWord ∧
      ∀ c ∈ (takeUp word cs).2.head?, maxWord < 10 * (takeUp word cs).1 + (c.toNat - 48) := by
  induction cs generalizing word with
  | nil => exact ⟨[], rfl, rfl, hword, nofun⟩
  | cons c cs ih =>
    rw [takeUp]
    split
    · rename_i hfits
      obtain ⟨taken, hcs, hmake, hmax, hnext⟩ := ih _ hfits
      exact ⟨c :: taken, congrArg (c :: ·) hcs, hmake, hmax, hnext⟩
    · rename_i hfull
      refine ⟨[], rfl, rfl, hword, ?_⟩
      intro c' hc'
      cases hc'
      omega

/-- A number whose digits fit is split into these and its power of ten. -/
theorem scaled_all {n : Literal} (h : n.digits ≤ maxWord) : n.scaled = (n.digits, n.exponent) := by
  have hsplit : n.digits = behind (behind 0 n.whole) n.part := behind_append 0 n.whole n.part
  have hwhole : behind 0 n.whole ≤ maxWord := by
    have hle := le_behind (behind 0 n.whole) n.part
    have hpos : 0 < 10 ^ n.part.length := Nat.pow_pos (by decide)
    exact Nat.le_trans (Nat.le_mul_of_pos_right _ hpos) (Nat.le_trans hle (hsplit ▸ h))
  rw [scaled, takeUp_all hwhole]
  simp only
  rw [takeUp_all (hsplit ▸ h), ← hsplit]
  simp only [exponent, List.length_nil, Nat.cast_zero, Prod.mk.injEq, true_and]
  omega

/-- Behind a digit that does not fit, at most one more digit fits, and only a smaller one. -/
theorem behind_full {word digit : Nat} {taken : List Char} (hdigit : digit ≤ 9)
    (hfull : maxWord < 10 * word + digit) (hfit : behind word taken ≤ maxWord) :
    behind word taken * 10 ≤ (10 * word + digit) * 10 ^ taken.length := by
  have hmax : maxWord = 18446744073709551615 := rfl
  match taken with
  | [] =>
    simp only [behind, List.foldl_nil, List.length_nil, Nat.pow_zero]
    omega
  | [c] =>
    simp only [behind, List.foldl_cons, List.foldl_nil, List.length_singleton, Nat.pow_one] at hfit ⊢
    omega
  | c :: d :: rest =>
    have hle : (10 * (10 * word + (c.toNat - 48)) + (d.toNat - 48)) * 10 ^ rest.length ≤ maxWord :=
      Nat.le_trans (le_behind _ rest) hfit
    have hpos : 0 < 10 ^ rest.length := Nat.pow_pos (by decide)
    have hmore := Nat.le_trans (Nat.le_mul_of_pos_right _ hpos) hle
    omega

/-- What is taken up of a number: digits of its whole part, then digits behind the point, as long as the word
fits.  The power of ten makes up for the places of those that are left out of the two rows. -/
theorem scaled_taken (n : Literal) : ∃ taken missed more dropped : List Char,
    n.whole = taken ++ missed ∧ n.part = more ++ dropped ∧
      n.scaled = (behind (behind 0 taken) more, n.exponent + (missed.length + dropped.length : Nat)) ∧
      n.digits = behind (behind (behind 0 taken) missed) (more ++ dropped) ∧
      behind (behind 0 taken) more ≤ maxWord ∧
      (∀ c ∈ missed.head?, maxWord < 10 * behind 0 taken + (c.toNat - 48)) ∧
      ∀ c ∈ dropped.head?, maxWord < 10 * behind (behind 0 taken) more + (c.toNat - 48) := by
  obtain ⟨taken, hwhole, hword, hfit, hfull⟩ := takeUp_spec 0 n.whole (Nat.zero_le _)
  obtain ⟨more, hpart, hword', hfit', hfull'⟩ := takeUp_spec (takeUp 0 n.whole).1 n.part hfit
  have hscaled : n.scaled = ((takeUp (takeUp 0 n.whole).1 n.part).1,
      (takeUp 0 n.whole).2.length + (takeUp (takeUp 0 n.whole).1 n.part).2.length - n.part.length +
        n.power.getD 0) := rfl
  have hdigits : n.digits = behind (behind 0 n.whole) n.part := behind_append 0 n.whole n.part
  have hboth := hword'.trans (congrArg (behind · more) hword)
  rw [hword] at hfull
  rw [hboth] at hscaled hfit' hfull'
  refine ⟨taken, (takeUp 0 n.whole).2, more, (takeUp (takeUp 0 n.whole).1 n.part).2, hwhole, hpart, ?_, ?_,
    hfit', hfull, hfull'⟩
  · rw [hscaled, Prod.mk.injEq]
    refine ⟨rfl, ?_⟩
    simp only [exponent]
    push_cast
    omega
  · have hfront : behind 0 n.whole = behind (behind 0 taken) (takeUp 0 n.whole).2 :=
      (congrArg (behind 0) hwhole).trans (behind_append 0 taken _)
    rw [hdigits, ← hpart, hfront]

/-- Leaving out digits makes a number smaller. -/
theorem scaled_le {n : Literal} (h : ∀ c ∈ n.whole, c.isDigit = true) :
    n.scaled.1 ≤ maxWord ∧ ∃ left : Nat, n.scaled.2 = n.exponent + left ∧
      n.scaled.1 * 10 ^ left ≤ n.digits := by
  obtain ⟨taken, missed, more, dropped, hwhole, -, hscaled, hdigits, hfit, hfull, -⟩ := n.scaled_taken
  rw [hscaled, hdigits]
  refine ⟨hfit, missed.length + dropped.length, rfl, ?_⟩
  generalize behind 0 taken = word at hfit hfull ⊢
  cases missed with
  | nil =>
    calc behind word more * 10 ^ (([] : List Char).length + dropped.length)
        = behind word more * 10 ^ dropped.length := by rw [List.length_nil, Nat.zero_add]
      _ ≤ behind (behind word more) dropped := le_behind _ _
      _ = behind word (more ++ dropped) := (behind_append word more dropped).symm
  | cons c missed =>
    have hdigit := digit_le (h c (by rw [hwhole]; exact List.mem_append_right _ List.mem_cons_self))
    have hone := behind_full hdigit (hfull c rfl) hfit
    calc behind word more * 10 ^ ((c :: missed).length + dropped.length)
        = behind word more * 10 * 10 ^ (missed.length + dropped.length) := by
          rw [List.length_cons, Nat.add_right_comm, Nat.pow_succ]
          ring
      _ ≤ (10 * word + (c.toNat - 48)) * 10 ^ more.length * 10 ^ (missed.length + dropped.length) :=
          Nat.mul_le_mul_right _ hone
      _ = (10 * word + (c.toNat - 48)) * 10 ^ missed.length * 10 ^ (more ++ dropped).length := by
          rw [List.length_append]
          ring
      _ ≤ behind word (c :: missed) * 10 ^ (more ++ dropped).length :=
          Nat.mul_le_mul_right _ (le_behind (10 * word + (c.toNat - 48)) missed)
      _ ≤ behind (behind word (c :: missed)) (more ++ dropped) := le_behind _ _

/-! ### Sizes -/

/-- A little less than the greatest 64-bit number. -/
def bound : Nat := 17976931348623156 * Nat.pow 10 292

/-- The greatest word that stays within the bound if it is multiplied with a power of ten. -/
def wordWithin (power : Nat) : Nat := min maxWord (bound / Nat.pow 10 power)

/-- How large 64-bit numbers are: small powers of ten are among them, and finite are the words with few
digits, also with a small power of ten, and the largest products of a word and a power of ten that stay
within the bound. -/
theorem sizes :
    (∀ power < 23,
      Format.double.units (ten power) = Nat.pow 10 power * Nat.pow 2 Format.double.scale) ∧
    Nat.pow 2 53 * Nat.pow 2 Format.double.scale < Format.double.units Format.double.infinity ∧
    Format.double.nearest (Nat.pow 2 53 * Nat.pow 10 22 * Nat.pow 2 Format.double.scale) 1 <
      Format.double.infinity ∧
    Format.double.times (Binary.ofNat .double false maxWord).pattern (ten 288) <
      Format.double.infinity ∧
    (∀ i < 20, Format.double.times (Binary.ofNat .double false (wordWithin (289 + i))).pattern
      (ten (289 + i)) < Format.double.infinity) ∧
    bound < Nat.pow 10 (maxPower + 1) := by
  decide +kernel

/-! ### The nearest number -/

/-- Small whole numbers are 64-bit numbers. -/
theorem units_ofNat {n : Nat} (hn : n ≤ Nat.pow 2 53) :
    (Binary.ofNat .double false n).pattern < Format.double.infinity ∧
      Format.double.units (Binary.ofNat .double false n).pattern =
        n * Nat.pow 2 Format.double.scale := by
  by_cases hzero : n = 0
  · rw [hzero, Binary.ofNat, Binary.ofUnits, Nat.zero_mul, Format.nearest_zero]
    exact ⟨by decide, (Format.double.units_eq_zero 0).mpr rfl⟩
  · obtain ⟨p, hp⟩ := Format.exists_units (f := .double) (by decide) (Nat.pos_of_ne_zero hzero) hn
    have hfinite : p < Format.double.infinity := by
      refine Format.double.units_strictMono.lt_iff_lt.mp ?_
      rw [hp]
      obtain ⟨-, htop, -⟩ := sizes
      exact Nat.lt_of_le_of_lt (Nat.mul_le_mul_right _ hn) htop
    rw [Binary.ofNat, Binary.ofUnits, ← hp, Format.nearest_units (by decide) hfinite]
    exact ⟨hfinite, rfl⟩

/-- So are small powers of ten. -/
theorem units_ten {power : Nat} (h : power ≤ 22) :
    Format.double.units (ten power) = Nat.pow 10 power * Nat.pow 2 Format.double.scale :=
  sizes.1 power (by omega)

theorem nearest_of_nonneg {n : Literal} (hlow : 0 ≤ n.exponent) (hhigh : n.exponent ≤ 22) :
    n.nearest = ⟨n.negative, Format.double.nearest
      (n.digits * Nat.pow 10 n.exponent.toNat * Nat.pow 2 Format.double.scale) 1⟩ := by
  rw [nearest, Binary.ofDecimal]
  split
  · rename_i hzero
    rw [hzero, Nat.zero_mul, Nat.zero_mul, Format.nearest_zero]
  · have hnear : ¬ n.exponent.toNat > Format.double.scale :=
      Nat.not_lt.mpr (Nat.le_trans (show n.exponent.toNat ≤ 22 by omega) (by decide))
    rw [if_neg hnear]
    rfl

theorem nearest_of_neg {n : Literal} (hlow : -22 ≤ n.exponent) (hhigh : n.exponent < 0) :
    n.nearest = ⟨n.negative, Format.double.nearest (n.digits * Nat.pow 2 Format.double.scale)
      (Nat.pow 10 (-n.exponent).toNat)⟩ := by
  rw [nearest, Binary.ofDecimal]
  split
  · rename_i hzero
    rw [hzero, Nat.zero_mul, Format.nearest_zero]
  · have hnear : ¬ (-n.exponent).toNat > Format.double.scale + n.digits.log2 :=
      Nat.not_lt.mpr (Nat.le_trans (Nat.le_trans (show (-n.exponent).toNat ≤ 22 by omega)
        (show 22 ≤ Format.double.scale by decide)) (Nat.le_add_right _ _))
    rw [if_neg (Int.not_le.mpr hhigh)]
    simp only [if_neg hnear]
    rfl

/-- **Few digits with a small power of ten are read as the nearest number.** -/
theorem double?_eq_nearest {n : Literal} (hdigits : n.digits ≤ Nat.pow 2 53) (hlow : -22 ≤ n.exponent)
    (hhigh : n.exponent ≤ 22) : n.double? = some n.nearest := by
  have hword : n.digits ≤ maxWord := Nat.le_trans hdigits (by decide)
  have hscale := Format.double.pow_scale_pos
  have hstart : Format.double.units (Binary.ofNat .double false n.digits).pattern =
      n.digits * Nat.pow 2 Format.double.scale := (units_ofNat hdigits).2
  rw [double?, scaled_all hword]
  simp only
  split
  · rename_i hpositive
    have hpower : n.exponent.toNat ≤ 22 := by omega
    have hproduct : Format.double.times (Binary.ofNat .double false n.digits).pattern
        (ten n.exponent.toNat) = Format.double.nearest
          (n.digits * Nat.pow 10 n.exponent.toNat * Nat.pow 2 Format.double.scale) 1 := by
      have hswap : ∀ d s t : Nat, d * s * (t * s) = d * t * s * s := fun d s t => by ring
      rw [Format.times, hstart, units_ten hpower, ← Format.nearest_mul_right _ 1 hscale, Nat.one_mul,
        hswap]
    have hfinite : Format.double.nearest
        (n.digits * Nat.pow 10 n.exponent.toNat * Nat.pow 2 Format.double.scale) 1 <
          Format.double.infinity := by
      have hmost : ∀ scale, n.digits * Nat.pow 10 n.exponent.toNat * scale ≤
          Nat.pow 2 53 * Nat.pow 10 22 * scale := fun scale =>
        Nat.mul_le_mul_right scale (Nat.mul_le_mul hdigits (Nat.pow_le_pow_right (by decide) hpower))
      obtain ⟨-, -, htop, -⟩ := sizes
      have hfraction : 0 < Format.double.fraction := by decide
      exact Nat.lt_of_le_of_lt (Format.nearest_mono hfraction Nat.one_pos (hmost _)) htop
    rw [nearest_of_nonneg hpositive hhigh, grow?]
    split
    · rename_i hzero
      have hdigits : n.digits * Nat.pow 2 Format.double.scale = 0 := by
        rw [← hstart, hzero]
        exact (Format.double.units_eq_zero 0).mpr rfl
      have hnone : n.digits = 0 := by
        rcases Nat.mul_eq_zero.mp hdigits with h | h
        · exact h
        · omega
      rw [hnone, Nat.zero_mul, Nat.zero_mul, Format.nearest_zero]
      rfl
    · rw [if_neg (Nat.not_lt.mpr (Nat.le_trans hpower (by decide))), hproduct]
      simp only [if_pos hfinite, Option.map_some]
  · rename_i hnegative
    have hplaces : (-n.exponent).toNat ≤ 22 := by omega
    have hquotient : shrink (Binary.ofNat .double false n.digits).pattern (-n.exponent).toNat =
        Format.double.nearest (n.digits * Nat.pow 2 Format.double.scale)
          (Nat.pow 10 (-n.exponent).toNat) := by
      rw [shrink, if_pos (Nat.le_trans hplaces (by decide)), Format.dividedBy, hstart,
        units_ten hplaces, Format.nearest_mul_right _ _ hscale]
    rw [hquotient, nearest_of_neg hlow (by omega)]

/-! ### Numbers within the range -/

/-- A greater word or a greater power of ten does not make a smaller product. -/
theorem times_mono {word word' pattern pattern' : Nat} (hword : word ≤ word')
    (hpattern : pattern ≤ pattern') :
    Format.double.times (Binary.ofNat .double false word).pattern pattern ≤
      Format.double.times (Binary.ofNat .double false word').pattern pattern' := by
  have hfraction : 0 < Format.double.fraction := by decide
  have hstart : (Binary.ofNat .double false word).pattern ≤
      (Binary.ofNat .double false word').pattern :=
    Format.nearest_mono hfraction Nat.one_pos (Nat.mul_le_mul_right _ hword)
  have hunits := Format.double.units_strictMono.monotone
  exact Format.nearest_mono hfraction Format.double.pow_scale_pos
    (Nat.mul_le_mul (hunits hstart) (hunits hpattern))

theorem ten_eq {power : Nat} (h : power ≤ maxPower) : ten power =
    Format.double.nearest (1 * Nat.pow 10 power * Nat.pow 2 Format.double.scale) 1 := by
  have hnear : ¬ (power : Int).toNat > Format.double.scale :=
    Nat.not_lt.mpr (Nat.le_trans h (by decide))
  rw [ten, Binary.ofDecimal, if_neg Nat.one_ne_zero, if_pos (Int.natCast_nonneg power), if_neg hnear]
  rfl

theorem ten_mono {power power' : Nat} (h : power ≤ power') (hpower : power' ≤ maxPower) :
    ten power ≤ ten power' := by
  have hfraction : 0 < Format.double.fraction := by decide
  rw [ten_eq (Nat.le_trans h hpower), ten_eq hpower]
  exact Format.nearest_mono hfraction Nat.one_pos
    (Nat.mul_le_mul_right _ (Nat.mul_le_mul_left 1 (Nat.pow_le_pow_right (by decide) h)))

/-- Up to 10²⁸⁸ no word gets too large, and beyond that the greatest one within the bound does not. -/
theorem times_wordWithin {power : Nat} (h : power ≤ maxPower) :
    Format.double.times (Binary.ofNat .double false (wordWithin power)).pattern (ten power) <
      Format.double.infinity := by
  obtain ⟨-, -, -, hfinite, hall, -⟩ := sizes
  by_cases hsmall : power ≤ 288
  · have hmono := times_mono (Nat.min_le_left maxWord (bound / Nat.pow 10 power))
      (ten_mono hsmall (by decide))
    exact Nat.lt_of_le_of_lt hmono hfinite
  · have htop : maxPower = 308 := rfl
    have hlarge := hall (power - 289) (by omega)
    rwa [Nat.add_sub_cancel' (show 289 ≤ power by omega)] at hlarge

theorem grow?_isSome {word power : Nat} (hword : word ≤ maxWord)
    (h : word * Nat.pow 10 power ≤ bound) :
    (grow? (Binary.ofNat .double false word).pattern power).isSome := by
  rw [grow?]
  split
  · rfl
  · rename_i hstart
    have hpos : 0 < word := by
      refine Nat.pos_of_ne_zero fun hzero => hstart ?_
      rw [hzero, Binary.ofNat, Binary.ofUnits, Nat.zero_mul, Format.nearest_zero]
    have hpower : power ≤ maxPower := by
      refine Nat.le_of_not_lt fun hbeyond => ?_
      have hgrow : ∀ {p q : Nat}, p ≤ q → Nat.pow 10 p ≤ Nat.pow 10 q :=
        Nat.pow_le_pow_right (Nat.succ_pos 9)
      have hleast : Nat.pow 10 (maxPower + 1) ≤ word * Nat.pow 10 power :=
        Nat.le_trans (hgrow hbeyond) (Nat.le_mul_of_pos_left _ hpos)
      obtain ⟨-, -, -, -, -, htop⟩ := sizes
      exact absurd (Nat.le_trans hleast h) (Nat.not_le.mpr htop)
    have hwithin : word ≤ wordWithin power :=
      Nat.le_min.mpr ⟨hword, (Nat.le_div_iff_mul_le (Nat.pow_pos (Nat.succ_pos 9))).mpr h⟩
    have hfinite := Nat.lt_of_le_of_lt (times_mono hwithin (Nat.le_refl _)) (times_wordWithin hpower)
    rw [if_neg (Nat.not_lt.mpr hpower)]
    simp only [if_pos hfinite, Option.isSome_some]

/-- The value of the word and its power of ten, if some digits have been left out. -/
theorem scaled_value {n : Literal} {left : Nat} (hpower : n.scaled.2 = n.exponent + left) :
    (n.scaled.1 : ℚ) * 10 ^ n.scaled.2 = (n.scaled.1 * 10 ^ left : Nat) * 10 ^ n.exponent := by
  rw [hpower, zpow_add₀ (by norm_num), zpow_natCast]
  push_cast
  ring

theorem scaled_le_magnitude {n : Literal} (hwhole : ∀ c ∈ n.whole, c.isDigit = true) :
    n.scaled.1 * 10 ^ n.scaled.2 ≤ n.magnitude := by
  obtain ⟨-, left, hpower, hdigits⟩ := scaled_le hwhole
  have hcast : ((n.scaled.1 * 10 ^ left : Nat) : ℚ) ≤ n.digits := Nat.cast_le.mpr hdigits
  rw [scaled_value hpower]
  exact mul_le_mul_of_nonneg_right hcast (zpow_nonneg (by norm_num) _)

/-- **A number that does not get beyond the bound is not refused.** -/
theorem double?_isSome {n : Literal} (hwhole : ∀ c ∈ n.whole, c.isDigit = true)
    (h : n.magnitude ≤ bound) : n.double?.isSome := by
  obtain ⟨hword, -⟩ := scaled_le hwhole
  have hvalue := (scaled_le_magnitude hwhole).trans h
  rw [double?]
  generalize n.scaled = split at *
  obtain ⟨word, power⟩ := split
  simp only at hword hvalue ⊢
  split
  · rename_i hpositive
    have hnat : word * Nat.pow 10 power.toNat ≤ bound := by
      obtain ⟨k, rfl⟩ := Int.eq_ofNat_of_zero_le hpositive
      rw [zpow_natCast] at hvalue
      exact_mod_cast hvalue
    rw [Option.isSome_map]
    exact grow?_isSome hword hnat
  · rfl

/-! ### 32 bits -/

/-- A whole number of at most 64 bits, without point and exponent.  Minus zero is none. -/
def IsWord (n : Literal) : Prop :=
  n.isInteger = true ∧ if n.negative then 1 ≤ n.digits ∧ n.digits ≤ Nat.pow 2 63 else n.digits ≤ maxWord

theorem digits_of_isInteger {n : Literal} (h : n.isInteger = true) :
    n.digits = decimalValue n.whole ∧ n.exponent = 0 := by
  obtain ⟨negative, whole, part, power⟩ := n
  simp only [isInteger, Bool.and_eq_true, List.isEmpty_iff, Option.isNone_iff_eq_none] at h
  obtain ⟨rfl, rfl⟩ := h
  simp [digits, exponent]

/-- A word is rounded once, to 32 bits. -/
theorem single?_of_isWord {n : Literal} (h : n.IsWord) :
    n.single? = some (.ofNat .single n.negative n.digits) := by
  obtain ⟨hinteger, hword⟩ := h
  obtain ⟨hdigits, -⟩ := digits_of_isInteger hinteger
  rw [hdigits] at hword ⊢
  have hwhole : n.wholeNumber? =
      some (if n.negative then -(decimalValue n.whole : Int) else decimalValue n.whole) := by
    rw [wholeNumber?]
    cases hnegative : n.negative <;> simp_all
  rw [single?, hwhole]
  cases hnegative : n.negative with
  | false =>
    simp only [Bool.false_eq_true, if_false, Int.natAbs_natCast]
    rw [decide_eq_false (Int.not_lt.mpr (Int.natCast_nonneg _))]
  | true =>
    rw [hnegative, if_pos rfl] at hword
    simp only [if_true, Int.natAbs_neg, Int.natAbs_natCast]
    rw [decide_eq_true (show -(decimalValue n.whole : Int) < 0 by omega)]

/-- Any other number is rounded to 64 bits and then to 32. -/
theorem single?_of_not_isWord {n : Literal} (h : ¬ n.IsWord) :
    n.single? = n.double?.map (·.narrow .single) := by
  have hwhole : n.wholeNumber? = none := by
    rw [wholeNumber?]
    by_cases hinteger : n.isInteger = true
    · obtain ⟨hdigits, -⟩ := digits_of_isInteger hinteger
      rw [IsWord, hdigits] at h
      cases hnegative : n.negative <;> simp_all
    · simp [hinteger]
  rw [single?, hwhole]

/-- To round a small whole number to 64 bits first makes no difference. -/
theorem narrow_ofNat (negative : Bool) {n : Nat} (hn : n ≤ Nat.pow 2 53) :
    (⟨negative, (Binary.ofNat .double false n).pattern⟩ : Double).narrow .single =
      .ofNat .single negative n := by
  obtain ⟨hfinite, hunits⟩ := units_ofNat hn
  have hordinary : (⟨negative, (Binary.ofNat .double false n).pattern⟩ : Double).isFinite = true :=
    (Binary.isFinite_iff _).mpr hfinite
  have hscale : n * Nat.pow 2 Format.double.scale = n * Nat.pow 2 Format.single.scale *
      Nat.pow 2 (Format.double.scale - Format.single.scale) := by
    have hsplit : ∀ s t : Nat, t ≤ s → n * Nat.pow 2 s = n * Nat.pow 2 t * Nat.pow 2 (s - t) := by
      intro s t hle
      rw [Nat.mul_assoc, Nat.pow_eq, Nat.pow_eq, Nat.pow_eq, ← Nat.pow_add, Nat.add_sub_cancel' hle]
    exact hsplit Format.double.scale Format.single.scale (by decide)
  have hpos : ∀ k, 0 < Nat.pow 2 k := fun k => Nat.pow_pos (Nat.succ_pos 1)
  have hround := Format.nearest_mul_self (f := .single) (n * Nat.pow 2 Format.single.scale)
    (hpos (Format.double.scale - Format.single.scale))
  rw [Binary.narrow, Binary.not_nan_of_finite hordinary, Binary.not_infinite_of_finite hordinary,
    hunits, hscale]
  simp only [Bool.false_eq_true, if_false, Binary.ofUnits, Binary.ofNat, hround]

/-- **Few digits with a small power of ten are rounded to 64 bits, then to 32.**  For whole numbers of
this kind the first step changes nothing. -/
theorem single?_eq_nearest {n : Literal} (hdigits : n.digits ≤ Nat.pow 2 53) (hlow : -22 ≤ n.exponent)
    (hhigh : n.exponent ≤ 22) : n.single? = some (n.nearest.narrow .single) := by
  by_cases hword : n.IsWord
  · have hexponent := (digits_of_isInteger hword.1).2
    have hnearest : n.nearest = ⟨n.negative, (Binary.ofNat .double false n.digits).pattern⟩ := by
      have hone : n.digits * Nat.pow 10 (0 : Int).toNat = n.digits := Nat.mul_one _
      rw [nearest_of_nonneg (Int.le_of_eq hexponent.symm) hhigh, hexponent, hone]
      rfl
    rw [single?_of_isWord hword, hnearest, narrow_ofNat n.negative hdigits]
  · rw [single?_of_not_isWord hword, double?_eq_nearest hdigits hlow hhigh]
    rfl

/-- A number within the bound is taken. -/
theorem single?_isSome {n : Literal} {cs : List Char} (hn : Numeral n cs) (h : n.magnitude ≤ bound) :
    n.single?.isSome := by
  by_cases hword : n.IsWord
  · rw [single?_of_isWord hword]
    rfl
  · obtain @⟨_, _, _, _, _, -, hwhole, -, -, -⟩ := hn
    rw [single?_of_not_isWord hword, Option.isSome_map]
    exact double?_isSome hwhole h

end Json.Literal

end ValidatorAlarm
