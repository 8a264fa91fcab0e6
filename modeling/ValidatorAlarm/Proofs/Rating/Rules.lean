import ValidatorAlarm.Proofs.Monitor.Listings
import ValidatorAlarm.Proofs.Number.Exact

/-!
# The rules about ratings

A temporary rating below 10 raises the alarm of an imminent jail.  Otherwise the alarm of a drop is
raised unless the temporary rating is not below the settled one, or is above it together with the
tolerance.  The sum in this rule is rounded, so that the rule differs from the one about the exact
numbers: no drop of the tolerance or more is missed, and what is reported as a drop falls short of the
tolerance by half the step of the settled rating at most.
-/
namespace ValidatorAlarm

open Number

/-! ### Tolerances -/

theorem tolerance?_spec {configured : Double} {tolerance : Single}
    (h : tolerance? configured = .ok tolerance) :
    Binary.zero.le configured = true ∧ configured.le maxTolerance = true ∧
      tolerance = configured.narrow .single := by
  rw [tolerance?] at h
  split at h
  · rename_i hrange
    rw [Bool.and_eq_true] at hrange
    cases h
    exact ⟨hrange.1, hrange.2, rfl⟩
  · cases h

/-- The greatest tolerance is an ordinary number in both formats. -/
theorem maxTolerance_finite : maxTolerance.position < Format.double.infinity ∧
    maxTolerance.isFinite = true ∧ ((Binary.zero : Double).narrow .single).position = 0 ∧
    (maxTolerance.narrow .single).position < Format.single.infinity := by
  decide +kernel

/-- What is accepted as a tolerance is an ordinary number of the wider format. -/
theorem configured_finite {configured : Double} (hzero : Binary.zero.le configured = true)
    (hmost : configured.le maxTolerance = true) : configured.isFinite = true := by
  rw [Binary.le_iff_position] at hzero hmost
  obtain ⟨-, -, hlow⟩ := hzero
  obtain ⟨-, -, hhigh⟩ := hmost
  have hmax := maxTolerance_finite.1
  have hleast : (Binary.zero : Double).position = 0 := by decide
  have hpattern := configured.natAbs_position
  rw [Binary.isFinite_iff]
  omega

theorem tolerance_finite {configured : Double} {tolerance : Single}
    (h : tolerance? configured = .ok tolerance) : tolerance.isFinite = true := by
  obtain ⟨hzero, hmost, rfl⟩ := tolerance?_spec h
  obtain ⟨-, hmaxFinite, hleast, hmax⟩ := maxTolerance_finite
  have hfinite := configured_finite hzero hmost
  have hlow := Binary.narrow_position_mono (g := .single) (by decide) (by decide) hfinite
    ((Binary.le_iff_position _ _).mp hzero).2.2
  have hhigh := Binary.narrow_position_mono (g := .single) (by decide) hfinite hmaxFinite
    ((Binary.le_iff_position _ _).mp hmost).2.2
  have hpattern := (configured.narrow .single).natAbs_position
  rw [Binary.isFinite_iff]
  omega

theorem jailRating_finite : jailRating.isFinite = true := by decide

theorem jailRating_toRat : jailRating.toRat = 10 := by
  have hvalue : jailRating.value = 10 * (Nat.pow 2 Format.single.scale : Nat) := by decide
  rw [Binary.toRat, hvalue, Int.cast_mul, Int.cast_natCast]
  exact mul_div_cancel_right₀ 10 (ne_of_gt (Binary.scale_pos .single))

/-! ### Alarms -/

namespace Rating

/-- The temporary rating has dropped below the settled one by the tolerance, as far as the rounded sum
tells. -/
structure HasDropped (tolerance : Single) (r : Rating) : Prop where
  below : r.settled.le r.temporary = false
  far : r.settled.lt (r.temporary.add tolerance) = false

/-- The three ways in which the rules about a rating end. -/
theorem alarm?_cases (tolerance : Single) (r : Rating) :
    (r.temporary.lt jailRating = true ∧ r.alarm? tolerance = some (.jail r)) ∨
      (r.temporary.lt jailRating = false ∧ r.HasDropped tolerance ∧
        r.alarm? tolerance = some (.drop r)) ∨
      (r.temporary.lt jailRating = false ∧ ¬ r.HasDropped tolerance ∧ r.alarm? tolerance = none) := by
  rw [alarm?]
  split_ifs with hjail hbelow hfar
  · exact Or.inl ⟨hjail, rfl⟩
  · refine Or.inr (Or.inr ⟨eq_false_of_ne_true hjail, ?_, rfl⟩)
    intro hdropped
    rw [hdropped.below] at hbelow
    cases hbelow
  · refine Or.inr (Or.inr ⟨eq_false_of_ne_true hjail, ?_, rfl⟩)
    intro hdropped
    rw [hdropped.far] at hfar
    cases hfar
  · exact Or.inr (Or.inl
      ⟨eq_false_of_ne_true hjail, ⟨eq_false_of_ne_true hbelow, eq_false_of_ne_true hfar⟩, rfl⟩)

variable {tolerance : Single} {r : Rating}

theorem alarm?_of_lt (h : r.temporary.lt jailRating = true) :
    r.alarm? tolerance = some (.jail r) := by
  rw [alarm?, if_pos h]

theorem alarm?_eq_drop_iff :
    r.alarm? tolerance = some (.drop r) ↔
      r.temporary.lt jailRating = false ∧ r.HasDropped tolerance := by
  rcases r.alarm?_cases tolerance with ⟨hjail, halarm⟩ | ⟨hjail, hdropped, halarm⟩ |
    ⟨hjail, hdropped, halarm⟩
  · simp [hjail, halarm]
  · simp [hjail, hdropped, halarm]
  · simp [hdropped, halarm]

theorem alarm?_of_le (hjail : jailRating.le r.temporary = true)
    (hbelow : r.settled.le r.temporary = true) : r.alarm? tolerance = none := by
  have hhigh : r.temporary.lt jailRating = false := by
    rw [Binary.le_iff_position] at hjail
    rw [← Bool.not_eq_true, Binary.lt_iff_position]
    omega
  rw [alarm?, if_neg (by simp [hhigh]), if_pos hbelow]

/-- Among ordinary numbers the rule about drops depends on their positions alone. -/
theorem hasDropped_iff (ht : r.temporary.isFinite = true) (hr : r.settled.isNaN = false)
    (htolerance : tolerance.isFinite = true) :
    r.HasDropped tolerance ↔ r.temporary.position < r.settled.position ∧
      (r.temporary.add tolerance).position ≤ r.settled.position := by
  have hsum := (Binary.position_add ht htolerance).1
  have hbelow : r.settled.le r.temporary = false ↔
      r.temporary.position < r.settled.position := by
    rw [← Bool.not_eq_true, Binary.le_iff_position]
    simp [hr, Binary.not_nan_of_finite ht]
  have hfar : r.settled.lt (r.temporary.add tolerance) = false ↔
      (r.temporary.add tolerance).position ≤ r.settled.position := by
    rw [← Bool.not_eq_true, Binary.lt_iff_position]
    simp [hr, hsum]
  rw [← hbelow, ← hfar]
  exact ⟨fun h => ⟨h.below, h.far⟩, fun h => ⟨h.1, h.2⟩⟩

end Rating

/-! ### Problems -/

section Problems

variable {tolerance : Single} {keys extra : List String} {snapshot : Snapshot} {key : String}
  {rating : Rating}

theorem problem?_rated (hkey : key ≠ "") (hrated : snapshot.get? key = some rating) :
    problem? tolerance snapshot key = (rating.alarm? tolerance).map (⟨key, ·⟩) := by
  rw [problem?, if_neg hkey, hrated]
  rfl

theorem mem_findProblems (hkey : key ≠ "") (hlisted : key ∈ keys ++ extra)
    (hrated : snapshot.get? key = some rating) (alarm : Alarm) :
    ⟨key, alarm⟩ ∈ findProblems tolerance keys snapshot extra ↔
      rating.alarm? tolerance = some alarm := by
  have hproblem : problem? tolerance snapshot key = _ := problem?_rated hkey hrated
  rw [findProblems, List.mem_filterMap]
  constructor
  · rintro ⟨other, -, hother⟩
    obtain rfl : key = other := problem?_key hother
    rw [hproblem] at hother
    obtain ⟨found, hfound, hsame⟩ := Option.map_eq_some_iff.mp hother
    cases hsame
    exact hfound
  · intro halarm
    exact ⟨key, hlisted, by rw [hproblem, halarm]; rfl⟩

theorem not_mem_findProblems (hkey : key ≠ "") (hrated : snapshot.get? key = some rating)
    (h : rating.alarm? tolerance = none) :
    ∀ problem ∈ findProblems tolerance keys snapshot extra, problem.key ≠ key := by
  rintro problem hproblem rfl
  rw [findProblems, List.mem_filterMap] at hproblem
  obtain ⟨other, -, hother⟩ := hproblem
  obtain rfl : problem.key = other := problem?_key hother
  rw [problem?_rated hkey hrated, h] at hother
  cases hother

end Problems

/-- **No drop is missed to rounding.**  Take any accepted tolerance and a key that is monitored and
rated.  Below 10 its temporary rating raises the alarm of an imminent jail, whatever the settled
rating and the tolerance are; from 10 on, and not below the settled rating, it raises none.

If both ratings are ordinary numbers and the temporary one is at least 10, then a drop by the
tolerance or more is reported, in exact numbers; and if a drop is reported, then the temporary rating
with the tolerance lies no further above the settled rating than the middle between this and the next
larger number. -/
theorem drops_reported_up_to_rounding {configured : Double} {tolerance : Single}
    (htolerance : tolerance? configured = .ok tolerance) {keys extra : List String}
    {snapshot : Snapshot} {key : String} {rating : Rating} (hkey : key ≠ "")
    (hlisted : key ∈ keys ++ extra) (hrated : snapshot.get? key = some rating) :
    let problems := findProblems tolerance keys snapshot extra
    let t := rating.temporary
    let r := rating.settled
    (t.lt jailRating = true → ⟨key, .jail rating⟩ ∈ problems) ∧
    (jailRating.le t = true → r.le t = true → ∀ problem ∈ problems, problem.key ≠ key) ∧
    (t.isFinite = true → t.toRat < 10 → ⟨key, .jail rating⟩ ∈ problems) ∧
    (t.isFinite = true → r.isFinite = true → 10 ≤ t.toRat →
      (t.toRat < r.toRat → t.toRat + tolerance.toRat ≤ r.toRat → ⟨key, .drop rating⟩ ∈ problems) ∧
      (⟨key, .drop rating⟩ ∈ problems →
        t.toRat < r.toRat ∧ t.toRat + tolerance.toRat ≤ (r.toRat + r.next.toRat) / 2) ∧
      (r.toRat ≤ t.toRat → ∀ problem ∈ problems, problem.key ≠ key)) := by
  intro problems t r
  have hmem : ∀ alarm, ⟨key, alarm⟩ ∈ problems ↔ rating.alarm? tolerance = some alarm :=
    mem_findProblems hkey hlisted hrated
  have hjail : t.lt jailRating = true → ⟨key, .jail rating⟩ ∈ problems :=
    fun hlow => (hmem _).mpr (Rating.alarm?_of_lt hlow)
  have hnone : jailRating.le t = true → r.le t = true → ∀ problem ∈ problems, problem.key ≠ key :=
    fun hhigh hbelow => not_mem_findProblems hkey hrated (Rating.alarm?_of_le hhigh hbelow)
  refine ⟨hjail, hnone, ?_, ?_⟩
  · intro ht hlow
    rw [← jailRating_toRat] at hlow
    exact hjail ((Binary.lt_iff_toRat ht jailRating_finite).mpr hlow)
  · intro ht hr hten
    rw [← jailRating_toRat] at hten
    have hhigh : t.lt jailRating = false := by
      rw [← Bool.not_eq_true, Binary.lt_iff_toRat ht jailRating_finite]
      exact not_lt.mpr hten
    have hfinite := tolerance_finite htolerance
    have hdrop : ⟨key, .drop rating⟩ ∈ problems ↔ t.position < r.position ∧
        (t.add tolerance).position ≤ r.position := by
      rw [hmem, Rating.alarm?_eq_drop_iff, and_iff_right hhigh]
      exact Rating.hasDropped_iff ht (Binary.not_nan_of_finite hr) hfinite
    refine ⟨?_, ?_, ?_⟩
    · intro hbelow hfar
      rw [hdrop, ← Binary.toRat_lt_iff]
      exact ⟨hbelow, Binary.add_le_of_toRat (by decide) ht hfinite hr hfar⟩
    · intro hreported
      rw [hdrop, ← Binary.toRat_lt_iff] at hreported
      exact ⟨hreported.1, Binary.toRat_le_of_add (by decide) ht hfinite hr hreported.2⟩
    · intro hbelow
      exact hnone ((Binary.le_iff_toRat jailRating_finite ht).mpr hten)
        ((Binary.le_iff_toRat hr ht).mpr hbelow)

/-- One below 2²⁴, with a tolerance of two, and settled at 2²⁴: the next number is two above. -/
def closeCall : Rating := ⟨.ofNat .single false 16777215, .ofNat .single false 16777216⟩

/-- The exact sum lies above the settled rating, in the middle of the step to the next number.  It is
rounded down to the settled rating, so that a drop is reported. -/
theorem drop_reported_at_half_step :
    let tolerance : Single := .ofNat .single false 2
    let snapshot : Snapshot := Table.ofList [("k", closeCall)]
    tolerance? (.ofNat .double false 2) = .ok tolerance ∧ "k" ≠ "" ∧ "k" ∈ ["k"] ++ [] ∧
      snapshot.get? "k" = some closeCall ∧
      ⟨"k", .drop closeCall⟩ ∈ findProblems tolerance ["k"] snapshot [] ∧
      closeCall.settled.toRat < closeCall.temporary.toRat + tolerance.toRat ∧
      closeCall.temporary.toRat + tolerance.toRat ≤
        (closeCall.settled.toRat + closeCall.settled.next.toRat) / 2 := by
  intro tolerance snapshot
  have htolerance : tolerance? (.ofNat .double false 2) = .ok tolerance := by decide +kernel
  have hlisted : "k" ∈ ["k"] ++ [] := by decide
  have hrated : snapshot.get? "k" = some closeCall := by decide
  have hreported : ⟨"k", .drop closeCall⟩ ∈ findProblems tolerance ["k"] snapshot [] := by
    decide
  have hten : 10 ≤ closeCall.temporary.toRat := by
    rw [← jailRating_toRat, Binary.toRat_le_iff]
    decide
  have habove : closeCall.settled.toRat < closeCall.temporary.toRat + tolerance.toRat := by
    have hvalues : closeCall.settled.value < closeCall.temporary.value + tolerance.value := by
      decide
    rw [Binary.toRat, Binary.toRat, Binary.toRat, ← add_div,
      div_lt_div_iff_of_pos_right (Binary.scale_pos .single)]
    exact_mod_cast hvalues
  obtain ⟨-, -, -, hexact⟩ :=
    drops_reported_up_to_rounding htolerance (by decide : "k" ≠ "") hlisted hrated
  obtain ⟨-, hconverse, -⟩ := hexact (by decide) (by decide) hten
  exact ⟨htolerance, by decide, hlisted, hrated, hreported, habove, (hconverse hreported).2⟩

end ValidatorAlarm
