import ValidatorAlarm.Proofs.Rating.Rules

/-!
# Worse ratings and narrower tolerances

A lower temporary rating, a higher settled one and a narrower tolerance never silence an alarm.  For
the rules about exact numbers that is plain.  Here the tolerance is rounded when it is stored, and the
sum is rounded when it is compared; both roundings keep the order, so that the rules keep it as well.

What is no number has no order.  It does no harm where it stays as it is, because a rating that is no
number raises an alarm under every tolerance.
-/
namespace ValidatorAlarm

open Number

/-- A tolerance that is configured wider is not stored as a narrower one. -/
theorem tolerance_mono {configured₁ configured₂ : Double} {d₁ d₂ : Single}
    (h₁ : tolerance? configured₁ = .ok d₁) (h₂ : tolerance? configured₂ = .ok d₂)
    (h : configured₁.le configured₂ = true) : d₁.position ≤ d₂.position := by
  obtain ⟨hzero₁, hmost₁, rfl⟩ := tolerance?_spec h₁
  obtain ⟨hzero₂, hmost₂, rfl⟩ := tolerance?_spec h₂
  exact Binary.narrow_position_mono (by decide) (configured_finite hzero₁ hmost₁)
    (configured_finite hzero₂ hmost₂) ((Binary.le_iff_position _ _).mp h).2.2

/-! ### One rating -/

/-- The first rating is worse than the second one, or as bad: its temporary rating is lower, or stays
as it is, and its settled rating is higher, or stays as it is. -/
structure Rating.Worse (low high : Rating) : Prop where
  temporary : low.temporary = high.temporary ∨ low.temporary.le high.temporary = true
  settled : low.settled = high.settled ∨ high.settled.le low.settled = true

/-- The alarms about a rating and about a worse one are alike, or that of a drop has become that of an
imminent jail, because the temporary rating has fallen below 10. -/
inductive Alarm.Hardens (low high : Rating) : Alarm → Alarm → Prop where
  | jail : Hardens low high (.jail high) (.jail low)
  | drop : Hardens low high (.drop high) (.drop low)
  | fallen (before : high.temporary.lt jailRating = false)
      (after : low.temporary.lt jailRating = true) : Hardens low high (.drop high) (.jail low)

namespace Rating

variable {low high : Rating} {d₁ d₂ : Single}

theorem Worse.temporary_lt (h : low.Worse high) (hjail : high.temporary.lt jailRating = true) :
    low.temporary.lt jailRating = true := by
  rcases h.temporary with hsame | hle
  · rw [hsame]
    exact hjail
  · rw [Binary.le_iff_position] at hle
    rw [Binary.lt_iff_position] at hjail ⊢
    exact ⟨hle.1, hjail.2.1, lt_of_le_of_lt hle.2.2 hjail.2.2⟩

theorem order_of_kept {x y : Single} (h : x = y ∨ x.le y = true)
    (hnumber : x.isNaN = false ∨ y.isNaN = false) :
    x.isNaN = false ∧ y.isNaN = false ∧ x.position ≤ y.position := by
  rcases h with rfl | hle
  · have hx : x.isNaN = false := hnumber.elim id id
    exact ⟨hx, hx, le_rfl⟩
  · exact (Binary.le_iff_position x y).mp hle

/-- What is no number has always dropped. -/
theorem hasDropped_of_nan (h : low.temporary.isNaN = true ∨ low.settled.isNaN = true) :
    low.HasDropped d₁ := by
  constructor
  · rw [← Bool.not_eq_true, Binary.le_iff_position]
    rcases h with h | h <;> simp [h]
  · rw [← Bool.not_eq_true, Binary.lt_iff_position]
    rcases h with h | h
    · simp [Binary.nan_add h]
    · simp [h]

/-- A drop that is seen with a tolerance is seen with a narrower one, and when it has grown. -/
theorem HasDropped.mono (hfinite₁ : d₁.isFinite = true) (hfinite₂ : d₂.isFinite = true)
    (hnarrow : d₁.position ≤ d₂.position) (hworse : low.Worse high)
    (hjail : low.temporary.lt jailRating = false) (h : high.HasDropped d₂) :
    low.HasDropped d₁ := by
  by_cases ht : low.temporary.isNaN = true
  · exact hasDropped_of_nan (Or.inl ht)
  by_cases hr : low.settled.isNaN = true
  · exact hasDropped_of_nan (Or.inr hr)
  rw [Bool.not_eq_true] at ht hr
  obtain ⟨-, htHigh, htOrder⟩ := order_of_kept hworse.temporary (Or.inl ht)
  obtain ⟨hrHigh, -, hrOrder⟩ := order_of_kept (hworse.settled.imp Eq.symm id) (Or.inr hr)
  -- both temporary ratings lie between 10 and infinity, so that sums can be compared
  have hten : jailRating.position ≤ low.temporary.position := by
    rw [← Bool.not_eq_true, Binary.lt_iff_position] at hjail
    by_contra hless
    exact hjail ⟨ht, Binary.not_nan_of_finite jailRating_finite, not_le.mp hless⟩
  have hpositive : 0 < jailRating.position := by decide
  have hbelow : high.temporary.position < high.settled.position := by
    have hseen := h.below
    rw [← Bool.not_eq_true, Binary.le_iff_position] at hseen
    by_contra hless
    exact hseen ⟨hrHigh, htHigh, not_lt.mp hless⟩
  have hinfinity : high.settled.position ≤ Format.single.infinity := by
    have hpattern := high.settled.natAbs_position
    have hbound := (Binary.isNaN_eq_false_iff _).mp hrHigh
    omega
  have htFinite : low.temporary.isFinite = true := by
    have hpattern := low.temporary.natAbs_position
    rw [Binary.isFinite_iff]
    omega
  have htHighFinite : high.temporary.isFinite = true := by
    have hpattern := high.temporary.natAbs_position
    rw [Binary.isFinite_iff]
    omega
  rw [hasDropped_iff htHighFinite hrHigh hfinite₂] at h
  rw [hasDropped_iff htFinite hr hfinite₁]
  have hsum := Binary.add_position_mono (by decide) htFinite hfinite₁ htHighFinite hfinite₂ htOrder
    hnarrow
  exact ⟨by omega, by omega⟩

/-- An alarm that is raised with a tolerance is raised with a narrower one, and about a worse rating;
at most, a drop has become an imminent jail. -/
theorem alarm?_mono (hfinite₁ : d₁.isFinite = true) (hfinite₂ : d₂.isFinite = true)
    (hnarrow : d₁.position ≤ d₂.position) (hworse : low.Worse high) {alarm : Alarm}
    (h : high.alarm? d₂ = some alarm) :
    ∃ alarm', low.alarm? d₁ = some alarm' ∧ Alarm.Hardens low high alarm alarm' := by
  rcases high.alarm?_cases d₂ with ⟨hjail, halarm⟩ | ⟨hhigh, hdropped, halarm⟩ | ⟨-, -, halarm⟩
  · obtain rfl := Option.some.inj (halarm.symm.trans h)
    exact ⟨_, alarm?_of_lt (hworse.temporary_lt hjail), .jail⟩
  · obtain rfl := Option.some.inj (halarm.symm.trans h)
    cases hlow : low.temporary.lt jailRating with
    | true => exact ⟨_, alarm?_of_lt hlow, .fallen hhigh hlow⟩
    | false =>
      have hdropped' := hdropped.mono hfinite₁ hfinite₂ hnarrow hworse hlow
      exact ⟨_, alarm?_eq_drop_iff.mpr ⟨hlow, hdropped'⟩, .drop⟩
  · rw [halarm] at h
    cases h

end Rating

/-! ### All ratings -/

/-- Each rating of the second snapshot is kept or made worse in the first one. -/
def Snapshot.Worse (low high : Snapshot) : Prop :=
  ∀ key rating, high.get? key = some rating → ∃ worse, low.get? key = some worse ∧ worse.Worse rating

theorem Rating.Worse.refl (r : Rating) : r.Worse r := ⟨Or.inl rfl, Or.inl rfl⟩

section Problems

variable {d₁ d₂ : Single} {low high : Snapshot}

theorem problem?_mono (hfinite₁ : d₁.isFinite = true) (hfinite₂ : d₂.isFinite = true)
    (hnarrow : d₁.position ≤ d₂.position) (hworse : low.Worse high) {key : String}
    {problem : Problem} (h : problem? d₂ high key = some problem) :
    ∃ lowRating highRating alarm, low.get? key = some lowRating ∧ high.get? key = some highRating ∧
      problem? d₁ low key = some ⟨key, alarm⟩ ∧
      Alarm.Hardens lowRating highRating problem.alarm alarm := by
  have hkey : key ≠ "" := by
    rintro rfl
    simp [problem?] at h
  cases hrated : high.get? key with
  | none => simp [problem?, hrated] at h
  | some rating =>
    obtain ⟨worse, hlow, hrating⟩ := hworse key rating hrated
    rw [problem?_rated hkey hrated] at h
    obtain ⟨alarm, halarm, rfl⟩ := Option.map_eq_some_iff.mp h
    obtain ⟨alarm', halarm', hhardens⟩ :=
      Rating.alarm?_mono hfinite₁ hfinite₂ hnarrow hrating halarm
    refine ⟨worse, rating, alarm', hlow, rfl, ?_, hhardens⟩
    rw [problem?_rated hkey hlow, halarm']
    rfl

theorem isFlagged_mono (hfinite₁ : d₁.isFinite = true) (hfinite₂ : d₂.isFinite = true)
    (hnarrow : d₁.position ≤ d₂.position) (hworse : low.Worse high) {key : String}
    (h : isFlagged d₂ high key = true) : isFlagged d₁ low key = true := by
  obtain ⟨problem, hproblem⟩ := Option.isSome_iff_exists.mp h
  obtain ⟨-, -, alarm, -, -, hlow, -⟩ := problem?_mono hfinite₁ hfinite₂ hnarrow hworse hproblem
  rw [isFlagged, hlow]
  rfl

/-- With the same ratings the alarm stays the same. -/
theorem problem?_narrow (hfinite₁ : d₁.isFinite = true) (hfinite₂ : d₂.isFinite = true)
    (hnarrow : d₁.position ≤ d₂.position) {snapshot : Snapshot} {key : String} {problem : Problem}
    (h : problem? d₂ snapshot key = some problem) : problem? d₁ snapshot key = some problem := by
  have hkept : snapshot.Worse snapshot := fun _ rating hrated => ⟨rating, hrated, .refl rating⟩
  obtain ⟨rating, same, alarm, hrated, hsame, hnarrowed, hhardens⟩ :=
    problem?_mono hfinite₁ hfinite₂ hnarrow hkept h
  obtain rfl := Option.some.inj (hrated.symm.trans hsame)
  obtain rfl : problem.key = key := problem?_key h
  rw [hnarrowed]
  obtain ⟨key, before⟩ := problem
  cases hhardens with
  | jail => rfl
  | drop => rfl
  | fallen before after =>
    rw [before] at after
    cases after

theorem findProblems_narrow (hfinite₁ : d₁.isFinite = true) (hfinite₂ : d₂.isFinite = true)
    (hnarrow : d₁.position ≤ d₂.position) (snapshot : Snapshot) (keys extra : List String) :
    (findProblems d₂ keys snapshot extra).Sublist (findProblems d₁ keys snapshot extra) := by
  unfold findProblems
  induction keys ++ extra with
  | nil => exact .slnil
  | cons key rest ih =>
    cases hproblem : problem? d₂ snapshot key with
    | none =>
      rw [List.filterMap_cons_none hproblem]
      exact ih.trans ((List.sublist_cons_self key rest).filterMap _)
    | some problem =>
      have hnarrowed := problem?_narrow hfinite₁ hfinite₂ hnarrow hproblem
      rw [List.filterMap_cons_some hproblem, List.filterMap_cons_some hnarrowed]
      exact ih.cons_cons problem

end Problems

/-- **The rules about ratings are monotone.**  Take two accepted tolerances, the first one configured
no wider than the second.  What raises an alarm under the second one raises one under the first, also
with a lower temporary rating and a higher settled one.  So if some ratings of a snapshot are made
worse and the tolerance narrower, then no key is lost from the problems, whichever keys are monitored;
an alarm stays of its kind, except that a drop becomes an imminent jail where the temporary rating
falls below 10.  With the same ratings the problems under the wider tolerance are some of those under
the narrower one, in the same order. -/
theorem alarms_monotone {configured₁ configured₂ : Double} {d₁ d₂ : Single}
    (h₁ : tolerance? configured₁ = .ok d₁) (h₂ : tolerance? configured₂ = .ok d₂)
    (h : configured₁.le configured₂ = true) :
    (∀ low high : Rating, low.temporary.le high.temporary = true →
      high.settled.le low.settled = true → (high.alarm? d₂).isSome = true →
        (low.alarm? d₁).isSome = true) ∧
    (∀ (low high : Snapshot) (keys extra : List String), low.Worse high →
      let before := findProblems d₂ keys high extra
      let after := findProblems d₁ keys low extra
      (before.map (·.key)).Sublist (after.map (·.key)) ∧
      ∀ problem ∈ before, ∃ lowRating highRating alarm,
        low.get? problem.key = some lowRating ∧ high.get? problem.key = some highRating ∧
        ⟨problem.key, alarm⟩ ∈ after ∧ Alarm.Hardens lowRating highRating problem.alarm alarm) ∧
    (∀ (snapshot : Snapshot) (keys extra : List String),
      (findProblems d₂ keys snapshot extra).Sublist (findProblems d₁ keys snapshot extra)) := by
  have hfinite₁ := tolerance_finite h₁
  have hfinite₂ := tolerance_finite h₂
  have hnarrow := tolerance_mono h₁ h₂ h
  refine ⟨?_, ?_, findProblems_narrow hfinite₁ hfinite₂ hnarrow⟩
  · intro low high htemporary hsettled hhigh
    obtain ⟨alarm, halarm⟩ := Option.isSome_iff_exists.mp hhigh
    obtain ⟨alarm', halarm', -⟩ := Rating.alarm?_mono hfinite₁ hfinite₂ hnarrow
      ⟨Or.inr htemporary, Or.inr hsettled⟩ halarm
    rw [halarm']
    rfl
  · intro low high keys extra hworse before after
    refine ⟨?_, ?_⟩
    · rw [findProblems_keys, findProblems_keys]
      exact List.monotone_filter_right _ fun key hkey =>
        isFlagged_mono hfinite₁ hfinite₂ hnarrow hworse hkey
    · intro problem hproblem
      obtain ⟨key, hlisted, hkey⟩ := List.mem_filterMap.mp hproblem
      obtain rfl : problem.key = key := problem?_key hkey
      obtain ⟨lowRating, highRating, alarm, hlow, hhigh, hfound, hhardens⟩ :=
        problem?_mono hfinite₁ hfinite₂ hnarrow hworse hkey
      exact ⟨lowRating, highRating, alarm, hlow, hhigh,
        List.mem_filterMap.mpr ⟨problem.key, hlisted, hfound⟩, hhardens⟩

/-- A rating that has dropped by one, and the same one after it has fallen below 10. -/
def dropped : Rating := ⟨.ofNat .single false 49, .ofNat .single false 50⟩

def fallen : Rating := ⟨.ofNat .single false 9, .ofNat .single false 50⟩

/-- The key keeps its place among the problems when its temporary rating falls below 10, and the
tolerance is narrowed from one to a half. -/
theorem key_kept_when_fallen :
    let low : Snapshot := Table.ofList [("k", fallen)]
    let high : Snapshot := Table.ofList [("k", dropped)]
    let half : Double := .ofUnits .double false (Nat.pow 2 1073) 1
    tolerance? half = .ok (half.narrow .single) ∧
      tolerance? (.ofNat .double false 1) = .ok (.ofNat .single false 1) ∧
      half.le (.ofNat .double false 1) = true ∧ low.Worse high ∧
      findProblems (.ofNat .single false 1) ["k"] high [] = [⟨"k", .drop dropped⟩] ∧
      ∃ alarm, ⟨"k", alarm⟩ ∈ findProblems (half.narrow .single) ["k"] low [] ∧
        Alarm.Hardens fallen dropped (.drop dropped) alarm := by
  intro low high half
  have hhalf : tolerance? half = .ok (half.narrow .single) := by decide +kernel
  have hone : tolerance? (.ofNat .double false 1) = .ok (.ofNat .single false 1) := by
    decide +kernel
  have horder : half.le (.ofNat .double false 1) = true := by decide +kernel
  have hget : ∀ (rating : Rating) (key : String),
      (Table.ofList [("k", rating)]).get? key = if key = "k" then some rating else none :=
    fun rating key => Table.get?_put .empty "k" key rating
  have hworse : low.Worse high := by
    intro key rating hrated
    rw [hget] at hrated
    split at hrated
    · rename_i hkey
      cases hrated
      refine ⟨fallen, ?_, Or.inr (by decide), Or.inl rfl⟩
      rw [hget, if_pos hkey]
    · cases hrated
  have hbefore : findProblems (.ofNat .single false 1) ["k"] high [] = [⟨"k", .drop dropped⟩] := by
    decide
  obtain ⟨-, hkept, -⟩ := alarms_monotone hhalf hone horder
  obtain ⟨lowRating, highRating, alarm, hlow, hhigh, hfound, hhardens⟩ :=
    (hkept low high ["k"] [] hworse).2 ⟨"k", .drop dropped⟩
      (by rw [hbefore]; exact List.mem_cons_self)
  rw [hget, if_pos rfl] at hlow hhigh
  cases hlow
  cases hhigh
  exact ⟨hhalf, hone, horder, hworse, hbefore, alarm, hfound, hhardens⟩

end ValidatorAlarm
