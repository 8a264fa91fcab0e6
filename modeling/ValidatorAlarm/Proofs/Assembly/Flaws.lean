import ValidatorAlarm.Assembly
import ValidatorAlarm.Proofs.Number.Order
import ValidatorAlarm.Proofs.Poller.Making

/-!
# What is wrong with some settings

Settings can be put together if they meet a number of conditions.  The flaws of some settings are the
faults of all conditions that they do not meet, in the order in which the parts are put together.
Putting something together tests its conditions one after the other and stops at the first that is
not met: it succeeds if there are no flaws and reports the first one otherwise (`Reports`).  What is
true of two steps is true of both in a row, so that every part comes down to the tests in it.
-/
namespace ValidatorAlarm

/-! ### Tests in a row -/

section Reports

variable {ε ε' α β : Type}

/-- The result of some tests: there are no flaws, or the first one is the fault. -/
def Reports (flaws : List ε) : Except ε α → Prop
  | .ok _ => flaws = []
  | .error fault => flaws.head? = some fault

/-- The flaw of a condition that is not met. -/
def flaw (condition : Prop) [Decidable condition] (fault : ε) : List ε :=
  if condition then [] else [fault]

theorem flaw_eq_nil {condition : Prop} [Decidable condition] {fault : ε} :
    flaw condition fault = [] ↔ condition := by
  rw [flaw]
  split
  · exact iff_of_true rfl ‹condition›
  · exact iff_of_false (List.cons_ne_nil fault []) ‹¬ condition›

theorem flaw_map {condition : Prop} [Decidable condition] {fault : ε} (f : ε → ε') :
    (flaw condition fault).map f = flaw condition (f fault) := by
  rw [flaw, flaw]
  split <;> rfl

/-- A test in front of others.  It may spell its condition in its own way. -/
theorem Reports.guard {condition test : Prop} [Decidable condition] [Decidable test] {flaws : List ε}
    {fault : ε} {x : Except ε α} (htest : test ↔ condition) (hx : Reports flaws x) :
    Reports (flaw condition fault ++ flaws) (if test then x else .error fault) := by
  rw [if_congr htest rfl rfl, flaw]
  by_cases h : condition
  · rw [if_pos h, if_pos h, List.nil_append]
    exact hx
  · rw [if_neg h, if_neg h]
    rfl

theorem Reports.test {condition test : Prop} [Decidable condition] [Decidable test] {fault : ε} {a : α}
    (htest : test ↔ condition) :
    Reports (flaw condition fault) (if test then .ok a else .error fault) := by
  have hguard : Reports (flaw condition fault ++ []) (if test then .ok a else .error fault) :=
    .guard htest rfl
  rwa [List.append_nil] at hguard

theorem Reports.bind {flaws later : List ε} {x : Except ε α} {f : α → Except ε β}
    (hx : Reports flaws x) (hf : ∀ a, x = .ok a → Reports later (f a)) :
    Reports (flaws ++ later) (x >>= f) := by
  cases x with
  | error fault =>
    have hfirst : flaws.head? = some fault := hx
    change (flaws ++ later).head? = some fault
    rw [List.head?_append, hfirst, Option.some_or]
  | ok a =>
    rw [show flaws = [] from hx, List.nil_append]
    exact hf a rfl

theorem Reports.map {flaws : List ε} {x : Except ε α} (h : Reports flaws x) (f : α → β) :
    Reports flaws (x.map f) := by
  cases x <;> exact h

theorem Reports.mapError {flaws : List ε} {x : Except ε α} (h : Reports flaws x) (f : ε → ε') :
    Reports (flaws.map f) (x.mapError f) := by
  cases x with
  | error fault =>
    have hfirst : flaws.head? = some fault := h
    change (flaws.map f).head? = some (f fault)
    rw [List.head?_map, hfirst, Option.map_some]
  | ok a =>
    have hnone : flaws = [] := h
    exact List.map_eq_nil_iff.mpr hnone

end Reports

/-! ### The parts -/

/-- The text names a day of the week, or all of them, in letters of either case. -/
def NamesDay (text : String) : Prop :=
  String.ofList (text.toList.map Char.toLower) = "every day" ∨
    ∃ day ∈ Weekday.all, day.name = String.ofList (text.toList.map Char.toLower)

instance (text : String) : Decidable (NamesDay text) := inferInstanceAs (Decidable (_ ∨ _))

/-- The number is at least 0 and at most 100. -/
def IsPercentage (x : Double) : Prop :=
  x.isFinite = true ∧ 0 ≤ x.value ∧
    x.value ≤ ((100 * Nat.pow 2 Number.Format.double.scale : Nat) : Int)

instance (x : Double) : Decidable (IsPercentage x) := inferInstanceAs (Decidable (_ ∧ _))

theorem TargetDay.parse_reports (text : String) :
    Reports (flaw (NamesDay text) (Fault.invalidWeekday text)) (TargetDay.parse text) := by
  rw [TargetDay.parse]
  split
  · rename_i hevery
    exact flaw_eq_nil.mpr (.inl hevery)
  · rename_i hevery
    cases hday : Weekday.all.find?
        (·.name = String.ofList (text.toList.map Char.toLower)) with
    | some day =>
      have hname : day.name = String.ofList (text.toList.map Char.toLower) := by
        simpa using List.find?_some hday
      exact flaw_eq_nil.mpr (.inr ⟨day, List.mem_of_find?_eq_some hday, hname⟩)
    | none =>
      have hnone : ¬ NamesDay text := by
        rintro (hall | ⟨day, hday', hname⟩)
        · exact hevery hall
        · simpa [hname] using List.find?_eq_none.mp hday day hday'
      rw [flaw, if_neg hnone]
      rfl

theorem Target.make_reports (day : TargetDay) (hour minute : Nat) :
    Reports (flaw (hour ≤ 23) (Fault.invalidHour hour) ++
      flaw (minute ≤ 59) (Fault.invalidMinute minute)) (Target.make day hour minute) := by
  rw [Target.make, ← ite_not, ← ite_not (minute > 59)]
  exact .guard Nat.not_lt (.test Nat.not_lt)

theorem Duration.not_ofSeconds_lt_iff (seconds : Nat) {d : Duration} (hshort : 0 < d.nanoseconds)
    (hlong : d.nanoseconds ≤ 1000000000) : ¬ Duration.ofSeconds seconds < d ↔ 1 ≤ seconds := by
  change ¬ seconds * 1000000000 < d.nanoseconds ↔ 1 ≤ seconds
  omega

theorem Fanout.make_reports (channels : List Channel) (retries seconds : Nat) :
    Reports (flaw (1 ≤ seconds) (Fault.invalidRetryDelay (.ofSeconds seconds) Fanout.leastDelay))
      (Fanout.make channels retries (.ofSeconds seconds)) := by
  rw [Fanout.make, ← ite_not]
  exact .test (Duration.not_ofSeconds_lt_iff seconds (by decide) (by decide))

theorem Rhythm.check_reports (seconds : Nat) :
    Reports (flaw (1 ≤ seconds)
        (Fault.invalidInterval (.ofSeconds seconds) Rhythm.leastInterval))
      (Rhythm.check (.ofSeconds seconds)) := by
  rw [Rhythm.check, ← ite_not]
  exact .test (Duration.not_ofSeconds_lt_iff seconds (by decide) (by decide))

/-- A rhythm with one interval for successes and failures tests it twice. -/
theorem Rhythm.make_reports (seconds : Nat) :
    Reports (flaw (1 ≤ seconds)
        (Fault.invalidInterval (.ofSeconds seconds) Rhythm.leastInterval))
      (Rhythm.make (.ofSeconds seconds) (some (.ofSeconds seconds))) := by
  have hagain (u : Unit) (h : Rhythm.check (.ofSeconds seconds) = .ok u) :
      Reports [] (Rhythm.check (.ofSeconds seconds) >>= fun _ =>
        (.ok ⟨.ofSeconds seconds, .ofSeconds seconds⟩ : Except Fault Rhythm)) := by
    rw [h]
    rfl
  have hboth := (Rhythm.check_reports seconds).bind hagain
  rwa [List.append_nil] at hboth

theorem tolerance?_reports (configured : Double) :
    Reports (flaw (IsPercentage configured) (Fault.invalidTolerance configured))
      (tolerance? configured) := by
  have hmax : maxTolerance.value = ((100 * Nat.pow 2 Number.Format.double.scale : Nat) : Int) := by
    decide +kernel
  have hpattern : maxTolerance.pattern < Number.Format.double.infinity := by decide +kernel
  have hmaxnumber : maxTolerance.isNaN = false := by decide +kernel
  have hiff : (Binary.zero.le configured && configured.le maxTolerance) = true ↔
      IsPercentage configured := by
    have hzero : (Binary.zero : Double).value = 0 := by decide
    rw [Bool.and_eq_true, Binary.le_iff, Binary.le_iff, hmax, hzero, IsPercentage]
    constructor
    · rintro ⟨⟨-, hnumber, hlow⟩, -, -, hhigh⟩
      refine ⟨?_, hlow, hhigh⟩
      -- infinity is a number, but lies beyond all others
      have hposition := (Binary.position_le_iff configured maxTolerance).mpr (hmax ▸ hhigh)
      have hpositive := (Binary.position_le_iff Binary.zero configured).mpr (hzero ▸ hlow)
      have hsign : maxTolerance.negative = false := by decide
      simp only [Binary.position, hsign, Binary.zero, Bool.false_eq_true, if_false] at hposition hpositive
      simp only [Binary.isFinite, decide_eq_true_eq]
      split at hposition
      · rw [if_pos ‹_›] at hpositive
        omega
      · omega
    · rintro ⟨hfinite, hlow, hhigh⟩
      have hnumber : configured.isNaN = false := by
        simp only [Binary.isFinite, decide_eq_true_eq] at hfinite
        simp only [Binary.isNaN, decide_eq_false_iff_not]
        omega
      exact ⟨⟨rfl, hnumber, hlow⟩, hnumber, hmaxnumber, hhigh⟩
  rw [tolerance?]
  exact .test hiff

end ValidatorAlarm
