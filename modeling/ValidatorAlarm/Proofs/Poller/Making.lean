import ValidatorAlarm.Poller
import ValidatorAlarm.Proofs.Fault

/-!
# What a poller is made of

A poller that has been put together does the work that it was given, has not been started, and rests
after each cycle.
-/
namespace ValidatorAlarm

theorem Rhythm.check_spec {d : Duration} (h : Rhythm.check d = .ok ()) : 0 < d.milliseconds := by
  rw [Rhythm.check] at h
  split at h
  · cases h
  · rename_i hlong
    have hlong' : ¬ d.nanoseconds < Rhythm.leastInterval.nanoseconds := hlong
    simp only [Rhythm.leastInterval, Duration.ofMilliseconds] at hlong'
    rw [Duration.milliseconds]
    omega

theorem Rhythm.check_ok {d : Duration} (h : Rhythm.leastInterval ≤ d) : Rhythm.check d = .ok () := by
  have hlong : ¬ d < Rhythm.leastInterval := Nat.not_lt_of_le h
  rw [Rhythm.check, if_neg hlong]

theorem Rhythm.make_ok {interval : Duration} {errorInterval : Option Duration}
    (hinterval : Rhythm.leastInterval ≤ interval)
    (herror : ∀ d ∈ errorInterval, Rhythm.leastInterval ≤ d) :
    Rhythm.make interval errorInterval = .ok ⟨interval, errorInterval.getD interval⟩ := by
  have herror' : Rhythm.leastInterval ≤ errorInterval.getD interval := by
    cases errorInterval with
    | none => exact hinterval
    | some d => exact herror d rfl
  rw [Rhythm.make, Rhythm.check_ok hinterval, Rhythm.check_ok herror']
  rfl

theorem Rhythm.make_spec {interval : Duration} {errorInterval : Option Duration} {r : Rhythm}
    (h : Rhythm.make interval errorInterval = .ok r) (succeeded : Bool) : 0 < r.rest succeeded := by
  obtain ⟨_, hinterval, h⟩ := bind_eq_ok.mp h
  obtain ⟨_, herror, h⟩ := bind_eq_ok.mp h
  have hr : r = ⟨interval, errorInterval.getD interval⟩ := (Except.ok.inj h).symm
  have hinterval := Rhythm.check_spec hinterval
  have herror := Rhythm.check_spec herror
  rw [hr, Rhythm.rest]
  split
  · exact hinterval
  · exact herror

namespace Poller

variable {σ : Type}

theorem make_spec {token : Token} {name : Option String}
    {work : Token → Task σ (Except Fault Unit)} {interval : Duration} {errorInterval : Option Duration}
    {p : Poller σ} (hp : Poller.make token name (some work) (some interval) errorInterval = .ok p) :
    p.work = work ∧ p.started = false ∧ ∀ succeeded, 0 < p.rhythm.rest succeeded := by
  obtain ⟨rhythm, hrhythm, rfl⟩ := map_eq_ok.mp hp
  exact ⟨rfl, rfl, Rhythm.make_spec hrhythm⟩

theorem loop_cycle (p : Poller σ) :
    p.loop.cycle = (p.work p.token).bind fun result => .done result.toBool := by
  apply congrArg (p.work p.token).bind
  funext result
  cases result <;> rfl

end Poller

end ValidatorAlarm
