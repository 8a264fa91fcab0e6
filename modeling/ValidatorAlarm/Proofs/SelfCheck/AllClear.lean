import ValidatorAlarm.Proofs.Monitor.Listings
import ValidatorAlarm.Proofs.Monitor.Looking
import ValidatorAlarm.Proofs.SelfCheck.Ledger

/-!
# What a self-check knows of the keys

A cycle checks the ratings first and asks the snooze about the problems then, and only the problems
that the snooze lets through are told to the reporter.  So a self-check counts the keys whose alarms
were let through since the one before, and a key that stays faulty while its alarms are snoozed is
not among them: the report may say that all keys perform as expected.
-/
namespace ValidatorAlarm

theorem Monitor.letThrough_off (now : Int) (snooze : Snooze) (problems : List Problem) :
    letThrough .off now snooze problems = (snooze, problems) := by
  induction problems with
  | nil => rfl
  | cons problem rest ih => simp only [letThrough, Snooze.ask, ih, if_true]

/-- Where nothing is snoozed, the keys that are let through are those that were found. -/
theorem Entry.Sound.passing_eq {entry : Entry} (h : entry.Sound)
    (hcollected : ∀ messages, entry ≠ .collected messages)
    (hoff : ∀ w problems passed, entry = .checked w problems passed → w.snooze = .off) :
    entry.passing = entry.faulty := by
  cases entry with
  | checked w problems passed =>
    obtain ⟨-, now, snooze, rfl⟩ := h
    rw [hoff _ _ _ rfl, Monitor.letThrough_off]
    rfl
  | collected messages => exact absurd rfl (hcollected messages)
  | _ => rfl

section Runs

variable (name : String) (fanout : Fanout) (moves : List (Moment × Move Duty)) (site : Site)

/-- **A self-check counts the keys whose alarms were let through.**  However cycles and self-checks
come in between each other, a report tells the number of different keys whose problems have passed
the snooze since the report before it, and gives the all-clear if there are none.  If no monitor
snoozes, these are all the keys for which a check has found a problem. -/
theorem Reporter.reports_keys_let_through :
    (Duty.bookedRun name fanout moves site).state.state = (Duty.run name fanout moves site).state ∧
    ∀ r ∈ Book.reports (Duty.book name fanout moves site),
      (∃ errors, r.2 = [errorsMessage name errors,
        keysMessage name (Book.passing r.1).dedup.length]) ∧
      ((∃ message ∈ r.2, message.category = "All monitored keys are performing as expected") ↔
        ∀ entry ∈ r.1, entry.passing = []) ∧
      (∀ w problems passed, .checked w problems passed ∈ r.1 →
        w.Checked problems ∧ passed.Sublist problems) ∧
      ((∀ messages, .collected messages ∉ r.1) →
        (∀ w problems passed, .checked w problems passed ∈ r.1 → w.snooze = .off) →
        keysMessage name (Book.faulty r.1).dedup.length ∈ r.2) := by
  have hright := Duty.bookedRun_right name fanout moves site
  refine ⟨Duty.bookedRun_site name fanout moves site, ?_⟩
  intro r hr
  obtain ⟨hreport, hpassing⟩ := hright.reports r hr
  have hsound : ∀ entry ∈ r.1, entry.Sound := fun entry hentry =>
    hright.sound entry (Book.mem_of_mem_reports hr hentry)
  refine ⟨⟨_, by rw [hpassing]; exact hreport⟩, ?_, ?_, ?_⟩
  · rw [hreport, Book.summary_gives_all_clear, ← hpassing, Book.passing, List.flatMap_eq_nil_iff]
  · intro w problems passed hchecked
    obtain ⟨hproblems, now, snooze, rfl⟩ := hsound _ hchecked
    exact ⟨hproblems, Monitor.letThrough_sublist w.snooze now snooze problems⟩
  · intro hcollected hoff
    have hsame : Book.passing r.1 = Book.faulty r.1 := by
      refine List.flatMap_congr fun entry hentry => (hsound entry hentry).passing_eq ?_ ?_
      · rintro messages rfl
        exact hcollected messages hentry
      · rintro w problems passed rfl
        exact hoff w problems passed hentry
    rw [hreport, Book.summary, ← hpassing, hsame]
    exact List.mem_cons_of_mem _ List.mem_cons_self

end Runs

/-! ### A false all-clear -/

/-- A monitor of one key that raises one alarm an hour. -/
def Monitor.hourly : Monitor where
  position := 0
  name := "m"
  explorer := ""
  check := ratingsCheck .zero ["k"]
  accounts := []
  queryPause := ⟨0⟩
  snooze := .limited 1 3600
  reporter := .off
  fanout := ⟨[], 0, .ofSeconds 1⟩

/-- Every query for ratings has this response. -/
def Site.failing : Site := { initial with statistics := .always ⟨0, .ok Network.lostRating⟩ }

/-- The second of two self-checks, with a cycle before each, gives the all-clear though the key was
found faulty in its span: the alarm of that cycle was snoozed. -/
theorem Reporter.all_clear_while_snoozed :
    (Book.reports (Duty.book "m" ⟨[], 0, .ofSeconds 1⟩
        ([.cycle .hourly 0, .selfCheck 0, .cycle .hourly 0, .selfCheck 0].map fun duty =>
          (⟨0, fun _ => false⟩, .begin duty)) .failing)).map
      (fun r => (r.2.map (·.category), Book.faulty r.1)) =
    [(["No application errors occurred", "All monitored keys are performing as expected"], ["k"]),
      (["No application errors occurred", ""], ["k"])] := by
  decide +kernel

end ValidatorAlarm
