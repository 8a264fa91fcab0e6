import Mathlib.Data.List.Count
import Mathlib.Data.List.Nodup
import ValidatorAlarm.Proofs.Monitor.CycleFrame

/-!
# Keys that are listed more than once

A monitor checks its configured keys and then the staked ones, entry by entry.  A key may stand in
both lists, or several times in one of them, and nothing takes the repetitions out: a flagged key has
one problem for each entry, and the snooze is asked once for each.

So the alarms of a cycle are about different keys exactly if no flagged key is listed twice, and it
is under this condition that a cycle asks the snooze at most once about a key.
-/
namespace ValidatorAlarm

/-! ### Problems and entries -/

/-- Is there a problem with the key? -/
def isFlagged (tolerance : Single) (snapshot : Snapshot) (key : String) : Bool :=
  (problem? tolerance snapshot key).isSome

theorem problem?_key {tolerance : Single} {snapshot : Snapshot} {key : String} {problem : Problem}
    (h : problem? tolerance snapshot key = some problem) : problem.key = key := by
  unfold problem? at h
  split at h
  · cases h
  · obtain ⟨alarm, -, rfl⟩ := Option.map_eq_some_iff.mp h
    rfl

theorem findProblems_keys (tolerance : Single) (configured : List String) (snapshot : Snapshot)
    (extra : List String) :
    (findProblems tolerance configured snapshot extra).map (·.key) =
      (configured ++ extra).filter (isFlagged tolerance snapshot) := by
  unfold findProblems
  induction configured ++ extra with
  | nil => rfl
  | cons key rest ih =>
    rcases h : problem? tolerance snapshot key with _ | problem
    · simp [h, isFlagged, ih]
    · simp [h, isFlagged, ih, problem?_key h]

theorem findProblems_count (tolerance : Single) (configured : List String) (snapshot : Snapshot)
    (extra : List String) (key : String) :
    ((findProblems tolerance configured snapshot extra).map (·.key)).count key =
      if isFlagged tolerance snapshot key then (configured ++ extra).count key else 0 := by
  rw [findProblems_keys]
  split
  · rename_i hflagged
    exact List.count_filter hflagged
  · rename_i hflagged
    apply List.count_eq_zero.mpr
    intro hmem
    exact hflagged (List.mem_filter.mp hmem).2

theorem findProblems_nodup_iff (tolerance : Single) (configured : List String) (snapshot : Snapshot)
    (extra : List String) :
    ((findProblems tolerance configured snapshot extra).map (·.key)).Nodup ↔
      ∀ key, isFlagged tolerance snapshot key = true → (configured ++ extra).count key ≤ 1 := by
  rw [List.nodup_iff_count_le_one]
  apply forall_congr'
  intro key
  rw [findProblems_count]
  by_cases hflagged : isFlagged tolerance snapshot key = true
  · simp [hflagged]
  · simp [hflagged]

namespace Monitor

/-! ### The snooze in a cycle -/

theorem letThrough_sublist (rule : SnoozeRule) (now : Int) (snooze : Snooze)
    (problems : List Problem) : (letThrough rule now snooze problems).2.Sublist problems := by
  induction problems generalizing snooze with
  | nil => exact .slnil
  | cons problem rest ih =>
    simp only [letThrough]
    split
    · exact (ih _).cons_cons problem
    · exact (ih _).cons problem

/-- The snooze is asked about a key as often as it has a problem. -/
theorem letThrough_window (rule : SnoozeRule) (now : Int) (snooze : Snooze) (problems : List Problem)
    (key : String) :
    (letThrough rule now snooze problems).1.get? key =
      (rule.asked now)^[(problems.map (·.key)).count key] (snooze.get? key) := by
  induction problems generalizing snooze with
  | nil => rfl
  | cons problem rest ih =>
    rw [letThrough, List.map_cons]
    refine (ih _).trans ?_
    by_cases hkey : problem.key = key
    · subst hkey
      rw [List.count_cons_self, Function.iterate_succ_apply, Snooze.get?_ask_self]
    · rw [List.count_cons_of_ne hkey, Snooze.get?_ask _ _ _ (Ne.symm hkey)]

/-- **One alarm for each entry.**  Whatever is configured, staked and rated, the problems are about
the flagged entries of both lists in their order; the alarms of a cycle are some of them, and the
snooze is asked about a flagged key once for each of its entries, which uses up as many units of an
open window.  So the keys of the problems differ exactly if no flagged key is listed twice, and then
the alarms are about different keys and use up at most one unit of each. -/
theorem alarms_per_entry (w : Monitor) (tolerance : Single) (keys : List String) (snapshot : Snapshot)
    (staked : List String) (a : Agenda Site) :
    let listed := keys ++ staked
    let flagged := isFlagged tolerance snapshot
    let problems := ValidatorAlarm.findProblems tolerance keys snapshot staked
    let now := a.state.seconds a.now
    let before := fun key => (a.state.snoozes w.position).get? key
    ratingsCheck tolerance keys snapshot staked = .ok problems ∧
    problems.map (·.key) = listed.filter flagged ∧
    ((problems.map (·.key)).Nodup ↔ ∀ key, flagged key = true → listed.count key ≤ 1) ∧
    ∃ b batch, a.perform (w.alarms problems) = (b, some batch) ∧
      (batch.map (·.identityKey)).Sublist (problems.map (·.key)) ∧
      (∀ key, (b.state.snoozes w.position).get? key =
        (w.snooze.asked now)^[if flagged key then listed.count key else 0] (before key)) ∧
      (∀ limit length, w.snooze = .limited limit length → 0 < length → now < SnoozeWindow.latest →
        ∀ key, flagged key = true → 0 < listed.count key →
          let window := ((before key).getD ⟨0, now⟩).renew length now
          (b.state.snoozes w.position).get? key =
            some ⟨min SnoozeWindow.maxCount (window.count + listed.count key), window.started⟩) ∧
      ((∀ key, flagged key = true → listed.count key ≤ 1) →
        (batch.map (·.identityKey)).Nodup ∧
        ∀ key, (b.state.snoozes w.position).get? key = before key ∨
          (b.state.snoozes w.position).get? key = w.snooze.asked now (before key)) := by
  intro listed flagged problems now before
  have hkeys := findProblems_keys tolerance keys snapshot staked
  have hnodup := findProblems_nodup_iff tolerance keys snapshot staked
  have hwindow : ∀ key,
      (letThrough w.snooze now (a.state.snoozes w.position) problems).1.get? key =
        (w.snooze.asked now)^[if flagged key then listed.count key else 0] (before key) := by
    intro key
    rw [letThrough_window, findProblems_count]
  have hsublist : (((letThrough w.snooze now (a.state.snoozes w.position) problems).2.map
      w.message).map (·.identityKey)).Sublist (problems.map (·.key)) := by
    rw [List.map_map]
    exact (letThrough_sublist w.snooze now _ problems).map _
  have hafter : ∀ key, ((a.state.setSnooze w.position (letThrough w.snooze now
      (a.state.snoozes w.position) problems).1).snoozes w.position).get? key =
        (w.snooze.asked now)^[if flagged key then listed.count key else 0] (before key) := by
    intro key
    rw [← hwindow key]
    exact congrArg (Table.get? · key) (if_pos rfl)
  refine ⟨rfl, hkeys, hnodup, _, _, w.perform_alarms problems, hsublist, hafter, ?_, ?_⟩
  · intro limit length hrule hlength hnow key hflagged hlisted
    obtain ⟨n, hn⟩ := Nat.exists_eq_add_of_lt hlisted
    refine (hafter key).trans ?_
    rw [if_pos hflagged, hrule, hn, Nat.zero_add]
    exact SnoozeRule.asked_iterate hlength hnow (before key) n
  · intro hsingle
    refine ⟨hsublist.nodup (hnodup.mpr hsingle), ?_⟩
    intro key
    rw [hafter key]
    split
    · rename_i hflagged
      rcases Nat.le_one_iff_eq_zero_or_eq_one.mp (hsingle key hflagged) with hnone | hone
      · rw [hnone]
        exact Or.inl rfl
      · rw [hone]
        exact Or.inr rfl
    · exact Or.inl rfl

/-- A key that is configured and staked raises two alarms in one cycle, and uses up two units. -/
theorem entries_in_both_lists :
    let w : Monitor := {
      position := 0, name := "m", explorer := "", check := ratingsCheck .zero ["k"],
      accounts := [], queryPause := ⟨0⟩, snooze := .limited 3 3600, reporter := .off,
      fanout := ⟨[], 0, Fanout.leastDelay⟩ }
    let snapshot : Snapshot := Table.ofList [("k", ⟨Binary.zero, Binary.zero⟩)]
    let problems := ValidatorAlarm.findProblems .zero ["k"] snapshot ["k"]
    let alarmed := (Agenda.start Site.initial).perform (w.alarms problems)
    w.check snapshot ["k"] = .ok problems ∧
      ¬ (problems.map (·.key)).Nodup ∧
      alarmed.2.map (·.map (·.identityKey)) = some ["k", "k"] ∧
      (alarmed.1.state.snoozes w.position).get? "k" = some ⟨2, 0⟩ := by
  decide

end Monitor

end ValidatorAlarm
