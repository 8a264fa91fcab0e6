import Mathlib.Algebra.GroupWithZero.Nat
import Mathlib.Data.List.Dedup
import ValidatorAlarm.Monitor

/-!
# The book of the self-checks

A book has an entry for everything that a self-check should know of, and one for each report, the
last first.  The reports cut the book into spans: the entries that a report has to account for are
those since the report before it.  What a report should say is defined on its span alone.

The tally keeps no book, but two numbers' worth of it.  `Tally.Counts` says that these are right for
a span, and there is one lemma for each change of the tally.
-/
namespace ValidatorAlarm

/-- These are the problems that the check of a monitor tells for some ratings and some staked keys. -/
def Monitor.Checked (w : Monitor) (problems : List Problem) : Prop :=
  ∃ snapshot staked, w.check snapshot staked = .ok problems

/-- Something that a self-check should know of, or a report. -/
inductive Entry where
  /-- A cycle has checked the ratings: the problems, and those of them whose alarms were let through. -/
  | checked (w : Monitor) (problems passed : List Problem)
  /-- A cycle handed messages to the fanout. -/
  | handed (messages : List Message)
  /-- A cycle came to its end. -/
  | returned (result : Except Fault Unit)
  /-- An error was reported directly. -/
  | reported
  /-- Messages were collected directly. -/
  | collected (messages : List Message)
  /-- A self-check handed its report to the fanout. -/
  | told (report : List Message)

namespace Entry

/-- Is it a cycle that failed, or an error that was reported directly? -/
def isFailure : Entry → Bool
  | .returned (.error _) | .reported => true
  | _ => false

def isReport : Entry → Bool
  | .told _ => true
  | _ => false

/-- The keys of the messages that were collected, by a cycle on the way to the fanout or directly. -/
def keys : Entry → List String
  | .handed messages | .collected messages => messages.map (·.identityKey)
  | _ => []

/-- The keys whose alarms a snooze has let through, or that nobody has asked a snooze about. -/
def passing : Entry → List String
  | .checked _ _ passed => passed.map (·.key)
  | .collected messages => messages.map (·.identityKey)
  | _ => []

/-- The keys for which a check has found a problem. -/
def faulty : Entry → List String
  | .checked _ problems _ => problems.map (·.key)
  | _ => []

/-- The problems are those of a check, and what was let through is what a snooze answers. -/
def Sound : Entry → Prop
  | .checked w problems passed =>
    w.Checked problems ∧ ∃ now snooze, passed = (Monitor.letThrough w.snooze now snooze problems).2
  | _ => True

end Entry

namespace Book

/-- The failures in a span. -/
def failures (span : List Entry) : Nat := span.countP Entry.isFailure

/-- The keys that were collected in a span. -/
def keys (span : List Entry) : List String := span.flatMap Entry.keys

/-- The keys that were let through in a span. -/
def passing (span : List Entry) : List String := span.flatMap Entry.passing

/-- The keys for which a check in a span has found a problem. -/
def faulty (span : List Entry) : List String := span.flatMap Entry.faulty

/-- The entries since the last report. -/
def pending : List Entry → List Entry
  | [] => []
  | .told _ :: _ => []
  | entry :: earlier => entry :: pending earlier

/-- The reports, each with its span. -/
def reports : List Entry → List (List Entry × List Message)
  | [] => []
  | .told report :: earlier => (pending earlier, report) :: reports earlier
  | _ :: earlier => reports earlier

/-- What a report should say about its span. -/
def summary (name : String) (span : List Entry) : List Message :=
  [Reporter.errorsMessage name (min Tally.maxErrors (failures span)),
    Reporter.keysMessage name (keys span).dedup.length]

/-! ### Spans -/

/-- Entries that are no reports belong to the pending span. -/
theorem pending_append {entries : List Entry} (h : ∀ entry ∈ entries, entry.isReport = false)
    (book : List Entry) : pending (entries ++ book) = entries ++ pending book := by
  induction entries with
  | nil => rfl
  | cons entry entries ih =>
    rw [List.forall_mem_cons] at h
    cases entry with
    | told report => cases h.1
    | _ => exact congrArg _ (ih h.2)

theorem reports_append {entries : List Entry} (h : ∀ entry ∈ entries, entry.isReport = false)
    (book : List Entry) : reports (entries ++ book) = reports book := by
  induction entries with
  | nil => rfl
  | cons entry entries ih =>
    rw [List.forall_mem_cons] at h
    cases entry with
    | told report => cases h.1
    | _ => exact ih h.2

/-- Every entry is in one span: it is pending, or belongs to one report. -/
theorem pending_append_reports (book : List Entry) :
    pending book ++ (reports book).flatMap (fun r => .told r.2 :: r.1) = book := by
  induction book with
  | nil => rfl
  | cons entry earlier ih =>
    cases entry with
    | told report =>
      rw [pending, reports, List.flatMap_cons, List.nil_append, List.cons_append, ih]
    | _ => exact congrArg _ ih

theorem mem_of_mem_reports {book : List Entry} {r : List Entry × List Message} (hr : r ∈ reports book)
    {entry : Entry} (h : entry ∈ r.1) : entry ∈ book := by
  rw [← pending_append_reports book]
  exact List.mem_append_right _ (List.mem_flatMap.mpr ⟨r, hr, List.mem_cons_of_mem _ h⟩)

theorem category_errorsMessage (name : String) (count : Nat) :
    ((Reporter.errorsMessage name count).category = "No application errors occurred" ↔ count = 0) ∧
      (Reporter.errorsMessage name count).category ≠ "All monitored keys are performing as expected" := by
  by_cases h : count = 0 <;> simp [Reporter.errorsMessage, Message.blank, h]

theorem category_keysMessage (name : String) (count : Nat) :
    ((Reporter.keysMessage name count).category = "All monitored keys are performing as expected" ↔
        count = 0) ∧
      (Reporter.keysMessage name count).category ≠ "No application errors occurred" := by
  by_cases h : count = 0 <;> simp [Reporter.keysMessage, Message.blank, h]

/-- A report gives the all-clear exactly if no key was collected in its span. -/
theorem summary_gives_all_clear (name : String) (span : List Entry) :
    (∃ message ∈ summary name span,
      message.category = "All monitored keys are performing as expected") ↔ keys span = [] := by
  simp [summary, (category_errorsMessage name _).2, (category_keysMessage name _).1,
    List.length_eq_zero_iff, List.dedup_eq_nil]

end Book

/-! ### The tally of a span -/

namespace Tally

theorem collect_cons (t : Tally) (message : Message) (rest : List Message) :
    t.collect (message :: rest) = (t.flag message.identityKey).collect rest := rfl

@[simp] theorem flag_errors (t : Tally) (key : String) : (t.flag key).errors = t.errors := by
  rw [flag]
  split <;> rfl

theorem mem_flag (t : Tally) (key other : String) :
    other ∈ (t.flag key).flagged ↔ other ∈ t.flagged ∨ other = key := by
  rw [flag]
  split
  · rename_i h
    exact ⟨Or.inl, fun hor => hor.elim id fun heq => heq ▸ h⟩
  · rw [List.mem_append, List.mem_singleton]

theorem nodup_flag {t : Tally} (h : t.flagged.Nodup) (key : String) : (t.flag key).flagged.Nodup := by
  rw [flag]
  split
  · exact h
  · rename_i hnew
    exact List.nodup_append.mpr ⟨h, List.nodup_singleton key, fun a ha b hb hab =>
      hnew (List.mem_singleton.mp hb ▸ hab ▸ ha)⟩

@[simp] theorem collect_errors (t : Tally) (messages : List Message) :
    (t.collect messages).errors = t.errors := by
  induction messages generalizing t with
  | nil => rfl
  | cons message rest ih => rw [collect_cons, ih, flag_errors]

theorem mem_collect (t : Tally) (messages : List Message) (key : String) :
    key ∈ (t.collect messages).flagged ↔
      key ∈ t.flagged ∨ key ∈ messages.map (·.identityKey) := by
  induction messages generalizing t with
  | nil => exact ⟨Or.inl, fun h => h.elim id fun h => absurd h List.not_mem_nil⟩
  | cons message rest ih => rw [collect_cons, ih, mem_flag, List.map_cons, List.mem_cons, or_assoc]

theorem nodup_collect {t : Tally} (h : t.flagged.Nodup) (messages : List Message) :
    (t.collect messages).flagged.Nodup := by
  induction messages generalizing t with
  | nil => exact h
  | cons message rest ih => exact ih (nodup_flag h message.identityKey)

/-- The tally is right for the entries of a span. -/
structure Counts (t : Tally) (span : List Entry) : Prop where
  errors : t.errors = min maxErrors (Book.failures span)
  nodup : t.flagged.Nodup
  keys : ∀ key, key ∈ t.flagged ↔ key ∈ Book.keys span

variable {t : Tally} {span : List Entry}

theorem Counts.empty : Tally.empty.Counts [] :=
  ⟨(Nat.min_zero _).symm, List.nodup_nil, fun _ => Iff.rfl⟩

theorem Counts.countError (h : t.Counts span) {entry : Entry} (hfailure : entry.isFailure = true)
    (hkeys : entry.keys = []) : t.countError.Counts (entry :: span) := by
  refine ⟨?_, h.nodup, ?_⟩
  · have herrors := h.errors
    simp only [Tally.countError, Book.failures, List.countP_cons_of_pos hfailure] at herrors ⊢
    omega
  · intro key
    rw [Book.keys, List.flatMap_cons, hkeys, List.nil_append]
    exact h.keys key

theorem Counts.collect (h : t.Counts span) {entry : Entry} (hfailure : entry.isFailure = false)
    {messages : List Message} (hkeys : entry.keys = messages.map (·.identityKey)) :
    (t.collect messages).Counts (entry :: span) := by
  refine ⟨?_, nodup_collect h.nodup messages, ?_⟩
  · rw [collect_errors, h.errors, Book.failures, Book.failures,
      List.countP_cons_of_neg (Bool.not_eq_true _ ▸ hfailure)]
  · intro key
    rw [mem_collect, h.keys key, Book.keys, Book.keys, List.flatMap_cons, hkeys, List.mem_append, or_comm]

/-- An entry about which the tally has nothing to remember. -/
theorem Counts.aside (h : t.Counts span) {entry : Entry} (hfailure : entry.isFailure = false)
    (hkeys : entry.keys = []) : t.Counts (entry :: span) := by
  have hnone : entry.keys = ([] : List Message).map (·.identityKey) := hkeys
  exact h.collect hfailure hnone

theorem Counts.perm (h : t.Counts span) : t.flagged.Perm (Book.keys span).dedup := by
  rw [List.perm_ext_iff_of_nodup h.nodup (List.nodup_dedup _)]
  intro key
  rw [h.keys key, List.mem_dedup]

/-- A report made from the right tally says what it should. -/
theorem Counts.report (h : t.Counts span) (name : String) :
    Reporter.report name t = Book.summary name span := by
  rw [Reporter.report, Book.summary, h.errors, h.perm.length_eq]

end Tally

end ValidatorAlarm
