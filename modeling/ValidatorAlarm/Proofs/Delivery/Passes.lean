import Mathlib.Algebra.GroupWithZero.Nat
import ValidatorAlarm.Proofs.Delivery.Attempt

/-!
# Passes over channels

A call of a fanout makes attempts, pass by pass.  What the attempts of the call will be is settled
before it begins, by the replies that each channel has in store: `Site.round` names those of one
pass, without any reference to the passes before it.  The two main lemmas say that one pass
(`Fanout.pass_ends`) and the retries that follow it (`Fanout.retryFrom_ends`) make exactly these
attempts, one after the other, and how long that takes.
-/
namespace ValidatorAlarm

/-- One delivery: through which channel, whether it succeeds, and how long it takes. -/
structure Attempt where
  index : Nat
  channel : Channel
  succeeds : Bool
  duration : Nat

namespace Attempt

/-- What an attempt that begins at the given time leaves on record. -/
def record (messages : List Message) (retry : Option Nat) (begun : Nat) (x : Attempt) :
    List (Nat × Event) :=
  (x.channel.request x.index messages).map (begun, ·) ++
    if x.succeeds then [] else [(begun + x.duration, .sendFailed (x.channel.label x.index) retry)]

/-- The time that some attempts take, one after the other. -/
def total (xs : List Attempt) : Nat := (xs.map duration).sum

theorem total_cons (x : Attempt) (xs : List Attempt) : total (x :: xs) = x.duration + total xs := by
  rw [total, List.map_cons, List.sum_cons]
  rfl

/-- What some attempts leave on record, each of which begins when the one before it has ended. -/
def recordAll (messages : List Message) (retry : Option Nat) :
    Nat → List Attempt → List (Nat × Event)
  | _, [] => []
  | begun, x :: rest =>
    x.record messages retry begun ++ recordAll messages retry (begun + x.duration) rest

/-- What retries leave on record, numbered from `retry` on, each after a delay. -/
def recordRetries (messages : List Message) (delay : Nat) :
    Nat → Nat → List (List Attempt) → List (Nat × Event)
  | _, _, [] => []
  | retry, ended, pass :: rest =>
    recordAll messages (some retry) (ended + delay) pass ++
      recordRetries messages delay (retry + 1) (ended + delay + total pass) rest

/-- What a call leaves on record: its first pass, and then the retries. -/
def recordCall (messages : List Message) (delay begun : Nat) :
    List (List Attempt) → List (Nat × Event)
  | [] => []
  | pass :: retries =>
    recordAll messages none begun pass ++
      recordRetries messages delay 0 (begun + total pass) retries

/-- The time that retries take, each after a delay. -/
def totalRetries (delay : Nat) (passes : List (List Attempt)) : Nat :=
  (passes.map fun pass => delay + total pass).sum

theorem totalRetries_cons (delay : Nat) (pass : List Attempt) (passes : List (List Attempt)) :
    totalRetries delay (pass :: passes) = delay + total pass + totalRetries delay passes := by
  rw [totalRetries, List.map_cons, List.sum_cons]
  rfl

theorem totalRetries_eq (delay : Nat) (passes : List (List Attempt)) :
    totalRetries delay passes = (passes.map total).sum + passes.length * delay := by
  induction passes with
  | nil => simp [totalRetries]
  | cons pass rest ih =>
    rw [totalRetries_cons, ih, List.map_cons, List.sum_cons, List.length_cons, Nat.succ_mul]
    omega

end Attempt

namespace Site

/-- The attempt number `n` from now on, counted from zero, through a channel at its position. -/
def attempt (s : Site) (place : Nat × Channel) (n : Nat) : Attempt where
  index := place.1
  channel := place.2
  succeeds := place.2.accepts (s.reply place.1 n)
  duration := place.2.duration (s.reply place.1 n)

/-- The first `n` attempts all fail. -/
def Pending (s : Site) (n : Nat) (place : Nat × Channel) : Prop :=
  ∀ earlier < n, (s.attempt place earlier).succeeds = false

instance (s : Site) (n : Nat) (place : Nat × Channel) : Decidable (s.Pending n place) :=
  inferInstanceAs (Decidable (∀ earlier < n, _))

/-- The attempts number `n` through those channels that have failed in all attempts before. -/
def round (s : Site) (places : List (Nat × Channel)) (n : Nat) : List Attempt :=
  (places.filter (s.Pending n ·)).map (s.attempt · n)

/-- The passes, out of the first `n`, in which there is something to do. -/
def rounds (s : Site) (places : List (Nat × Channel)) (n : Nat) : List (List Attempt) :=
  ((List.range n).map (s.round places)).filter (!·.isEmpty)

theorem pending_zero (s : Site) (place : Nat × Channel) : s.Pending 0 place := by
  intro earlier hearlier
  omega

theorem pending_succ (s : Site) (n : Nat) (place : Nat × Channel) :
    s.Pending (n + 1) place ↔
      (s.attempt place 0).succeeds = false ∧
        ∀ earlier < n, (s.attempt place (earlier + 1)).succeeds = false := by
  constructor
  · intro h
    exact ⟨h 0 (by omega), fun earlier hearlier => h (earlier + 1) (by omega)⟩
  · rintro ⟨hfirst, hrest⟩ earlier hearlier
    cases earlier with
    | zero => exact hfirst
    | succ earlier => exact hrest earlier (by omega)

theorem Pending.mono {s : Site} {n n' : Nat} {place : Nat × Channel} (h : s.Pending n' place)
    (hle : n ≤ n') : s.Pending n place :=
  fun earlier hearlier => h earlier (by omega)

theorem filter_pending_zero (s : Site) (places : List (Nat × Channel)) :
    places.filter (s.Pending 0 ·) = places := by
  rw [List.filter_eq_self]
  intro place _
  exact decide_eq_true (s.pending_zero place)

theorem round_zero (s : Site) (places : List (Nat × Channel)) :
    s.round places 0 = places.map (s.attempt · 0) := by
  rw [round, filter_pending_zero]

/-- Whoever fails once more than `n` times fails in a pass, and `n` times after it. -/
theorem filter_pending_succ {s s' : Site} {places : List (Nat × Channel)}
    (hlater : ∀ place ∈ places, ∀ n, s'.attempt place n = s.attempt place (n + 1)) (n : Nat) :
    places.filter (s.Pending (n + 1) ·) =
      (places.filter fun place => !(s.attempt place 0).succeeds).filter (s'.Pending n ·) := by
  rw [List.filter_filter]
  apply List.filter_congr
  intro place hplace
  have hiff : s.Pending (n + 1) place ↔
      s'.Pending n place ∧ (s.attempt place 0).succeeds = false := by
    rw [pending_succ, and_comm]
    simp only [Pending, hlater place hplace]
  rw [decide_eq_decide.mpr hiff, Bool.decide_and]
  simp

theorem round_succ {s s' : Site} {places : List (Nat × Channel)}
    (hlater : ∀ place ∈ places, ∀ n, s'.attempt place n = s.attempt place (n + 1)) (n : Nat) :
    s.round places (n + 1) =
      s'.round (places.filter fun place => !(s.attempt place 0).succeeds) n := by
  unfold round
  rw [filter_pending_succ hlater]
  apply List.map_congr_left
  intro place hplace
  rw [hlater place (List.mem_filter.mp (List.mem_filter.mp hplace).1).1]

theorem rounds_nil (s : Site) (n : Nat) : s.rounds [] n = [] := by
  simp [rounds, round]

/-- With channels to call, the first of some passes takes place, and then those that remain. -/
theorem rounds_succ {s s' : Site} {places : List (Nat × Channel)} (hsome : places ≠ [])
    (hlater : ∀ place ∈ places, ∀ n, s'.attempt place n = s.attempt place (n + 1)) (n : Nat) :
    s.rounds places (n + 1) = places.map (s.attempt · 0) ::
      s'.rounds (places.filter fun place => !(s.attempt place 0).succeeds) n := by
  have hfirst : (s.round places 0).isEmpty = false := by
    rw [round_zero]
    simpa using hsome
  unfold rounds
  rw [List.range_succ_eq_map, List.map_cons, List.filter_cons, hfirst, Bool.not_false, if_pos rfl,
    round_zero, List.map_map]
  congr 2
  apply List.map_congr_left
  intro k _
  exact round_succ hlater k

end Site

namespace Channel

theorem delivered_reply {channel : Channel} (hlog : channel ≠ .log) (index other : Nat)
    (messages : List Message) (now : Nat) (s : Site) (n : Nat) :
    (channel.delivered index messages now s).reply other n = (s.requested index).reply other n := by
  cases channel with
  | log => exact absurd rfl hlog
  | _ => rfl

theorem delivered_attempt_self (channel : Channel) (index : Nat) (messages : List Message)
    (now : Nat) (s : Site) (n : Nat) :
    (channel.delivered index messages now s).attempt (index, channel) n =
      s.attempt (index, channel) (n + 1) := by
  by_cases hlog : channel = .log
  · subst hlog
    rfl
  · simp only [Site.attempt, delivered_reply hlog, Site.requested_reply_self]

theorem delivered_attempt_other (channel : Channel) {index : Nat} (messages : List Message)
    (now : Nat) (s : Site) {place : Nat × Channel} (h : index ≠ place.1) (n : Nat) :
    (channel.delivered index messages now s).attempt place n = s.attempt place n := by
  by_cases hlog : channel = .log
  · subst hlog
    rfl
  · simp only [Site.attempt, delivered_reply hlog, Site.requested_reply_other s h]

end Channel

/-! ### One pass -/

namespace Fanout

variable {messages : List Message} {retry : Option Nat}

/-- What is known of a site after a pass over some channels that began at the time `now`: what the
pass has left on record, that it has used up one attempt of each of the channels, and none of any
other. -/
structure PassedOver (messages : List Message) (retry : Option Nat) (places : List (Nat × Channel))
    (now : Nat) (s s' : Site) : Prop where
  history : s'.history =
    (Attempt.recordAll messages retry now (places.map (s.attempt · 0))).reverse ++ s.history
  used : ∀ place ∈ places, ∀ n, s'.attempt place n = s.attempt place (n + 1)
  kept : ∀ place, place.1 ∉ places.map (·.1) → ∀ n, s'.attempt place n = s.attempt place n

/-- The site between the attempt of one channel and those of the others: one attempt of the channel
has left its record and is used up, and nothing has happened to the others. -/
structure AttemptedAt (messages : List Message) (retry : Option Nat) (place : Nat × Channel)
    (now : Nat) (s s₁ : Site) : Prop where
  history : s₁.history = ((s.attempt place 0).record messages retry now).reverse ++ s.history
  used : ∀ n, s₁.attempt place n = s.attempt place (n + 1)
  kept : ∀ other : Nat × Channel, place.1 ≠ other.1 → ∀ n, s₁.attempt other n = s.attempt other n

theorem AttemptedAt.rest {place : Nat × Channel} {rest : List (Nat × Channel)} {now : Nat}
    {s s₁ : Site} (h : AttemptedAt messages retry place now s s₁) (hfresh : place.1 ∉ rest.map (·.1)) :
    ∀ other ∈ rest, ∀ n, s₁.attempt other n = s.attempt other n := by
  intro other hother n
  apply h.kept
  intro hsame
  exact hfresh (hsame ▸ List.mem_map_of_mem hother)

/-- A pass over a channel and then over others, of which it is none. -/
theorem PassedOver.cons {place : Nat × Channel} {rest : List (Nat × Channel)} {now : Nat}
    {s s₁ s' : Site} (hfresh : place.1 ∉ rest.map (·.1))
    (hfirst : AttemptedAt messages retry place now s s₁)
    (hrest : PassedOver messages retry rest (now + (s.attempt place 0).duration) s₁ s') :
    PassedOver messages retry (place :: rest) now s s' := by
  have hmap : rest.map (s₁.attempt · 0) = rest.map (s.attempt · 0) :=
    List.map_congr_left fun other hother => hfirst.rest hfresh other hother 0
  constructor
  · rw [hrest.history, hmap, hfirst.history, List.map_cons, Attempt.recordAll, List.reverse_append,
      List.append_assoc]
  · intro other hother n
    rcases List.mem_cons.mp hother with rfl | hmem
    · rw [hrest.kept _ hfresh, hfirst.used]
    · rw [hrest.used other hmem, hfirst.rest hfresh other hmem]
  · intro other hother n
    simp only [List.map_cons, List.mem_cons, not_or] at hother
    rw [hrest.kept other hother.2]
    exact hfirst.kept other (Ne.symm hother.1) n

theorem attempt_ends (first : Message) (others : List Message) (retry : Option Nat)
    (index : Nat) (channel : Channel) (now : Nat) (s : Site) :
    ∃ s₁, AttemptedAt (first :: others) retry (index, channel) now s s₁ ∧
      ((s.attempt (index, channel) 0).succeeds = true →
        Task.Ends (channel.send index (first :: others)) now s
          (now + (s.attempt (index, channel) 0).duration) s₁ (.ok ())) ∧
      ((s.attempt (index, channel) 0).succeeds = false → ∃ s₀ fault,
        Task.Ends (channel.send index (first :: others)) now s
          (now + (s.attempt (index, channel) 0).duration) s₀ (.error fault) ∧
        Task.Ends (Work.note (.sendFailed (channel.label index) retry))
          (now + (s.attempt (index, channel) 0).duration) s₀
          (now + (s.attempt (index, channel) 0).duration) s₁ ()) := by
  have hsend : Task.Ends (channel.send index (first :: others)) now s _ _ _ :=
    channel.send_ends index first others
  have hself := channel.delivered_attempt_self index (first :: others) now s
  have hother (other : Nat × Channel) (h : index ≠ other.1) :=
    channel.delivered_attempt_other (first :: others) now s h
  rcases hjudge : channel.judge (s.reply index 0) with fault | ⟨⟨⟩⟩
  · have hfails : (s.attempt (index, channel) 0).succeeds = false := by
      simp only [Site.attempt, Channel.accepts, hjudge]
      rfl
    rw [hjudge] at hsend
    refine ⟨{ channel.delivered index (first :: others) now s with
        history := (now + (s.attempt (index, channel) 0).duration,
          .sendFailed (channel.label index) retry) ::
            (channel.delivered index (first :: others) now s).history },
      ⟨?_, hself, hother⟩, ?_, fun _ => ⟨_, fault, hsend, Work.note_ends _⟩⟩
    · rw [Attempt.record, hfails, if_neg Bool.false_ne_true, List.reverse_append]
      rfl
    · intro h
      rw [hfails] at h
      cases h
  · have hsucceeds : (s.attempt (index, channel) 0).succeeds = true := by
      simp only [Site.attempt, Channel.accepts, hjudge]
      rfl
    rw [hjudge] at hsend
    refine ⟨_, ⟨?_, hself, hother⟩, fun _ => hsend, ?_⟩
    · rw [Attempt.record, hsucceeds, if_pos rfl, List.append_nil]
      rfl
    · intro h
      rw [hsucceeds] at h
      cases h

/-- **One pass.**  Each of the channels makes its next attempt, one after the other; the result are
those whose attempt has failed. -/
theorem pass_ends (first : Message) (others : List Message) (retry : Option Nat)
    (places : List (Nat × Channel)) (hdistinct : (places.map (·.1)).Nodup) (now : Nat) (s : Site) :
    ∃ s', Task.Ends (pass (first :: others) retry places) now s
        (now + Attempt.total (places.map (s.attempt · 0))) s'
        (places.filter fun place => !(s.attempt place 0).succeeds) ∧
      PassedOver (first :: others) retry places now s s' := by
  induction places generalizing now s with
  | nil =>
    refine ⟨s, Task.Ends.done _, rfl, ?_, fun place _ n => rfl⟩
    intro place hplace
    cases hplace
  | cons place rest ih =>
    obtain ⟨index, channel⟩ := place
    obtain ⟨hfresh, hdistinct⟩ := List.nodup_cons.mp hdistinct
    obtain ⟨s₁, hattempted, hsuccess, hfailure⟩ :=
      attempt_ends first others retry index channel now s
    obtain ⟨s', hrest, hpassed⟩ :=
      ih hdistinct (now + (s.attempt (index, channel) 0).duration) s₁
    have hsame := hattempted.rest hfresh
    rw [List.map_congr_left fun other hother => hsame other hother 0,
      List.filter_congr fun other hother => by rw [hsame other hother 0]] at hrest
    refine ⟨s', ?_, hpassed.cons hfresh hattempted⟩
    rw [List.filter_cons, List.map_cons, Attempt.total_cons, ← Nat.add_assoc]
    rcases hsucceeds : (s.attempt (index, channel) 0).succeeds with _ | _
    · obtain ⟨s₀, fault, hsend, hnote⟩ := hfailure hsucceeds
      exact Task.Ends.bind hsend (Task.Ends.bind hnote (Task.Ends.bind hrest (Task.Ends.done _)))
    · exact Task.Ends.bind (hsuccess hsucceeds) hrest

/-! ### Retries -/

theorem distinct_filter {places : List (Nat × Channel)} (h : (places.map (·.1)).Nodup)
    (p : Nat × Channel → Bool) : ((places.filter p).map (·.1)).Nodup :=
  h.sublist (List.filter_sublist.map _)

/-- **Retries.**  As long as some channels have failed, these and no others make their next attempt
after the delay; the result are those that fail to the last. -/
theorem retryFrom_ends (first : Message) (others : List Message) (delay retry left : Nat)
    (places : List (Nat × Channel)) (hdistinct : (places.map (·.1)).Nodup) (now : Nat) (s : Site) :
    ∃ s', Task.Ends (retryFrom delay (first :: others) retry left places) now s
        (now + Attempt.totalRetries (min delay longestWait) (s.rounds places left)) s'
        (places.filter (s.Pending left ·)) ∧
      s'.history = (Attempt.recordRetries (first :: others) (min delay longestWait) retry now
        (s.rounds places left)).reverse ++ s.history := by
  induction left generalizing retry places now s with
  | zero =>
    rw [s.filter_pending_zero]
    exact ⟨s, Task.Ends.done places, rfl⟩
  | succ left ih =>
    rw [retryFrom]
    cases places with
    | nil =>
      rw [s.rounds_nil]
      exact ⟨s, Task.Ends.done _, rfl⟩
    | cons place rest =>
      obtain ⟨s₁, hpass, hpassed⟩ := pass_ends first others (some retry) (place :: rest) hdistinct
        (now + min delay longestWait) s
      obtain ⟨s', hretries, hhistory⟩ := ih (retry + 1) _ (distinct_filter hdistinct _)
        (now + min delay longestWait + Attempt.total ((place :: rest).map (s.attempt · 0))) s₁
      rw [Site.rounds_succ (List.cons_ne_nil place rest) hpassed.used,
        Site.filter_pending_succ hpassed.used]
      refine ⟨s', ?_, ?_⟩
      · rw [Attempt.totalRetries_cons, ← Nat.add_assoc, ← Nat.add_assoc]
        exact Task.Ends.bind (Task.Ends.sleep delay) (Task.Ends.bind hpass hretries)
      · rw [hhistory, hpassed.history, Attempt.recordRetries, List.reverse_append,
          List.append_assoc]

end Fanout

end ValidatorAlarm
