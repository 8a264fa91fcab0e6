import ValidatorAlarm.Monitor
import ValidatorAlarm.Proofs.Timeline.Signal

/-!
# How long the network is asked

A cycle looks for problems by one request for the ratings and one request for each account with an
address, with a pause after each of these.  All of this heeds the signal of the cycle.  If nobody
cancels it, the time it takes is that of the replies and of the pauses, each as far as one wait goes.
-/
namespace ValidatorAlarm

theorem Site.note_eq (s : Site) (event : Event) {m m' : Moment} (h : m.now = m'.now) :
    s.note event m = s.note event m' :=
  congrArg (fun now => { s with history := (now, event) :: s.history }) h

/-! ### Requests -/

namespace Work

variable {token : Token} {event : Event} {reply : Site → Site × Reply}

theorem exchange_heeds :
    (exchange (some token) event reply).Heeds token (.error .cancelled) := by
  have hanswer : ∀ answer : Reply, ((Task.pause answer.latency (some token) : Work Bool).bind
      fun passed => .done (if passed then answer.result else .error .cancelled)).Heeds token
        (.error .cancelled) := by
    intro answer
    exact Task.Heeds.bind (Task.Heeds.pause _) rfl fun _ => trivial
  constructor
  · intro m s
    change Task.Heeds token _ (if (some token).any m.cancelled then _ else _)
    split
    · trivial
    · exact ⟨fun m m' s hnow => s.note_eq event hnow,
        fun m s => ⟨fun _ _ _ _ => rfl, hanswer _⟩, fun _ _ _ _ _ => rfl⟩
  · intro m m' s _ hcancelled
    change (if (some token).any m.cancelled then _ else _) =
      (if (some token).any m'.cancelled then _ else _)
    rw [Option.any_some, Option.any_some, hcancelled]

/-- A request is noted at once, and its result is there when the reply has come. -/
theorem exchange_course (now : Nat) (s : Site) :
    (exchange (some token) event reply).course now s =
      (now + min (reply (s.note event (.calm now))).2.latency longestWait,
        (reply (s.note event (.calm now))).1, some (reply (s.note event (.calm now))).2.result) := rfl

/-- If the signal has been cancelled, no request is made. -/
theorem exchange_cancelled {a : Agenda Site} (h : a.moment.cancelled token = true) :
    a.perform (exchange (some token) event reply) = (a, some (.error .cancelled)) := by
  change a.perform (if (some token).any a.moment.cancelled then _ else _) = _
  rw [Option.any_some, h, if_pos rfl]
  rfl

end Work

namespace Network

/-! ### The ratings -/

theorem ratings_heeds (token : Token) : (ratings token).Heeds token (.error .cancelled) :=
  Task.Heeds.bind Work.exchange_heeds rfl fun _ => trivial

/-- The query for ratings takes as long as its reply, and leaves the script of the contract alone. -/
theorem ratings_course (token : Token) (now : Nat) (s : Site) :
    ∃ s' rated, (ratings token).course now s =
      (now + min s.statistics.next.2.latency longestWait, s', some rated) ∧
        s'.contract = s.contract :=
  ⟨_, _, Task.course_bind (Work.exchange_course now s), rfl⟩

/-! ### The staked keys -/

theorem noteMisfits_bind_heeds {α : Type} {token : Token} {x : α}
    (pairs : List (List UInt8 × List UInt8)) {k : Unit → Work α} (h : (k ()).Heeds token x) :
    ((noteMisfits pairs).bind k).Heeds token x := by
  induction pairs with
  | nil => exact h
  | cons pair rest ih =>
    simp only [noteMisfits]
    split
    · exact ⟨fun m m' s hnow => s.note_eq _ hnow, ih⟩
    · exact ih

theorem noteMisfits_course (pairs : List (List UInt8 × List UInt8)) (now : Nat) (s : Site) :
    ∃ s', (noteMisfits pairs).course now s = (now, s', some ()) ∧ s'.contract = s.contract := by
  induction pairs generalizing s with
  | nil => exact ⟨s, rfl, rfl⟩
  | cons pair rest ih =>
    simp only [noteMisfits]
    split
    · exact ih (s.note (.badKey pair.1.length) (.calm now))
    · exact ih s

theorem askAccount_heeds (token : Token) (hex : String) :
    (askAccount token hex).Heeds token (.error .cancelled) := by
  refine Task.Heeds.bind Work.exchange_heeds ?_ ?_
  · rfl
  · intro result
    split
    · trivial
    · exact noteMisfits_bind_heeds _ trivial

theorem askAccount_course (token : Token) (hex : String) (now : Nat) (s : Site) :
    ∃ s' asked, (askAccount token hex).course now s =
      (now + min s.contract.next.2.latency longestWait, s', some asked) ∧
        s'.contract = s.contract.next.1 := by
  rw [askAccount, Task.bind_eq, Task.course_bind (Work.exchange_course now s)]
  split
  · exact ⟨_, _, rfl, rfl⟩
  · rename_i items hread
    obtain ⟨s', hmisfits, hcontract⟩ := noteMisfits_course (inPairs items)
      (now + min s.contract.next.2.latency longestWait)
      (s.note (.post none contractEndpoint (stakedKeysQuery hex)) (.calm now)).contractReply.1
    exact ⟨s', _, Task.course_bind hmisfits, hcontract⟩

/-- The time of the queries about some accounts, with the pause after each, the last one included. -/
def askingTime (pause : Duration) : Script Reply → List Account → Nat
  | _, [] => 0
  | contract, account :: rest =>
    if account.hex = "" then askingTime pause contract rest
    else min contract.next.2.latency longestWait + min pause.milliseconds longestWait +
      askingTime pause contract.next.1 rest

variable (token : Token) (pause : Duration)

theorem stakedKeys_heeds (accounts : List Account) :
    (stakedKeys token pause accounts).Heeds token (.error .cancelled) := by
  induction accounts with
  | nil => trivial
  | cons account rest ih =>
    rw [stakedKeys]
    split
    · exact ih
    · refine Task.Heeds.bind (askAccount_heeds token account.hex) ?_ ?_
      · rfl
      · intro asked
        cases asked with
        | error fault => trivial
        | ok keys =>
          refine Task.Heeds.bind (Task.Heeds.pause _) ?_ ?_
          · rfl
          · intro passed
            cases passed with
            | false => trivial
            | true => exact Task.Heeds.bind ih rfl fun _ => trivial

/-- Queries that succeed are all made, one after the other. -/
theorem stakedKeys_course (accounts : List Account) (now : Nat) (s : Site) :
    ∃ now' s' staked, (stakedKeys token pause accounts).course now s = (now', s', some staked) ∧
      ∀ keys, staked = .ok keys → now' = now + askingTime pause s.contract accounts := by
  induction accounts generalizing now s with
  | nil => exact ⟨now, s, .ok [], rfl, fun _ _ => rfl⟩
  | cons account rest ih =>
    rw [stakedKeys, askingTime]
    split
    · exact ih now s
    · obtain ⟨s₁, asked, hasked, hcontract⟩ := askAccount_course token account.hex now s
      rw [Task.bind_eq, Task.course_bind hasked]
      cases asked with
      | error fault =>
        refine ⟨_, s₁, .error fault, rfl, ?_⟩
        intro keys h
        cases h
      | ok keys =>
        obtain ⟨now', s', staked, hstaked, htime⟩ :=
          ih (now + min s.contract.next.2.latency longestWait + min pause.milliseconds longestWait) s₁
        refine ⟨now', s', staked.map (keys ++ ·), ?_, ?_⟩
        · simp only
          rw [Task.bind_eq, Task.course_bind (Task.pause_course _ _ _ _), if_pos rfl, Task.bind_eq,
            Task.course_bind hstaked]
          rfl
        · intro all hall
          cases staked with
          | error fault => cases hall
          | ok others =>
            rw [htime others rfl, hcontract]
            omega

/-! ### Two responses -/

/-- A response in which the key `k` has lost all its rating. -/
def lostRating : Response :=
  ⟨200, Text.utf8 "\x7b\"data\":\x7b\"statistics\":\x7b\"k\":\x7b\x7d\x7d\x7d\x7d"⟩

/-- A response of the contract that tells of no keys. -/
def noKeys : Response := ⟨200, Text.utf8 "\x7b\x7d"⟩

end Network

/-! ### Looking for problems -/

namespace Monitor

variable (w : Monitor) (token : Token)

theorem findProblems_heeds : (w.findProblems token).Heeds token (.error .cancelled) := by
  refine Task.Heeds.bind (Network.ratings_heeds token) ?_ ?_
  · rfl
  · intro rated
    cases rated with
    | error fault => trivial
    | ok snapshot =>
      refine Task.Heeds.bind (Network.stakedKeys_heeds token w.queryPause w.accounts) ?_ ?_
      · rfl
      · intro staked
        cases staked with
        | error fault => trivial
        | ok keys => trivial

variable {w token} in
/-- A search that nobody cancels and whose queries succeed takes the time of all their replies and pauses,
and ends with what the check tells. -/
theorem findProblems_course {a asked looked : Agenda Site} {snapshot : Snapshot} {staked : List String}
    (hnever : a.Awaits token none)
    (hrated : a.perform (Network.ratings token) = (asked, some (.ok snapshot)))
    (hstaked : asked.perform (Network.stakedKeys token w.queryPause w.accounts) =
      (looked, some (.ok staked))) :
    (w.findProblems token).course a.now a.state =
        (looked.now, looked.state, some (w.check snapshot staked)) ∧
      looked.loops = [] ∧
      looked.now = a.now + min a.state.statistics.next.2.latency longestWait +
        Network.askingTime w.queryPause a.state.contract w.accounts := by
  obtain ⟨hfirst, hasked⟩ := Agenda.course_of_perform (Network.ratings_heeds token) hnever hrated
  obtain ⟨hsecond, hlooked⟩ := Agenda.course_of_perform
    (Network.stakedKeys_heeds token w.queryPause w.accounts) hasked hstaked
  refine ⟨?_, hlooked.loops, ?_⟩
  · rw [findProblems, Task.bind_eq, Task.course_bind hfirst]
    simp only
    rw [Task.bind_eq, Task.course_bind hsecond]
    rfl
  · obtain ⟨site, rated, hrating, hcontract⟩ := Network.ratings_course token a.now a.state
    obtain ⟨now, site', fetched, hfetching, htime⟩ := Network.stakedKeys_course token w.queryPause
      w.accounts asked.now asked.state
    obtain ⟨hnow, hstate⟩ := Prod.mk.inj (hfirst.symm.trans hrating)
    obtain ⟨rfl, hfetched⟩ := Prod.mk.inj (hsecond.symm.trans hfetching)
    rw [htime staked (Option.some.inj (Prod.mk.inj hfetched).2).symm, hnow, (Prod.mk.inj hstate).1, hcontract]

/-- A search whose signal has been cancelled ends at once. -/
theorem findProblems_cancelled {a : Agenda Site} (h : a.moment.cancelled token = true) :
    a.perform (w.findProblems token) = (a, some (.error .cancelled)) := by
  have hrated : a.perform (Network.ratings token) = (a, some (.error .cancelled)) :=
    Agenda.perform_bind_of_some (Work.exchange_cancelled h)
  exact Agenda.perform_bind_of_some hrated

end Monitor

end ValidatorAlarm
