import Mathlib.Algebra.GroupWithZero.Nat
import ValidatorAlarm.Proofs.Monitor.Looking
import ValidatorAlarm.Proofs.Network.Replies

/-!
# A round of queries

The contract is asked about the accounts with an address, one after the other.  When each of these
queries is sent follows from the replies before it, as long as nothing cuts the round short.

A round ends in one of three ways: with the keys of all its replies, with the fault of its first bad
reply, or with a cancellation.  There is no other way, whatever is cancelled at whatever time; so no
round returns the keys of some of its accounts only.
-/
namespace ValidatorAlarm

namespace Agenda

variable {σ : Type}

/-- A wait that takes its time is over at its end, and one that does not was cut short by its signal. -/
theorem passUntil_end (token : Token) {limit : Nat} {a : Agenda σ} (h : a.now ≤ limit) :
    a.now ≤ (a.passUntil limit (some token)).1.now ∧
      ((a.passUntil limit (some token)).2 = true → (a.passUntil limit (some token)).1.now = limit) ∧
      ((a.passUntil limit (some token)).2 = false →
        token ∈ (a.passUntil limit (some token)).1.cancelled) := by
  fun_induction Agenda.passUntil limit (some token) a with
  | case1 a settled hcut => exact ⟨Nat.le_refl _, Bool.noConfusion, fun _ => List.contains_iff_mem.mp hcut⟩
  | case2 a settled hcut hnext => exact ⟨h, fun _ => rfl, Bool.noConfusion⟩
  | case3 a settled hcut next hnext hlater ih =>
    obtain ⟨hle, hend⟩ := ih (Nat.le_of_lt hlater.2)
    exact ⟨Nat.le_trans (Nat.le_of_lt hlater.1) hle, hend⟩
  | case4 a settled hcut next hnext hlater => exact ⟨h, fun _ => rfl, Bool.noConfusion⟩

/-- A pause takes its time or is cut short by its signal, and changes nothing else. -/
theorem perform_pause (ms : Nat) (token : Token) {a : Agenda σ} (h : a.loops = []) :
    ∃ b passed, a.perform (Task.pause ms (some token)) = (b, some passed) ∧ b.loops = [] ∧
      b.state = a.state ∧ a.now ≤ b.now ∧
      (passed = true → b.now = a.now + min ms longestWait) ∧
      (passed = false → token ∈ b.cancelled) := by
  rw [Task.pause, perform_wait]
  split
  · rename_i hcut
    exact ⟨a, false, rfl, h, rfl, Nat.le_refl _, Bool.noConfusion, fun _ => List.contains_iff_mem.mp hcut⟩
  · split
    · rename_i hzero
      subst hzero
      exact ⟨a, true, rfl, h, rfl, Nat.le_refl _, fun _ => by rw [Nat.zero_min, Nat.add_zero],
        Bool.noConfusion⟩
    · have hlimit : a.now ≤ a.moment.after ms := Nat.le_add_right _ _
      obtain ⟨hloops, hstate⟩ := passUntil_alone (a.moment.after ms) (some token) h
      obtain ⟨hle, hend, hcut⟩ := passUntil_end token hlimit
      exact ⟨_, _, rfl, hloops, hstate, hle, hend, hcut⟩

end Agenda

/-! ### What is sent -/

def Event.isPost : Event → Bool
  | .post _ _ _ => true
  | _ => false

/-- Between the two sites these requests were posted and no others; the first of them comes first. -/
def Site.Posts (before after : Site) (posts : List (Nat × Event)) : Prop :=
  ∃ events : List (Nat × Event),
    after.history = events.reverse ++ before.history ∧ events.filter (·.2.isPost) = posts

namespace Site.Posts

variable {s s₁ s₂ : Site} {posts posts₁ posts₂ : List (Nat × Event)}

theorem refl (s : Site) : s.Posts s [] := ⟨[], rfl, rfl⟩

theorem trans (h₁ : s.Posts s₁ posts₁) (h₂ : s₁.Posts s₂ posts₂) : s.Posts s₂ (posts₁ ++ posts₂) := by
  obtain ⟨events₁, hhistory₁, rfl⟩ := h₁
  obtain ⟨events₂, hhistory₂, rfl⟩ := h₂
  refine ⟨events₁ ++ events₂, ?_, List.filter_append ..⟩
  rw [hhistory₂, hhistory₁, List.reverse_append, List.append_assoc]

/-- Where nothing has happened, nothing was posted. -/
theorem eq_nil (h : s.Posts s posts) : posts = [] := by
  obtain ⟨events, hhistory, rfl⟩ := h
  have hevents : events.reverse = [] := List.self_eq_append_left.mp hhistory
  rw [List.reverse_eq_nil_iff.mp hevents]
  rfl

/-- A note is no request. -/
theorem note {event : Event} (h : event.isPost = false) (s : Site) (m : Moment) :
    s.Posts (s.note event m) [] :=
  ⟨[(m.now, event)], rfl, by simp [h]⟩

end Site.Posts

namespace Network

/-- A round of queries: when it begins, the pause after each query, the addresses of the accounts that
are asked about, and the replies in their order. -/
structure Round where
  reply : Nat → Reply
  hexes : List String
  pause : Duration
  start : Nat

namespace Round

variable (r : Round)

/-- The time from one query to the next: that of the reply and of the pause behind it, each as far as
one wait goes. -/
def spent (k : Nat) : Nat :=
  min (r.reply k).latency longestWait + min r.pause.milliseconds longestWait

def sent (k : Nat) : Nat := r.start + ((List.range k).map r.spent).sum

def arrival (k : Nat) : Nat := r.sent k + min (r.reply k).latency longestWait

/-- The end of a round in which nothing is bad: that of the pause after the last query. -/
def finish : Nat := r.sent r.hexes.length

def queries : List (Nat × Event) :=
  r.hexes.mapIdx fun k hex => (r.sent k, .post none contractEndpoint (stakedKeysQuery hex))

def Good (k : Nat) : Prop := ∀ fault, ¬ Bad (r.reply k) fault

/-- The ways for a round to end, with the number of its queries and its result. -/
inductive Ends (token : Token) (after : Agenda Site) : Nat → Except Fault (List String) → Prop where
  | complete {keys : Nat → List String}
      (htold : ∀ k < r.hexes.length, told (r.reply k) = .ok (keys k)) (hnow : after.now = r.finish) :
      Ends token after r.hexes.length (.ok ((List.range r.hexes.length).flatMap keys))
  | failed {k : Nat} {fault : Fault} (hk : k < r.hexes.length) (hgood : ∀ i < k, r.Good i)
      (hbad : Bad (r.reply k) fault) (hnow : after.now = r.arrival k) :
      Ends token after (k + 1) (.error fault)
  | cut {n : Nat} (hn : n ≤ r.hexes.length) (hgood : ∀ i, i + 1 < n → r.Good i)
      (hcut : token ∈ after.cancelled) :
      Ends token after n (.error .cancelled)

/-- The round without its first query. -/
def rest : Round := ⟨fun k => r.reply (k + 1), r.hexes.tail, r.pause, r.sent 1⟩

theorem rest_spent (k : Nat) : r.rest.spent k = r.spent (k + 1) := by
  have hreply : r.rest.reply k = r.reply (k + 1) := rfl
  have hpause : r.rest.pause = r.pause := rfl
  rw [spent, spent, hreply, hpause]

theorem rest_sent (k : Nat) : r.rest.sent k = r.sent (k + 1) := by
  have hmap : (List.range (k + 1)).map r.spent = r.spent 0 :: (List.range k).map r.rest.spent := by
    have hspent : r.spent ∘ Nat.succ = r.rest.spent := by
      funext k
      rw [Function.comp_apply, rest_spent]
    rw [List.range_succ_eq_map, List.map_cons, List.map_map, hspent]
  have hfirst : r.rest.start = r.start + r.spent 0 := by
    rw [rest, sent, List.range_one, List.map_singleton, List.sum_singleton]
  calc r.rest.sent k
    _ = r.rest.start + ((List.range k).map r.rest.spent).sum := by rw [sent]
    _ = r.start + (r.spent 0 + ((List.range k).map r.rest.spent).sum) := by rw [hfirst, Nat.add_assoc]
    _ = r.sent (k + 1) := by rw [sent, hmap, List.sum_cons]

theorem rest_arrival (k : Nat) : r.rest.arrival k = r.arrival (k + 1) :=
  congrArg (· + _) (r.rest_sent k)

variable {r}

theorem good_of_told {k : Nat} {keys : List String} (h : told (r.reply k) = .ok keys) : r.Good k := by
  intro fault hbad
  cases h.symm.trans (told_eq_error_iff.mpr hbad)

theorem queries_eq {hex : String} {hexes : List String} (h : r.hexes = hex :: hexes) :
    r.queries = (r.start, .post none contractEndpoint (stakedKeysQuery hex)) :: r.rest.queries := by
  have htail : r.rest.hexes = hexes := congrArg List.tail h
  rw [queries, h, List.mapIdx_cons, queries, htail]
  simp only [rest_sent]
  rfl

theorem Ends.within {token : Token} {after : Agenda Site} {n : Nat} {staked : Except Fault (List String)}
    (h : r.Ends token after n staked) : n ≤ r.hexes.length := by
  cases h with
  | complete => exact Nat.le_refl _
  | failed hk => exact hk
  | cut hn => exact hn

/-- The end of what is left of a round is the end of the round. -/
theorem Ends.of_rest {token : Token} {after : Agenda Site} {n : Nat} {staked : Except Fault (List String)}
    {hex : String} {hexes : List String} {keys : List String} (h : r.hexes = hex :: hexes)
    (htold : told (r.reply 0) = .ok keys) (hrest : r.rest.Ends token after n staked) :
    r.Ends token after (n + 1) (staked.map (keys ++ ·)) := by
  have hlength : r.hexes.length = r.rest.hexes.length + 1 := by
    rw [h, rest, h]
    rfl
  have hzero : r.Good 0 := good_of_told htold
  cases hrest with
  | @complete others hothers hnow =>
    have hkeys : (List.range r.hexes.length).flatMap (fun k => Nat.casesOn k keys others) =
        keys ++ (List.range r.rest.hexes.length).flatMap others := by
      rw [hlength, List.range_succ_eq_map, List.flatMap_cons, List.flatMap_map]
      rfl
    rw [← hlength, Except.map, ← hkeys]
    refine .complete ?_ ?_
    · intro k hk
      cases k with
      | zero => exact htold
      | succ k => exact hothers k (by omega)
    · rw [hnow, finish, finish, hlength, rest_sent]
  | failed hk hgood hbad hnow =>
    refine .failed (by omega) ?_ hbad (hnow.trans (r.rest_arrival _))
    intro i hi
    cases i with
    | zero => exact hzero
    | succ i => exact hgood i (by omega)
  | cut hn hgood hcut =>
    refine .cut (by omega) ?_ hcut
    intro i hi
    cases i with
    | zero => exact hzero
    | succ i => exact hgood i (by omega)

end Round

/-! ### One query -/

/-- A request that is made takes the time of its reply or is cut short. -/
theorem perform_exchange {token : Token} (event : Event) (reply : Site → Site × Reply)
    {a : Agenda Site} (h : a.loops = []) (hopen : token ∉ a.cancelled) {answer : Reply} {s : Site}
    (hanswer : reply (a.state.note event a.moment) = (s, answer)) :
    ∃ b result, a.perform (Work.exchange (some token) event reply) = (b, some result) ∧
      b.loops = [] ∧ b.state = s ∧ a.now ≤ b.now ∧
      ((result = answer.result ∧ b.now = a.now + min answer.latency longestWait) ∨
        (result = .error .cancelled ∧ token ∈ b.cancelled)) := by
  have hclosed : a.moment.cancelled token = false := by
    rw [← Bool.not_eq_true]
    exact fun hcancelled => hopen (List.contains_iff_mem.mp hcancelled)
  have hsent : a.perform (Work.exchange (some token) event reply) =
      Agenda.perform ((Task.pause answer.latency (some token)).bind fun passed =>
        .done (if passed then answer.result else .error .cancelled)) { a with state := s } := by
    change a.perform (if (some token).any a.moment.cancelled then _ else _) = _
    rw [Option.any_some, hclosed, if_neg Bool.false_ne_true]
    change Agenda.perform ((Task.pause (reply (a.state.note event a.moment)).2.latency (some token)).bind
      fun passed => .done (if passed then (reply (a.state.note event a.moment)).2.result
        else .error .cancelled)) { a with state := (reply (a.state.note event a.moment)).1 } = _
    rw [hanswer]
  obtain ⟨b, passed, hpause, hloops, hstate, hle, hpassed, hcut⟩ :=
    Agenda.perform_pause (a := { a with state := s }) answer.latency token h
  rw [hsent, Agenda.perform_bind_of_some hpause]
  refine ⟨b, _, rfl, hloops, hstate, hle, ?_⟩
  cases passed with
  | true => exact .inl ⟨rfl, hpassed rfl⟩
  | false => exact .inr ⟨rfl, hcut rfl⟩

theorem perform_noteMisfits (pairs : List (List UInt8 × List UInt8)) {a : Agenda Site} :
    ∃ s, a.perform (noteMisfits pairs) = ({ a with state := s }, some ()) ∧ a.state.Posts s [] ∧
      s.contract = a.state.contract := by
  induction pairs generalizing a with
  | nil => exact ⟨a.state, rfl, .refl _, rfl⟩
  | cons pair rest ih =>
    simp only [noteMisfits]
    split
    · obtain ⟨s, hperform, hposts, hcontract⟩ :=
        @ih { a with state := a.state.note (.badKey pair.1.length) a.moment }
      exact ⟨s, hperform, .trans (.note rfl _ _) hposts, hcontract⟩
    · exact ih

/-- A query that is made takes one reply from the contract, and its result is what the reply tells,
unless it is cut short. -/
theorem perform_askAccount {token : Token} (hex : String) {a : Agenda Site} (h : a.loops = [])
    (hopen : token ∉ a.cancelled) :
    ∃ b result, a.perform (askAccount token hex) = (b, some result) ∧ b.loops = [] ∧ a.now ≤ b.now ∧
      b.state.contract = a.state.contract.next.1 ∧
      a.state.Posts b.state [(a.now, .post none contractEndpoint (stakedKeysQuery hex))] ∧
      ((result = told a.state.contract.next.2 ∧
          b.now = a.now + min a.state.contract.next.2.latency longestWait) ∨
        (result = .error .cancelled ∧ token ∈ b.cancelled)) := by
  obtain ⟨b, result, hexchange, hloops, hstate, hle, hend⟩ :=
    perform_exchange (.post none contractEndpoint (stakedKeysQuery hex)) Site.contractReply h hopen rfl
  have hcontract : b.state.contract = a.state.contract.next.1 := by rw [hstate]; rfl
  have hposts : a.state.Posts b.state [(a.now, .post none contractEndpoint (stakedKeysQuery hex))] := by
    rw [hstate]
    exact ⟨[(a.now, _)], rfl, rfl⟩
  rw [askAccount, Task.bind_eq, Agenda.perform_bind_of_some hexchange]
  rcases hend with ⟨rfl, hnow⟩ | ⟨rfl, hcut⟩
  · have hnoted : (a.state.note (.post none contractEndpoint (stakedKeysQuery hex)) a.moment).contract =
        a.state.contract := rfl
    rw [told, hnoted]
    cases (a.state.contract.next.2.result.bind Response.successful).bind
      fun response => readItems response.body with
    | error fault => exact ⟨b, _, rfl, hloops, hle, hcontract, hposts, .inl ⟨rfl, hnow⟩⟩
    | ok items =>
      obtain ⟨s, hperform, hquiet, hsame⟩ := @perform_noteMisfits (inPairs items) b
      exact ⟨_, _, Agenda.perform_bind_of_some hperform, hloops, hle, hsame.trans hcontract,
        hposts.trans hquiet, .inl ⟨rfl, hnow⟩⟩
  · exact ⟨b, _, rfl, hloops, hle, hcontract, hposts, .inr ⟨rfl, hcut⟩⟩

/-! ### A whole round -/

/-- The round about some accounts that begins on an agenda. -/
def roundOf (pause : Duration) (accounts : List Account) (a : Agenda Site) : Round where
  start := a.now
  pause := pause
  hexes := (accounts.map (·.hex)).filter (· ≠ "")
  reply k := a.state.contract.answer (a.state.contract.used + k)

theorem roundOf_cons_empty {account : Account} (h : account.hex = "") (pause : Duration)
    (accounts : List Account) (a : Agenda Site) :
    roundOf pause (account :: accounts) a = roundOf pause accounts a := by
  simp [roundOf, h]

theorem roundOf_hexes {account : Account} (h : account.hex ≠ "") (pause : Duration)
    (accounts : List Account) (a : Agenda Site) :
    (roundOf pause (account :: accounts) a).hexes =
      account.hex :: (roundOf pause accounts a).hexes := by
  simp [roundOf, h]

/-- After the first query and its pause the rest of the round begins. -/
theorem roundOf_rest {account : Account} (h : account.hex ≠ "") {pause : Duration}
    {accounts : List Account} {a b : Agenda Site}
    (hcontract : b.state.contract = a.state.contract.next.1)
    (hnow : b.now = a.now + min a.state.contract.next.2.latency longestWait +
      min pause.milliseconds longestWait) :
    roundOf pause accounts b = (roundOf pause (account :: accounts) a).rest := by
  have hreply : ∀ k, b.state.contract.answer (b.state.contract.used + k) =
      a.state.contract.answer (a.state.contract.used + (k + 1)) := by
    intro k
    rw [hcontract, Nat.add_comm k, ← Nat.add_assoc]
    rfl
  rw [Round.rest, roundOf_hexes h, List.tail_cons, Round.sent, List.range_one, List.map_singleton,
    List.sum_singleton, roundOf, roundOf, hnow, Nat.add_assoc, funext hreply]
  rfl

/-- A query is made at once unless the signal has been cancelled already. -/
theorem perform_askAccount_cancelled {token : Token} (hex : String) {a : Agenda Site}
    (h : token ∈ a.cancelled) :
    a.perform (askAccount token hex) = (a, some (.error .cancelled)) :=
  Agenda.perform_bind_of_some (Work.exchange_cancelled (List.contains_iff_mem.mpr h))

/-- **However a round goes, it ends in one of the three ways**, and has made the first of its queries, at
their times, and no others. -/
theorem stakedKeys_ends (token : Token) (pause : Duration) (accounts : List Account) {a : Agenda Site}
    (h : a.loops = []) :
    ∃ b staked n, a.perform (stakedKeys token pause accounts) = (b, some staked) ∧ a.now ≤ b.now ∧
      (roundOf pause accounts a).Ends token b n staked ∧
      a.state.Posts b.state ((roundOf pause accounts a).queries.take n) ∧
      ∀ query ∈ (roundOf pause accounts a).queries.take n, query.1 ≤ b.now := by
  induction accounts generalizing a with
  | nil =>
    refine ⟨a, .ok [], 0, rfl, Nat.le_refl _, ?_, .refl _, by simp⟩
    exact @Round.Ends.complete _ _ _ (fun _ => []) (fun k hk => absurd hk (Nat.not_lt_zero k)) rfl
  | cons account accounts ih =>
    rw [stakedKeys]
    by_cases hempty : account.hex = ""
    · rw [if_pos hempty, roundOf_cons_empty hempty]
      exact ih h
    · rw [if_neg hempty]
      have hhexes := roundOf_hexes hempty pause accounts a
      have hqueries := Round.queries_eq hhexes
      have hsome : 1 ≤ (roundOf pause (account :: accounts) a).hexes.length := by
        rw [hhexes, List.length_cons]
        omega
      by_cases hopen : token ∈ a.cancelled
      · refine ⟨a, .error .cancelled, 0, ?_, Nat.le_refl _,
          .cut (Nat.zero_le _) (fun i hi => by omega) hopen, .refl _, by simp⟩
        exact Agenda.perform_bind_of_some (perform_askAccount_cancelled account.hex hopen)
      · obtain ⟨b, asked, hasked, hloops, hle, hcontract, hposts, hend⟩ :=
          perform_askAccount account.hex h hopen
        -- what holds if the round is over with its first query
        have hfirst : a.state.Posts b.state ((roundOf pause (account :: accounts) a).queries.take 1) ∧
            ∀ query ∈ (roundOf pause (account :: accounts) a).queries.take 1, query.1 ≤ b.now := by
          rw [hqueries]
          exact ⟨hposts, fun query hquery => by rw [List.mem_singleton.mp hquery]; exact hle⟩
        rw [Task.bind_eq, Agenda.perform_bind_of_some hasked]
        rcases hend with ⟨htold, hnow⟩ | ⟨rfl, hcut⟩
        · cases asked with
          | error fault =>
            exact ⟨b, .error fault, 1, rfl, hle,
              .failed (by omega) (fun i hi => by omega) (told_eq_error_iff.mp htold.symm) hnow, hfirst⟩
          | ok keys =>
            obtain ⟨c, passed, hpause, hcloops, hcstate, hcle, hpassed, hcut⟩ :=
              Agenda.perform_pause pause.milliseconds token hloops
            simp only
            rw [Task.bind_eq, Agenda.perform_bind_of_some hpause]
            rw [← hcstate] at hcontract hposts hfirst
            cases passed with
            | false =>
              exact ⟨c, .error .cancelled, 1, rfl, Nat.le_trans hle hcle,
                .cut hsome (fun i hi => by omega) (hcut rfl), hfirst.1,
                fun query hquery => Nat.le_trans (hfirst.2 query hquery) hcle⟩
            | true =>
              obtain ⟨d, staked, n, hstaked, hdle, hends, hmore, htimes⟩ := ih hcloops
              have hrest : roundOf pause accounts c = (roundOf pause (account :: accounts) a).rest :=
                roundOf_rest hempty hcontract ((hpassed rfl).trans (congrArg (· + _) hnow))
              rw [hrest] at hends hmore htimes
              refine ⟨d, staked.map (keys ++ ·), n + 1, ?_, ?_,
                .of_rest hhexes htold.symm hends, ?_, ?_⟩
              · rw [if_pos rfl, Task.bind_eq, Agenda.perform_bind_of_some hstaked]
                rfl
              · exact Nat.le_trans hle (Nat.le_trans hcle hdle)
              · rw [hqueries, List.take_succ_cons]
                exact hposts.trans hmore
              · rw [hqueries, List.take_succ_cons, List.forall_mem_cons]
                exact ⟨Nat.le_trans hle (Nat.le_trans hcle hdle), htimes⟩
        · exact ⟨b, .error .cancelled, 1, rfl, hle, .cut hsome (fun i hi => by omega) hcut, hfirst⟩

end Network

end ValidatorAlarm
