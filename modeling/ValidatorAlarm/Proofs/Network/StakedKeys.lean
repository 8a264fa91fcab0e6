import ValidatorAlarm.Proofs.Network.Round

/-!
# The staked keys, all or nothing

If nobody cancels a round, its replies decide.  If all of them are good, their keys are returned one
after the other, and the first bad one ends the round with its fault.  A cancellation that comes before
this bad reply, or before the end of the round if there is none, ends it at once.

So what the contract tells is returned without loss: every key of every reply, in the order of the
accounts and of the items, and nothing else.
-/
namespace ValidatorAlarm.Network

/-! ### When a round is over -/

/-- The time at which a round is over if nobody cancels it. -/
inductive Round.Over (r : Round) : Nat → Prop where
  | complete (hgood : ∀ k < r.hexes.length, r.Good k) : Over r r.finish
  | failed {k : Nat} {fault : Fault} (hk : k < r.hexes.length) (hgood : ∀ i < k, r.Good i)
      (hbad : Bad (r.reply k) fault) : Over r (r.arrival k)

namespace Round

variable {r : Round} {token : Token} {after : Agenda Site} {n : Nat}
  {staked : Except Fault (List String)} {time : Nat}

/-- Two bad replies that only good ones precede are the same. -/
theorem first_bad_unique {i j : Nat} {fault other : Fault} (hi : ∀ k < i, r.Good k)
    (hfault : Bad (r.reply i) fault) (hj : ∀ k < j, r.Good k) (hother : Bad (r.reply j) other) :
    i = j ∧ fault = other := by
  rcases Nat.lt_trichotomy i j with hlt | rfl | hlt
  · exact absurd hfault (hj i hlt fault)
  · have hsame := (told_eq_error_iff.mpr hfault).symm.trans (told_eq_error_iff.mpr hother)
    exact ⟨rfl, Except.error.inj hsame⟩
  · exact absurd hother (hi j hlt other)

namespace Ends

theorem eq_ok (h : r.Ends token after n staked) (hopen : token ∉ after.cancelled)
    (hgood : ∀ k < r.hexes.length, r.Good k) :
    n = r.hexes.length ∧ ∃ keys : Nat → List String,
      (∀ k < r.hexes.length, told (r.reply k) = .ok (keys k)) ∧
      staked = .ok ((List.range r.hexes.length).flatMap keys) := by
  cases h with
  | complete htold => exact ⟨rfl, _, htold, rfl⟩
  | failed hk _ hbad => exact absurd hbad (hgood _ hk _)
  | cut _ _ hcut => exact absurd hcut hopen

theorem eq_error (h : r.Ends token after n staked) (hopen : token ∉ after.cancelled) {k : Nat}
    {fault : Fault} (hk : k < r.hexes.length) (hgood : ∀ i < k, r.Good i)
    (hbad : Bad (r.reply k) fault) : n = k + 1 ∧ staked = .error fault := by
  cases h with
  | complete htold => exact absurd hbad (good_of_told (htold k hk) fault)
  | failed _ hbefore hother =>
    obtain ⟨rfl, rfl⟩ := first_bad_unique hbefore hother hgood hbad
    exact ⟨rfl, rfl⟩
  | cut _ _ hcut => exact absurd hcut hopen

end Ends

namespace Over

theorem eq_finish (h : r.Over time) (hgood : ∀ k < r.hexes.length, r.Good k) : time = r.finish := by
  cases h with
  | complete => rfl
  | failed hk _ hbad => exact absurd hbad (hgood _ hk _)

theorem eq_arrival (h : r.Over time) {k : Nat} {fault : Fault} (hk : k < r.hexes.length)
    (hgood : ∀ i < k, r.Good i) (hbad : Bad (r.reply k) fault) : time = r.arrival k := by
  cases h with
  | complete hall => exact absurd hbad (hall k hk fault)
  | failed _ hbefore hother => rw [(first_bad_unique hbefore hother hgood hbad).1]

theorem lt_of (h : r.Over time) {c : Nat} (hfinish : c < r.finish)
    (hbad : ∀ k < r.hexes.length, ∀ fault, Bad (r.reply k) fault → c < r.arrival k) : c < time := by
  cases h with
  | complete => exact hfinish
  | failed hk _ hfailed => exact hbad _ hk _ hfailed

end Over

end Round

variable {token : Token} {pause : Duration} {accounts : List Account} {a : Agenda Site}

/-- The course of the queries takes just this time. -/
theorem stakedKeys_over (token : Token) (pause : Duration) (accounts : List Account) (a : Agenda Site) :
    (roundOf pause accounts a).Over ((stakedKeys token pause accounts).course a.now a.state).1 := by
  -- the course is that on an agenda on which nothing is ever cancelled
  have hnever : Agenda.Awaits token none (⟨a.now, [], [], [], a.state⟩ : Agenda Site) := .anew _ _ _
  obtain ⟨b, hperform, hb, hnow, -⟩ :=
    Agenda.perform_course (stakedKeys_heeds token pause accounts) hnever nofun
  obtain ⟨b', staked, n, hperform', -, hends, -, -⟩ := stakedKeys_ends token pause accounts hnever.loops
  obtain ⟨rfl, -⟩ := Prod.mk.inj (hperform.symm.trans hperform')
  rw [← hnow]
  cases hends with
  | complete htold hend =>
    rw [hend]
    exact .complete fun k hk => Round.good_of_told (htold k hk)
  | failed hk hgood hbad hend =>
    rw [hend]
    exact .failed hk hgood hbad
  | cut _ _ hcut => exact absurd hcut hb.uncancelled

/-- A round that is not cancelled before it is over is not cut short. -/
theorem stakedKeys_calm {due : Option Nat} (ha : a.Awaits token due)
    (hdue : ∀ c, due = some c → ((stakedKeys token pause accounts).course a.now a.state).1 ≤ c)
    {b : Agenda Site} {staked : Except Fault (List String)}
    (h : a.perform (stakedKeys token pause accounts) = (b, some staked)) :
    token ∉ b.cancelled ∧ b.now = ((stakedKeys token pause accounts).course a.now a.state).1 := by
  obtain ⟨b', hperform, hb, hnow, -⟩ :=
    Agenda.perform_course (stakedKeys_heeds token pause accounts) ha hdue
  obtain ⟨rfl, -⟩ := Prod.mk.inj (h.symm.trans hperform)
  exact ⟨hb.uncancelled, hnow⟩

/-- A round that is cancelled at its beginning makes no query. -/
theorem stakedKeys_cancelled (h : token ∈ a.cancelled)
    (hsome : (roundOf pause accounts a).hexes ≠ []) :
    a.perform (stakedKeys token pause accounts) = (a, some (.error .cancelled)) := by
  induction accounts with
  | nil => exact absurd rfl hsome
  | cons account accounts ih =>
    rw [stakedKeys]
    by_cases hempty : account.hex = ""
    · rw [if_pos hempty]
      rw [roundOf_cons_empty hempty] at hsome
      exact ih hsome
    · rw [if_neg hempty]
      exact Agenda.perform_bind_of_some (perform_askAccount_cancelled account.hex h)

/-! ### What a query asks -/

/-- The body of a request is a JSON object whose only argument is this text. -/
def AsksAbout (body hex : String) : Prop :=
  ∃ root raw, Json.WrittenIn root (Text.utf8 body) ∧
    Json.Under ["args"] root (some (.array [.text raw])) ∧ Json.Spells raw hex

theorem stakedKeysQuery_asks (hex : String) : AsksAbout (stakedKeysQuery hex) hex := by
  refine ⟨_, _, ⟨_, Json.writeObject_written _, by rw [String.ofList_toList]; rfl⟩,
    .last (Json.isObject_written _) ?_, Json.spells_rawOf hex⟩
  simp [Json.valuesOf, Json.Field.value]

/-! ### Two accounts -/

/-- A site whose contract answers in this way from now on. -/
def answering (reply : Nat → Reply) : Site := { Site.initial with contract := ⟨reply, 0⟩ }

theorem roundOf_reply {reply : Nat → Reply} {a : Agenda Site} (h : a.state = answering reply)
    (pause : Duration) (accounts : List Account) (k : Nat) :
    (roundOf pause accounts a).reply k = reply k := by
  rw [roundOf, h]
  exact congrArg reply (Nat.zero_add k)

/-- Two accounts to ask about, and one without an address between them. -/
def twoAccounts : List Account := [⟨"aa", "b"⟩, ⟨"", "c"⟩, ⟨"dd", "e"⟩]

/-- The second reply is bad. -/
def badSecond : Nat → Reply
  | 0 => replyWith 5 []
  | _ => ⟨7, .ok ⟨500, []⟩⟩

/-! ### All or nothing -/

/-- What is known of a round that begins on the agenda `a` and ends on the agenda `b`, after so many
queries and with this result. -/
structure AllOrNothing (token : Token) (r : Round) (a b : Agenda Site) (n : Nat)
    (staked : Except Fault (List String)) : Prop where
  /-- The first queries are sent, one for each account, at their times, and none after the end. -/
  sent : a.state.Posts b.state (r.queries.take n)
  within : n ≤ r.hexes.length
  inTime : ∀ query ∈ r.queries.take n, query.1 ≤ b.now
  /-- Keys are returned only if all queries have been sent and no reply was bad: those of all replies. -/
  whole : ∀ keys, staked = .ok keys → n = r.hexes.length ∧ ∃ keysOf : Nat → List String,
    (∀ k < r.hexes.length, told (r.reply k) = .ok (keysOf k)) ∧
      keys = (List.range r.hexes.length).flatMap keysOf
  /-- If no reply is bad and no cancellation comes before the end, there are keys, at the end. -/
  good : ∀ due, a.Awaits token due → (∀ c, due = some c → r.finish ≤ c) →
    (∀ k < r.hexes.length, r.Good k) →
      n = r.hexes.length ∧ (∃ keys, staked = .ok keys) ∧ b.now = r.finish
  /-- The first bad reply ends the round when it is there, unless a cancellation comes before it. -/
  bad : ∀ due k fault, a.Awaits token due → (∀ c, due = some c → r.arrival k ≤ c) →
    k < r.hexes.length → (∀ i < k, r.Good i) → Bad (r.reply k) fault →
      n = k + 1 ∧ staked = .error fault ∧ b.now = r.arrival k
  /-- A cancellation before the end and before any bad reply ends the round when it comes. -/
  cancelled : ∀ c, a.Awaits token (some c) → c < r.finish →
    (∀ k < r.hexes.length, ∀ fault, Bad (r.reply k) fault → c < r.arrival k) →
      staked = .error .cancelled ∧ b.now = c
  /-- A cancellation before the beginning ends the round at once, without a query. -/
  already : token ∈ a.cancelled → r.hexes ≠ [] → n = 0 ∧ staked = .error .cancelled ∧ b = a

/-- **The query is all or nothing.**  Each request asks about one account, and whatever is cancelled, a
round on an agenda without loops ends in one of the ways of `AllOrNothing`. -/
theorem stakedKeys_all_or_nothing (token : Token) (pause : Duration) (accounts : List Account)
    {a : Agenda Site} (h : a.loops = []) :
    (∀ hex, AsksAbout (stakedKeysQuery hex) hex) ∧
    ∃ b n staked, a.perform (stakedKeys token pause accounts) = (b, some staked) ∧
      AllOrNothing token (roundOf pause accounts a) a b n staked := by
  obtain ⟨b, staked, n, hperform, -, hends, hposts, htimes⟩ := stakedKeys_ends token pause accounts h
  have hover := stakedKeys_over token pause accounts a
  refine ⟨stakedKeysQuery_asks, b, n, staked, hperform, hposts, hends.within, htimes, ?_, ?_, ?_, ?_, ?_⟩
  · intro keys hkeys
    cases hends with
    | complete htold =>
      cases hkeys
      exact ⟨rfl, _, htold, rfl⟩
    | failed => cases hkeys
    | cut => cases hkeys
  · intro due ha hdue hgood
    have htime := hover.eq_finish hgood
    rw [← htime] at hdue
    obtain ⟨hopen, hnow⟩ := stakedKeys_calm ha hdue hperform
    obtain ⟨hall, keys, -, hkeys⟩ := hends.eq_ok hopen hgood
    exact ⟨hall, ⟨_, hkeys⟩, hnow.trans htime⟩
  · intro due k fault ha hdue hk hgood hbad
    have htime := hover.eq_arrival hk hgood hbad
    rw [← htime] at hdue
    obtain ⟨hopen, hnow⟩ := stakedKeys_calm ha hdue hperform
    obtain ⟨hn, hfault⟩ := hends.eq_error hopen hk hgood hbad
    exact ⟨hn, hfault, hnow.trans htime⟩
  · intro c ha hfinish hbad
    obtain ⟨b', hcut, -, hnow⟩ := Agenda.perform_cut (stakedKeys_heeds token pause accounts) ha
      (hover.lt_of hfinish hbad)
    obtain ⟨rfl, hstaked⟩ := Prod.mk.inj (hperform.symm.trans hcut)
    exact ⟨Option.some.inj hstaked, hnow⟩
  · intro hclosed hsome
    obtain ⟨rfl, hstaked⟩ := Prod.mk.inj (hperform.symm.trans (stakedKeys_cancelled hclosed hsome))
    have hnone : ((roundOf pause accounts b).queries.take n).length = 0 :=
      congrArg List.length hposts.eq_nil
    have hlength := List.length_pos_iff.mpr hsome
    have hwithin := hends.within
    rw [List.length_take, Round.queries, List.length_mapIdx] at hnone
    exact ⟨by omega, Option.some.inj hstaked, rfl⟩

/-- The second reply is there after 5 + 30 + 7 ms and ends the round.  A cancellation after 20 ms ends it
in the pause. -/
theorem badSecond_ends_round :
    (∃ b, (Agenda.start (answering badSecond)).perform
        (stakedKeys 0 (.ofMilliseconds 30) twoAccounts) = (b, some (.error (.status 500))) ∧
      b.now = 42 ∧ (answering badSecond).Posts b.state
        [(0, .post none contractEndpoint (stakedKeysQuery "aa")),
          (35, .post none contractEndpoint (stakedKeysQuery "dd"))]) ∧
    ∃ b, (⟨0, [], [(20, 0)], [], answering badSecond⟩ : Agenda Site).perform
        (stakedKeys 0 (.ofMilliseconds 30) twoAccounts) = (b, some (.error .cancelled)) ∧ b.now = 20 := by
  have hfirst : ∀ fault, ¬ Bad (badSecond 0) fault := by
    intro fault hbad
    cases (told_of_tells (replyWith_tells 5 [])).symm.trans (told_eq_error_iff.mpr hbad)
  have hsecond : Bad (badSecond 1) (.status 500) := .status rfl (.inr (by decide))
  have hnever : (Agenda.start (answering badSecond)).Awaits 0 none := .anew _ _ _
  have hplanned : (⟨0, [], [(20, 0)], [], answering badSecond⟩ : Agenda Site).Awaits 0 (some 20) :=
    hnever.plan (Nat.zero_le 20)
  have hlate : ∀ k < (roundOf (.ofMilliseconds 30) twoAccounts
      (⟨0, [], [(20, 0)], [], answering badSecond⟩ : Agenda Site)).hexes.length, ∀ fault,
      Bad ((roundOf (.ofMilliseconds 30) twoAccounts
        (⟨0, [], [(20, 0)], [], answering badSecond⟩ : Agenda Site)).reply k) fault →
      20 < (roundOf (.ofMilliseconds 30) twoAccounts
        (⟨0, [], [(20, 0)], [], answering badSecond⟩ : Agenda Site)).arrival k := by
    intro k hk fault hbad
    rw [roundOf_reply rfl] at hbad
    match k, hk with
    | 0, _ => exact absurd hbad (hfirst fault)
    | 1, _ => decide
  obtain ⟨-, b, n, staked, hperform, hround⟩ :=
    stakedKeys_all_or_nothing 0 (.ofMilliseconds 30) twoAccounts hnever.loops
  obtain ⟨-, c, m, cut, hcutshort, hcut⟩ :=
    stakedKeys_all_or_nothing 0 (.ofMilliseconds 30) twoAccounts hplanned.loops
  obtain ⟨rfl, rfl, hnow⟩ := hround.bad none 1 _ hnever nofun (by decide)
    (fun i hi => by rw [Nat.lt_one_iff.mp hi]; exact hfirst) hsecond
  obtain ⟨rfl, hcutnow⟩ := hcut.cancelled 20 hplanned (by decide) hlate
  exact ⟨⟨b, hperform, hnow, hround.sent⟩, c, hcutshort, hcutnow⟩

/-- No wait is longer than 30 years: a round with one good reply and a pause of 10¹² ms ends before. -/
theorem pause_ends_before_its_time :
    ∃ b keys, (Agenda.start (answering fun _ => replyWith 0 [])).perform
        (stakedKeys 0 (.ofMilliseconds 1000000000000) [⟨"aa", "b"⟩]) = (b, some (.ok keys)) ∧
      b.now ≠ (replyWith 0 []).latency + (Duration.ofMilliseconds 1000000000000).milliseconds := by
  have hnever : (Agenda.start (answering fun _ => replyWith 0 [])).Awaits 0 none := .anew _ _ _
  obtain ⟨b, hperform, -, hnow, -⟩ := Agenda.perform_course
    (stakedKeys_heeds 0 (.ofMilliseconds 1000000000000) [⟨"aa", "b"⟩]) hnever nofun
  refine ⟨b, [], hperform.trans (congrArg (Prod.mk b) ?_), ?_⟩
  · decide +kernel
  · rw [hnow]
    decide +kernel

/-! ### Nothing lost -/

/-- **The staked keys of all accounts are returned without loss.**  If every reply tells of some items and
no cancellation comes before the end, the keys in these items are returned, in the order of the accounts
and of the items.  Each of them is the text of 192 digits for the 96 bytes of an item at an even place,
behind which the wanted state stands. -/
theorem stakedKeys_decoded {due : Option Nat} {items : Nat → List (Option (List UInt8))}
    (ha : a.Awaits token due) (hdue : ∀ c, due = some c → (roundOf pause accounts a).finish ≤ c)
    (hreplies : ∀ k < (roundOf pause accounts a).hexes.length,
      Tells ((roundOf pause accounts a).reply k) (items k)) :
    (∃ b, a.perform (stakedKeys token pause accounts) =
      (b, some (.ok ((List.range (roundOf pause accounts a).hexes.length).flatMap fun k =>
        keysIn (items k))))) ∧
    ∀ k, ∀ key ∈ keysIn (items k), ∃ j, 2 * j + 1 < (items k).length ∧
      (itemAt (items k) (2 * j)).length = 96 ∧ itemAt (items k) (2 * j + 1) = Text.utf8 "staked" ∧
      key.toList.length = 192 ∧ (∀ c ∈ key.toList, c ∈ "0123456789abcdef".toList) ∧
      Text.Hex.decode (Text.utf8 key) = .ok (itemAt (items k) (2 * j)) := by
  have htold : ∀ k < (roundOf pause accounts a).hexes.length,
      told ((roundOf pause accounts a).reply k) = .ok (keysIn (items k)) :=
    fun k hk => told_of_tells (hreplies k hk)
  have hgood : ∀ k < (roundOf pause accounts a).hexes.length, (roundOf pause accounts a).Good k :=
    fun k hk => Round.good_of_told (htold k hk)
  refine ⟨?_, fun k key hkey => keysIn_spec hkey⟩
  obtain ⟨b, staked, n, hperform, -, hends, -, -⟩ := stakedKeys_ends token pause accounts ha.loops
  rw [← (stakedKeys_over token pause accounts a).eq_finish hgood] at hdue
  obtain ⟨hopen, -⟩ := stakedKeys_calm ha hdue hperform
  obtain ⟨-, keys, hkeys, rfl⟩ := hends.eq_ok hopen hgood
  have hsame : ∀ k ∈ List.range (roundOf pause accounts a).hexes.length, keys k = keysIn (items k) :=
    fun k hk => Except.ok.inj
      ((hkeys k (List.mem_range.mp hk)).symm.trans (htold k (List.mem_range.mp hk)))
  exact ⟨b, by rw [hperform, List.flatMap_congr hsame]⟩

/-- The items of two replies: the first tells of the key of ones, and of one that is not staked, and the
second of the key of twos; a null, a key that is too short and a last item without partner tell of none. -/
def manyItems : Nat → List (Option (List UInt8))
  | 0 => [some (List.replicate 96 1), some (Text.utf8 "staked"), none, some (Text.utf8 "staked"),
      some [1], some (Text.utf8 "staked"), some (List.replicate 96 3), some (Text.utf8 "jailed")]
  | _ => [some (List.replicate 96 2), some (Text.utf8 "staked"), some (List.replicate 96 4)]

/-- Two keys of 96 equal bytes come back. -/
theorem stakedKeys_of_two_accounts :
    ∃ b, (Agenda.start (answering fun k => replyWith 5 (manyItems k))).perform
        (stakedKeys 0 (.ofMilliseconds 30) twoAccounts) =
      (b, some (.ok [String.ofList ((List.replicate 96 ['0', '1']).flatten),
        String.ofList ((List.replicate 96 ['0', '2']).flatten)])) := by
  have hnever : (Agenda.start (answering fun k => replyWith 5 (manyItems k))).Awaits 0 none := .anew _ _ _
  have hreplies : ∀ k < (roundOf (.ofMilliseconds 30) twoAccounts
      (Agenda.start (answering fun k => replyWith 5 (manyItems k)))).hexes.length,
      Tells ((roundOf (.ofMilliseconds 30) twoAccounts
        (Agenda.start (answering fun k => replyWith 5 (manyItems k)))).reply k) (manyItems k) := by
    intro k _
    rw [roundOf_reply rfl]
    exact replyWith_tells 5 (manyItems k)
  obtain ⟨⟨b, hperform⟩, -⟩ := stakedKeys_decoded hnever nofun hreplies
  have htwo : (List.range 2).flatMap (fun k => keysIn (manyItems k)) =
      [String.ofList ((List.replicate 96 ['0', '1']).flatten),
        String.ofList ((List.replicate 96 ['0', '2']).flatten)] := by
    decide +kernel
  exact ⟨b, hperform.trans (congrArg (fun keys => (b, some (Except.ok keys))) htwo)⟩

end ValidatorAlarm.Network
