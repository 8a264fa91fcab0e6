import Mathlib.Data.ENat.Lattice
import ValidatorAlarm.Proofs.Delivery.Passes

/-!
# The protocol of a fanout

A call of a fanout as its channels see it.  Let `k i` be the number of the first delivery through
channel `i` that would succeed.  The main result, `Fanout.notify_protocol`, says that pass `p` calls
exactly the channels with `p < k i`, in their order, that a channel gets the batch `min (k i) (R + 1)`
times with `R` retries, how long the call lasts, and what its result is.
-/
namespace ValidatorAlarm

/-! ### First successes -/

/-- The number of the first success, counted from one; infinite if there is none. -/
noncomputable def firstSuccess (succeeds : Nat → Bool) : ℕ∞ :=
  ⨅ n : {n : Nat // succeeds n = true}, ((n.1 : ℕ∞) + 1)

theorem lt_firstSuccess (succeeds : Nat → Bool) (n : Nat) :
    (n : ℕ∞) < firstSuccess succeeds ↔ ∀ earlier < n, succeeds earlier = false := by
  rw [← ENat.add_one_le_iff (ENat.natCast_ne_top n), firstSuccess, le_iInf_iff, Subtype.forall]
  constructor
  · intro h earlier hearlier
    by_contra hsucceeds
    have hle : n + 1 ≤ earlier + 1 := by exact_mod_cast h earlier (by simpa using hsucceeds)
    omega
  · intro h earlier hsucceeds
    have hle : n ≤ earlier := by
      by_contra hlt
      rw [h earlier (by omega)] at hsucceeds
      cases hsucceeds
    exact_mod_cast Nat.add_le_add_right hle 1

theorem filter_range_lt {limit : ℕ∞} {bound m : Nat} (hm : (m : ℕ∞) = min limit bound) :
    (List.range bound).filter (fun n : Nat => (n : ℕ∞) < limit) = List.range m := by
  have hle : m ≤ bound := by
    have h : (m : ℕ∞) ≤ bound := hm ▸ min_le_right _ _
    exact_mod_cast h
  have hiff : ∀ n < bound, ((n : ℕ∞) < limit ↔ n < m) := by
    intro n hn
    have hn' : (n : ℕ∞) < bound := by exact_mod_cast hn
    rw [← Nat.cast_lt (α := ℕ∞), hm, lt_min_iff]
    exact ⟨fun h => ⟨h, hn'⟩, fun h => h.1⟩
  obtain ⟨rest, rfl⟩ := Nat.exists_eq_add_of_le hle
  rw [List.range_add, List.filter_append, List.filter_eq_self.mpr, List.filter_eq_nil_iff.mpr,
    List.append_nil]
  · intro n hn
    obtain ⟨d, hd, rfl⟩ := List.mem_map.mp hn
    have hd := List.mem_range.mp hd
    rw [decide_eq_true_iff, hiff (m + d) (by omega)]
    omega
  · intro n hn
    have hn := List.mem_range.mp hn
    rw [decide_eq_true_iff, hiff n (by omega)]
    exact hn

/-! ### The channels at their positions -/

namespace Fanout

theorem numbered_positions (n : Nat) (channels : List Channel) :
    (numbered n channels).map (·.1) = List.range' n channels.length := by
  induction channels generalizing n with
  | nil => rfl
  | cons channel rest ih =>
    rw [numbered, List.map_cons, ih, List.length_cons, List.range'_succ]

theorem getElem?_of_mem_numbered {n : Nat} {channels : List Channel} {place : Nat × Channel}
    (h : place ∈ numbered n channels) : n ≤ place.1 ∧ channels[place.1 - n]? = some place.2 := by
  induction channels generalizing n with
  | nil => cases h
  | cons channel rest ih =>
    rcases List.mem_cons.mp h with rfl | hmem
    · simp
    · obtain ⟨hle, hget⟩ := ih hmem
      refine ⟨by omega, ?_⟩
      rw [show place.1 - n = place.1 - (n + 1) + 1 by omega, List.getElem?_cons_succ, hget]

theorem mem_numbered {channels : List Channel} {i : Nat} {channel : Channel}
    (h : channels[i]? = some channel) (n : Nat) : (n + i, channel) ∈ numbered n channels := by
  induction channels generalizing n i with
  | nil => cases h
  | cons head rest ih =>
    rw [numbered, List.mem_cons]
    cases i with
    | zero =>
      obtain rfl : head = channel := by simpa using h
      exact Or.inl rfl
    | succ i =>
      right
      rw [show n + (i + 1) = n + 1 + i by omega]
      exact ih (by simpa using h) (n + 1)

variable (fanout : Fanout)

/-- The channels of a fanout at their positions. -/
def places : List (Nat × Channel) := numbered 0 fanout.channels

theorem places_positions : fanout.places.map (·.1) = List.range fanout.channels.length := by
  rw [places, numbered_positions, List.range_eq_range']

theorem places_distinct : (fanout.places.map (·.1)).Nodup := by
  rw [places_positions]
  exact List.nodup_range

theorem mem_places {i : Nat} {channel : Channel} :
    (i, channel) ∈ fanout.places ↔ fanout.channels[i]? = some channel := by
  constructor
  · intro h
    exact (getElem?_of_mem_numbered h).2
  · intro h
    have hmem := mem_numbered h 0
    rwa [Nat.zero_add] at hmem

/-! ### The passes of a call -/

/-- The number of the first delivery through the channel at a position that succeeds. -/
noncomputable def firstDelivery (s : Site) (i : Nat) : ℕ∞ :=
  firstSuccess fun n => fanout.channels[i]?.any (·.accepts (s.reply i n))

/-- The attempts of a call, pass by pass: the first pass takes place in any case, and a later one if
there is something to do. -/
def passes (s : Site) : List (List Attempt) :=
  s.round fanout.places 0 ::
    ((List.range fanout.retries).map fun p => s.round fanout.places (p + 1)).filter (!·.isEmpty)

variable {fanout}

theorem pending_iff {s : Site} {place : Nat × Channel} (h : place ∈ fanout.places) (p : Nat) :
    s.Pending p place ↔ (p : ℕ∞) < fanout.firstDelivery s place.1 := by
  rw [firstDelivery, lt_firstSuccess, fanout.mem_places.mp h]
  rfl

theorem pending_positions (s : Site) (p : Nat) :
    (fanout.places.filter (s.Pending p ·)).map (·.1) =
      (List.range fanout.channels.length).filter (fun i => (p : ℕ∞) < fanout.firstDelivery s i) := by
  rw [← places_positions, List.filter_map]
  congr 1
  apply List.filter_congr
  intro place hplace
  exact decide_eq_decide.mpr (pending_iff hplace p)

theorem round_positions (s : Site) (p : Nat) :
    (s.round fanout.places p).map (·.index) =
      (List.range fanout.channels.length).filter (fun i => (p : ℕ∞) < fanout.firstDelivery s i) := by
  rw [← pending_positions, Site.round, List.map_map]
  rfl

theorem round_stops {s : Site} {p : Nat} (h : s.round fanout.places p = []) :
    s.round fanout.places (p + 1) = [] := by
  rw [Site.round, List.map_eq_nil_iff, List.filter_eq_nil_iff] at h ⊢
  intro place hplace hpending
  apply h place hplace
  exact decide_eq_true ((of_decide_eq_true hpending).mono (Nat.le_succ p))

/-- Of lists that stay empty once they are, those that are not come first. -/
theorem filter_nonempty {β : Type} {f : Nat → List β} (hstop : ∀ p, f p = [] → f (p + 1) = [])
    (bound : Nat) : ∃ m ≤ bound, ((List.range bound).map f).filter (!·.isEmpty) =
      (List.range m).map f ∧ (∀ p < m, f p ≠ []) ∧ ∀ p, m ≤ p → p < bound → f p = [] := by
  induction bound with
  | zero => exact ⟨0, Nat.le_refl 0, rfl, fun p hp => by omega, fun p _ hp => by omega⟩
  | succ bound ih =>
    obtain ⟨m, hle, hfilter, hsome, hnone⟩ := ih
    rw [List.range_succ, List.map_append, List.filter_append, hfilter]
    by_cases hempty : f bound = []
    · refine ⟨m, by omega, by simp [hempty], hsome, ?_⟩
      intro p hmp hp
      rcases Nat.lt_succ_iff_lt_or_eq.mp hp with hlt | rfl
      · exact hnone p hmp hlt
      · exact hempty
    · -- No earlier list is empty, since those after an empty one would be empty as well.
      have hm : m = bound := by
        by_contra hne
        have hstays : ∀ d, f (m + d) = [] := by
          intro d
          induction d with
          | zero => exact hnone m (Nat.le_refl m) (by omega)
          | succ d ihd => exact hstop _ ihd
        apply hempty
        rw [show bound = m + (bound - m) by omega]
        exact hstays _
      subst hm
      refine ⟨m + 1, Nat.le_refl _, by simp [hempty, List.range_succ], ?_,
        fun p hmp hp => by omega⟩
      intro p hp
      rcases Nat.lt_succ_iff_lt_or_eq.mp hp with hlt | rfl
      · exact hsome p hlt
      · exact hempty

/-- The passes of a call are the first rounds, up to the last one that has something to do. -/
theorem passes_eq (s : Site) : ∃ last ≤ fanout.retries,
    fanout.passes s = (List.range (last + 1)).map (s.round fanout.places) ∧
      (∀ p, 1 ≤ p → p ≤ last → s.round fanout.places p ≠ []) ∧
      ∀ p, last < p → p ≤ fanout.retries → s.round fanout.places p = [] := by
  obtain ⟨last, hle, hfilter, hsome, hnone⟩ := filter_nonempty
    (f := fun p => s.round fanout.places (p + 1)) (fun p => round_stops) fanout.retries
  refine ⟨last, hle, ?_, ?_, ?_⟩
  · rw [passes, hfilter, List.range_succ_eq_map, List.map_cons, List.map_map]
    rfl
  · intro p hp hlast
    obtain ⟨p, rfl⟩ := Nat.exists_eq_add_of_le' hp
    exact hsome p (by omega)
  · intro p hlast hp
    obtain ⟨p, rfl⟩ := Nat.exists_eq_add_of_le' (show 1 ≤ p by omega)
    exact hnone p (by omega) (by omega)

theorem passes_flatten (s : Site) : (fanout.passes s).flatten =
    ((List.range (fanout.retries + 1)).map (s.round fanout.places)).flatten := by
  rw [passes, List.flatten_cons, List.flatten_filter_not_isEmpty, List.range_succ_eq_map,
    List.map_cons, List.flatten_cons, List.map_map]
  rfl

/-! ### The attempts through one channel -/

theorem filter_key_eq {β : Type} {l : List (Nat × β)} (hdistinct : (l.map (·.1)).Nodup)
    {x : Nat × β} (hx : x ∈ l) : l.filter (·.1 = x.1) = [x] := by
  induction l with
  | nil => cases hx
  | cons y rest ih =>
    obtain ⟨hfresh, hdistinct⟩ := List.nodup_cons.mp hdistinct
    rcases List.mem_cons.mp hx with rfl | hmem
    · rw [List.filter_cons_of_pos (by simp), List.filter_eq_nil_iff.mpr]
      intro z hz hsame
      exact hfresh (List.mem_map.mpr ⟨z, hz, of_decide_eq_true hsame⟩)
    · have hne : ¬ y.1 = x.1 := fun hsame => hfresh (List.mem_map.mpr ⟨x, hmem, hsame.symm⟩)
      rw [List.filter_cons_of_neg (by simpa using hne)]
      exact ih hdistinct hmem

theorem round_filter (s : Site) {i : Nat} {channel : Channel}
    (hchannel : fanout.channels[i]? = some channel) (p : Nat) :
    (s.round fanout.places p).filter (·.index = i) =
      if (p : ℕ∞) < fanout.firstDelivery s i then [s.attempt (i, channel) p] else [] := by
  have hplace := fanout.mem_places.mpr hchannel
  have hkey : fanout.places.filter (·.1 = i) = [(i, channel)] :=
    filter_key_eq fanout.places_distinct hplace
  have hswap : (fanout.places.filter (s.Pending p ·)).filter (·.1 = i) =
      (fanout.places.filter (·.1 = i)).filter (s.Pending p ·) := List.filter_comm _ _ _
  rw [Site.round, List.filter_map]
  change (((fanout.places.filter (s.Pending p ·)).filter (·.1 = i)).map (s.attempt · p)) = _
  rw [hswap, hkey, List.filter_cons]
  simp only [decide_eq_true_iff, pending_iff hplace, List.filter_nil]
  split <;> rfl

/-- The attempts through one channel are its own first ones, up to its first success. -/
theorem passes_filter (s : Site) {i : Nat} {channel : Channel}
    (hchannel : fanout.channels[i]? = some channel) {m : Nat}
    (hm : (m : ℕ∞) = min (fanout.firstDelivery s i) ((fanout.retries + 1 : Nat) : ℕ∞)) :
    (fanout.passes s).flatten.filter (·.index = i) =
      (List.range m).map (s.attempt (i, channel)) := by
  rw [passes_flatten, ← filter_range_lt hm]
  generalize fanout.retries + 1 = bound
  induction bound with
  | zero => rfl
  | succ bound ih =>
    rw [List.range_succ, List.map_append, List.flatten_append, List.filter_append, ih,
      List.filter_append, List.map_append, List.map_singleton, List.flatten_singleton,
      round_filter s hchannel]
    congr 1
    by_cases hpending : (bound : ℕ∞) < fanout.firstDelivery s i
    · simp [hpending]
    · simp [hpending]

/-! ### The call -/

/-- What a call comes to: it fails if some channels fail in every attempt. -/
def verdict (fanout : Fanout) (s : Site) : Except Fault Unit :=
  let failed := fanout.places.filter (s.Pending (fanout.retries + 1) ·)
  if failed.isEmpty then .ok () else .error (.undelivered failed.length)

theorem notify_ends (first : Message) (others : List Message) (now : Nat) (s : Site) :
    ∃ s', Task.Ends (fanout.notify (first :: others)) now s
        (now + ((fanout.passes s).map Attempt.total).sum +
          ((fanout.passes s).length - 1) * min fanout.delay.milliseconds longestWait) s'
        (fanout.verdict s) ∧
      s'.history = (Attempt.recordCall (first :: others)
        (min fanout.delay.milliseconds longestWait) now (fanout.passes s)).reverse ++ s.history := by
  obtain ⟨s₁, hpass, hpassed⟩ :=
    pass_ends first others none fanout.places fanout.places_distinct now s
  obtain ⟨s', hretries, hhistory⟩ := retryFrom_ends first others fanout.delay.milliseconds 0
    fanout.retries _ (distinct_filter fanout.places_distinct _)
    (now + Attempt.total (fanout.places.map (s.attempt · 0))) s₁
  have hlater : s₁.rounds (fanout.places.filter fun place => !(s.attempt place 0).succeeds)
      fanout.retries = (fanout.passes s).tail := by
    rw [Site.rounds, passes, List.tail_cons]
    simp only [Site.round_succ hpassed.used]
  rw [hlater, ← Site.filter_pending_succ hpassed.used] at hretries
  rw [hlater, ← Site.round_zero] at hhistory
  refine ⟨s', ?_, ?_⟩
  · have hends : Task.Ends (fanout.notify (first :: others)) now s _ s' (fanout.verdict s) :=
      Task.Ends.bind hpass (Task.Ends.bind hretries (Task.Ends.done _))
    rw [Attempt.totalRetries_eq, ← Site.round_zero] at hends
    rw [passes, List.map_cons, List.sum_cons, List.length_cons, Nat.add_sub_cancel]
    rw [passes, List.tail_cons] at hends
    simpa only [Nat.add_assoc] using hends
  · rw [hhistory, hpassed.history, ← Site.round_zero, passes, List.tail_cons, Attempt.recordCall,
      List.reverse_append, List.append_assoc]

theorem verdict_eq (fanout : Fanout) (s : Site) :
    fanout.verdict s =
      if ∀ i < fanout.channels.length,
          fanout.firstDelivery s i ≤ ((fanout.retries + 1 : Nat) : ℕ∞) then .ok ()
      else .error (.undelivered ((List.range fanout.channels.length).countP
        fun i => ((fanout.retries + 1 : Nat) : ℕ∞) < fanout.firstDelivery s i)) := by
  have hpositions := fanout.pending_positions s (fanout.retries + 1)
  have hempty : (fanout.places.filter (s.Pending (fanout.retries + 1) ·)).isEmpty = true ↔
      ∀ i < fanout.channels.length,
        fanout.firstDelivery s i ≤ ((fanout.retries + 1 : Nat) : ℕ∞) := by
    rw [List.isEmpty_iff, ← List.map_eq_nil_iff, hpositions, List.filter_eq_nil_iff]
    simp only [List.mem_range, decide_eq_true_iff, not_lt]
  have hlength : (fanout.places.filter (s.Pending (fanout.retries + 1) ·)).length =
      (List.range fanout.channels.length).countP
        fun i => ((fanout.retries + 1 : Nat) : ℕ∞) < fanout.firstDelivery s i := by
    rw [← List.length_map, hpositions, List.countP_eq_length_filter]
  rw [verdict, hlength]
  exact if_congr hempty rfl rfl

theorem getD_passes (fanout : Fanout) (s : Site) {p : Nat} (hp : p ≤ fanout.retries) :
    (fanout.passes s).getD p [] = s.round fanout.places p := by
  obtain ⟨last, -, hpasses, -, hnone⟩ := fanout.passes_eq s
  rw [hpasses, List.getD_eq_getElem?_getD, List.getElem?_map]
  by_cases hlast : p ≤ last
  · rw [List.getElem?_range (by omega)]
    rfl
  · rw [List.getElem?_eq_none (by rw [List.length_range]; omega)]
    exact (hnone p (by omega) hp).symm

/-- **The protocol of a call.**  With `k i` the number of the first delivery through channel `i` that
would succeed, and `R` retries: the record of the call is that of its passes, one attempt after the
other and a delay between two passes; it lasts as long as the attempts and the delays between the
passes; pass `p` calls exactly the channels with `p < k i`, in their order; a pass after the first one
takes place only if there is such a channel; a channel is handed the whole batch `min (k i) (R + 1)`
times, and what comes of it does not depend on the other channels; and the call succeeds if and only
if every channel has succeeded by then, and tells how many have not.  A delay of more than 30 years
counts as 30 years. -/
theorem notify_protocol (fanout : Fanout) (first : Message) (others : List Message) (now : Nat)
    (cancelled : List Token) (planned : List (Nat × Token)) (s : Site) :
    let messages := first :: others
    let k := fanout.firstDelivery s
    let R := fanout.retries
    let n := fanout.channels.length
    let delay := min fanout.delay.milliseconds longestWait
    let passes := fanout.passes s
    ∃ (b : Agenda Site) (result : Except Fault Unit),
      (Agenda.mk now cancelled planned [] s).perform (fanout.notify messages) = (b, some result) ∧
      b.state.history = (Attempt.recordCall messages delay now passes).reverse ++ s.history ∧
      b.now = now + (passes.map Attempt.total).sum + (passes.length - 1) * delay ∧
      (∀ p ≤ R, (passes.getD p []).map (·.index) =
        (List.range n).filter fun i => (p : ℕ∞) < k i) ∧
      (∀ p, 1 ≤ p → p < passes.length → p ≤ R ∧ ∃ i < n, (p : ℕ∞) < k i) ∧
      (∀ i channel, fanout.channels[i]? = some channel →
        ∃ m : Nat, (m : ℕ∞) = min (k i) ((R + 1 : Nat) : ℕ∞) ∧
          passes.flatten.filter (·.index = i) = (List.range m).map (s.attempt (i, channel))) ∧
      result = if ∀ i < n, k i ≤ ((R + 1 : Nat) : ℕ∞) then .ok ()
        else .error (.undelivered ((List.range n).countP fun i => ((R + 1 : Nat) : ℕ∞) < k i)) := by
  intro messages k R n delay passes
  obtain ⟨s', hends, hhistory⟩ := fanout.notify_ends first others now s
  obtain ⟨b, hperform, -, hnow, hstate⟩ := hends (Agenda.mk now cancelled planned [] s) rfl rfl rfl
  refine ⟨b, _, hperform, ?_, hnow, ?_, ?_, ?_, fanout.verdict_eq s⟩
  · rw [hstate]
    exact hhistory
  · intro p hp
    rw [fanout.getD_passes s hp]
    exact round_positions s p
  · intro p hp hlength
    obtain ⟨last, hlast, hpasses, hsome, -⟩ := fanout.passes_eq s
    have hle : p ≤ last := by
      rw [show passes = _ from hpasses, List.length_map, List.length_range] at hlength
      omega
    refine ⟨by omega, ?_⟩
    have hround : (s.round fanout.places p).map (·.index) ≠ [] := by
      simpa using hsome p hp hle
    rw [round_positions, ne_eq, List.filter_eq_nil_iff] at hround
    simpa using hround
  · intro i channel hchannel
    have hfinite : min (k i) ((R + 1 : Nat) : ℕ∞) ≠ ⊤ :=
      ne_top_of_le_ne_top (ENat.natCast_ne_top (R + 1)) (min_le_right _ _)
    obtain ⟨m, hm⟩ := ENat.ne_top_iff_exists.mp hfinite
    exact ⟨m, hm, passes_filter s hchannel hm⟩

/-- A delay of 10¹² milliseconds, which is more than 30 years, is cut short. -/
theorem notify_cuts_long_delay :
    let fanout : Fanout := ⟨[.handover "a"], 2, ⟨1000000000000000000⟩⟩
    let outcome (n : Nat) : Except Fault Response :=
      if n = 0 then .error (.status 500) else .ok ⟨200, []⟩
    let s : Site := { Site.initial with channels := [⟨fun n => ⟨0, outcome n⟩, 0⟩] }
    Fanout.make [.handover "a"] 2 ⟨1000000000000000000⟩ = .ok fanout ∧
      ((fanout.passes s).map fun pass => pass.map (·.index)) = [[0], [0]] ∧
      ((Agenda.start s).perform (fanout.notify [Message.blank .info ""])).1.now = 946080000000 ∧
      ((Agenda.start s).perform (fanout.notify [Message.blank .info ""])).1.now ≠
        ((fanout.passes s).map Attempt.total).sum +
          ((fanout.passes s).length - 1) * fanout.delay.milliseconds := by
  intro fanout outcome s
  obtain ⟨s', hends, -⟩ := fanout.notify_ends (Message.blank .info "") [] 0 s
  obtain ⟨b, hperform, -, hnow, -⟩ := hends (Agenda.start s) rfl rfl rfl
  have hpasses : (fanout.passes s).length = 2 ∧ ((fanout.passes s).map Attempt.total).sum = 0 := by
    decide
  have hended : b.now = 946080000000 := by
    rw [hnow, hpasses.1, hpasses.2]
    decide
  rw [hperform]
  refine ⟨by decide, by decide, hended, ?_⟩
  rw [hpasses.1, hpasses.2]
  change b.now ≠ _
  rw [hended]
  decide

end Fanout

end ValidatorAlarm
