import ValidatorAlarm.Proofs.Delivery.Protocol

/-!
# Deliveries in company

A call of a fanout follows its protocol among other loops as well.  While it waits for a reply or for
the next retry, those loops may change the state in any way: they may even use up replies of its
channels.  So nothing is said here about the state, but about the deeds of the call, that is, what it
puts on record itself, each with the site at that moment.  The reply to a request is the one that the
site has in store for its channel just then.

The replies that the call meets make a site of their own (`Site.ofReplies`), on which the passes of the
call are those of its protocol.
-/
namespace ValidatorAlarm

variable {α β : Type}

/-! ### Deeds -/

/-- Something that is put on record, with the site as it was before. -/
structure Deed where
  time : Nat
  event : Event
  site : Site

def Deed.entry (d : Deed) : Nat × Event := (d.time, d.event)

/-- The channel to which an event is a request. -/
def Event.channel? : Event → Option Nat
  | .post channel _ _ => channel
  | .handedOver channel _ => some channel
  | .mailed channel _ _ _ => some channel
  | _ => none

/-- The requests among some deeds, each with the reply that it finds. -/
def Deed.requests (ds : List Deed) : List (Nat × Reply) :=
  ds.filterMap fun d => d.event.channel?.map fun index => (index, d.site.reply index 0)

theorem Deed.requests_append (ds ds' : List Deed) :
    Deed.requests (ds ++ ds') = Deed.requests ds ++ Deed.requests ds' :=
  List.filterMap_append

namespace Agenda

/-- What a single change of the site puts on record. -/
def added (s s' : Site) : List Deed :=
  (s'.history.take (s'.history.length - s.history.length)).reverse.map fun e => ⟨e.1, e.2, s⟩

/-- What the task in the foreground puts on record itself, in order. -/
def deeds : Work α → Agenda Site → List Deed
  | .done _, _ => []
  | .look next, a => deeds (next a.moment a.state) a
  | .act change next, a =>
    added a.state (change a.moment a.state) ++
      deeds next { a with state := change a.moment a.state }
  | .wait ms token next, a =>
    if token.any a.moment.cancelled then deeds (next false) a
    else if ms = 0 then deeds (next true) a
    else
      deeds (next (a.passUntil (a.moment.after ms) token).2)
        (a.passUntil (a.moment.after ms) token).1
  | .hold token next, a =>
    if a.moment.cancelled token then deeds next a
    else if (a.passUntil (a.lastPlanned + 1) (some token)).2 then []
    else deeds next (a.passUntil (a.lastPlanned + 1) (some token)).1

/-- The work comes to its end on this agenda, with these deeds. -/
structure Does (work : Work α) (a : Agenda Site) (ds : List Deed) (b : Agenda Site) (x : α) :
    Prop where
  perform : a.perform work = (b, some x)
  deeds : Agenda.deeds work a = ds

theorem deeds_bind {t : Work α} {k : α → Work β} {a b : Agenda Site} {x : α}
    (h : a.perform t = (b, some x)) :
    deeds (t.bind k) a = deeds t a ++ deeds (k x) b := by
  induction t generalizing a with
  | done y =>
    obtain ⟨rfl, hx⟩ := Prod.mk.inj h
    obtain rfl := Option.some.inj hx
    rfl
  | look next ih => exact ih _ _ h
  | act change next ih =>
    rw [Task.bind, deeds, deeds, List.append_assoc, ih h]
  | wait ms token next ih =>
    rw [perform_wait] at h
    rw [Task.bind, deeds, deeds]
    by_cases hcut : token.any a.moment.cancelled
    · rw [if_pos hcut] at h ⊢
      rw [if_pos hcut]
      exact ih false h
    · rw [if_neg hcut] at h ⊢
      rw [if_neg hcut]
      by_cases hzero : ms = 0
      · rw [if_pos hzero] at h ⊢
        rw [if_pos hzero]
        exact ih true h
      · rw [if_neg hzero] at h ⊢
        rw [if_neg hzero]
        exact ih _ h
  | hold token next ih =>
    rw [perform_hold] at h
    rw [Task.bind, deeds, deeds]
    by_cases hcut : a.moment.cancelled token
    · rw [if_pos hcut] at h ⊢
      rw [if_pos hcut]
      exact ih h
    · rw [if_neg hcut] at h ⊢
      rw [if_neg hcut]
      by_cases hpassed : (a.passUntil (a.lastPlanned + 1) (some token)).2
      · rw [if_pos hpassed] at h
        cases (Prod.mk.inj h).2
      · rw [if_neg hpassed] at h ⊢
        rw [if_neg hpassed]
        exact ih h

namespace Does

variable {a b c : Agenda Site} {ds ds' : List Deed} {x : α} {y : β}

theorem done (x : α) (a : Agenda Site) : Does (.done x) a [] a x := ⟨rfl, rfl⟩

theorem bind {t : Work α} {k : α → Work β} (ht : Does t a ds b x) (hk : Does (k x) b ds' c y) :
    Does (t.bind k) a (ds ++ ds') c y := by
  constructor
  · rw [perform_bind_of_some ht.perform]
    exact hk.perform
  · rw [deeds_bind ht.perform, ht.deeds, hk.deeds]

theorem bind_done {t : Work α} (ht : Does t a ds b x) (f : α → β) :
    Does (t.bind fun x => .done (f x)) a ds b (f x) := by
  have h := ht.bind (k := fun x => .done (f x)) (done (f x) b)
  rwa [List.append_nil] at h

theorem note (event : Event) (a : Agenda Site) :
    Does (Work.note event) a [⟨a.now, event, a.state⟩]
      { a with state := a.state.note event a.moment } () := by
  refine ⟨rfl, ?_⟩
  simp [Work.note, Task.changeAt, Agenda.deeds, added, Site.note, Agenda.moment]

theorem update {step : Site → Site × α} (h : (step a.state).1.history = a.state.history) :
    Does (Task.update step) a [] { a with state := (step a.state).1 } (step a.state).2 := by
  refine ⟨rfl, ?_⟩
  simp [Task.update, Agenda.deeds, added, h]

/-- A wait that nobody can cut short, whatever happens meanwhile. -/
theorem pause (ms : Nat) (a : Agenda Site) :
    ∃ b, Does (Task.pause ms none) a [] b true ∧ b.now = a.now + min ms longestWait := by
  have hcut : ¬ (none : Option Token).any a.moment.cancelled = true := by simp
  by_cases hzero : ms = 0
  · subst hzero
    refine ⟨a, ⟨rfl, rfl⟩, ?_⟩
    rw [Nat.zero_min, Nat.add_zero]
  · obtain ⟨hnow, hpassed⟩ := passUntil_none (a.moment.after ms) a
    refine ⟨(a.passUntil (a.moment.after ms) none).1, ⟨?_, ?_⟩, hnow⟩
    · rw [Task.pause, perform_wait, if_neg hcut, if_neg hzero, hpassed]
      rfl
    · rw [Task.pause, Agenda.deeds, if_neg hcut, if_neg hzero]
      rfl

theorem sleep (ms : Nat) (a : Agenda Site) :
    ∃ b, Does (Task.sleep ms) a [] b () ∧ b.now = a.now + min ms longestWait := by
  obtain ⟨b, hpause, hnow⟩ := pause ms a
  exact ⟨b, hpause.bind (k := fun _ => .done ()) (done () b), hnow⟩

end Does

end Agenda

open Agenda

/-! ### One delivery -/

theorem Site.channelReply_eq (s : Site) (index : Nat) :
    (s.channelReply index).2 = s.reply index 0 ∧
      (s.channelReply index).1.history = s.history := by
  rw [channelReply, reply]
  cases s.channels[index]? <;> exact ⟨rfl, rfl⟩

/-- A request finds a reply, takes its time, and results in it. -/
theorem Work.exchange_does (event : Event) (index : Nat) (a : Agenda Site) :
    ∃ b, Does (Work.exchange none event (Site.channelReply index)) a
        [⟨a.now, event, a.state⟩] b (a.state.reply index 0).result ∧
      b.now = a.now + min (a.state.reply index 0).latency longestWait := by
  have hnote := Does.note event a
  obtain ⟨hreply, hhistory⟩ := (a.state.note event a.moment).channelReply_eq index
  have hsame : (a.state.note event a.moment).reply index 0 = a.state.reply index 0 := rfl
  have hupdate := Does.update (a := { a with state := a.state.note event a.moment }) hhistory
  rw [hreply, hsame] at hupdate
  obtain ⟨b, hpause, hnow⟩ := Does.pause (a.state.reply index 0).latency
    { a with state := ((a.state.note event a.moment).channelReply index).1 }
  have hrest := hnote.bind (k := fun _ => _) (hupdate.bind (k := fun reply =>
    (Task.pause reply.latency none).bind fun passed =>
      .done (if passed then reply.result else .error .cancelled))
        (hpause.bind_done fun passed =>
          if passed then (a.state.reply index 0).result else .error .cancelled))
  refine ⟨b, ⟨?_, ?_⟩, hnow⟩
  · exact hrest.perform
  · exact hrest.deeds

theorem Channel.writeLog_does (messages : List Message) (a : Agenda Site) :
    ∃ ds b, Does (Channel.writeLog messages) a ds b () ∧ b.now = a.now ∧
      ds.map Deed.entry = messages.map (fun m => (a.now, .logged m.severity m.logLine)) ∧
      Deed.requests ds = [] := by
  induction messages generalizing a with
  | nil => exact ⟨[], a, Does.done () a, rfl, rfl, rfl⟩
  | cons m messages ih =>
    obtain ⟨ds, b, hrest, hnow, hrecord, hrequests⟩ :=
      ih { a with state := a.state.note (.logged m.severity m.logLine) a.moment }
    refine ⟨_, b, (Does.note _ a).bind hrest, hnow, ?_, ?_⟩
    · rw [List.map_append, hrecord]
      rfl
    · rw [Deed.requests_append, hrequests]
      rfl

/-- **A delivery among others.**  The channel is asked to do something with the complete batch, and the
reply that it finds decides what comes of it. -/
theorem Channel.send_does (channel : Channel) (index : Nat) (first : Message)
    (others : List Message) (a : Agenda Site) :
    ∃ ds b, Does (channel.send index (first :: others)) a ds b
        (channel.judge (a.state.reply index 0)) ∧
      b.now = a.now + channel.duration (a.state.reply index 0) ∧
      ds.map Deed.entry = (channel.request index (first :: others)).map (a.now, ·) ∧
      Deed.requests ds = if channel = .log then [] else [(index, a.state.reply index 0)] := by
  cases channel with
  | handover name =>
    obtain ⟨b, hdoes, hnow⟩ := Work.exchange_does (.handedOver index (first :: others)) index a
    exact ⟨_, b, hdoes.bind_done outcome, hnow, rfl, rfl⟩
  | log =>
    obtain ⟨ds, b, hdoes, hnow, hrecord, hrequests⟩ := writeLog_does (first :: others) a
    have hdone := hdoes.bind_done fun _ => (.ok () : Except Fault Unit)
    refine ⟨ds, b, hdone, hnow, ?_, hrequests⟩
    rw [hrecord, request, List.map_map]
    rfl
  | mail sender recipient =>
    obtain ⟨b, hdoes, hnow⟩ := Work.exchange_does _ index a
    exact ⟨_, b, hdoes.bind_done outcome, hnow, rfl, rfl⟩
  | pushover token userKey =>
    obtain ⟨b, hdoes, hnow⟩ := Work.exchange_does _ index a
    exact ⟨_, b, (hdoes.bind_done (·.bind Response.successful)).bind_done fun result =>
      result.bind fun response => if isPushoverAnswer response.body then .ok () else .error .unreadable,
      hnow, rfl, rfl⟩
  | slack secret =>
    obtain ⟨b, hdoes, hnow⟩ := Work.exchange_does _ index a
    exact ⟨_, b, (hdoes.bind_done (·.bind Response.successful)).bind_done outcome, hnow, rfl, rfl⟩
  | telegram token chatId =>
    obtain ⟨b, hdoes, hnow⟩ := Work.exchange_does _ index a
    exact ⟨_, b, (hdoes.bind_done (·.bind Response.successful)).bind_done outcome, hnow, rfl, rfl⟩

/-! ### One pass -/

namespace Attempt

/-- The attempt through a channel at its place that meets a reply. -/
def meeting (place : Nat × Channel) (reply : Reply) : Attempt :=
  ⟨place.1, place.2, place.2.accepts reply, place.2.duration reply⟩

/-- The request is that of the attempt, which goes by the reply. -/
def Answers (request : Nat × Reply) (x : Attempt) : Prop :=
  x = meeting (request.1, x.channel) request.2

/-- The attempts that make requests. -/
def requesting (xs : List Attempt) : List Attempt := xs.filter (·.channel ≠ .log)

theorem requesting_append (xs ys : List Attempt) :
    requesting (xs ++ ys) = requesting xs ++ requesting ys :=
  List.filter_append _ _

end Attempt

open Attempt

/-- The attempts that were made between two points, one after the other. -/
structure Attempted (messages : List Message) (retry : Option Nat) (a b : Agenda Site)
    (ds : List Deed) (xs : List Attempt) : Prop where
  now : b.now = a.now + Attempt.total xs
  record : ds.map Deed.entry = Attempt.recordAll messages retry a.now xs
  replies : List.Forall₂ Attempt.Answers (Deed.requests ds) (Attempt.requesting xs)

section Pass

variable {messages : List Message} {retry : Option Nat} {a b c : Agenda Site}
  {ds ds' : List Deed} {x : Attempt} {xs : List Attempt}

theorem Attempted.nil (a : Agenda Site) : Attempted messages retry a a [] [] := ⟨rfl, rfl, .nil⟩

theorem Attempted.cons (hnow : b.now = a.now + x.duration)
    (hrecord : ds.map Deed.entry = x.record messages retry a.now)
    (hreplies : List.Forall₂ Attempt.Answers (Deed.requests ds) (Attempt.requesting [x]))
    (hrest : Attempted messages retry b c ds' xs) :
    Attempted messages retry a c (ds ++ ds') (x :: xs) := by
  refine ⟨?_, ?_, ?_⟩
  · rw [hrest.now, hnow, Attempt.total_cons, Nat.add_assoc]
  · rw [List.map_append, hrecord, hrest.record, hnow]
    rfl
  · rw [Deed.requests_append, ← List.singleton_append, Attempt.requesting_append]
    exact List.rel_append hreplies hrest.replies

theorem answers_single (place : Nat × Channel) (reply : Reply) :
    List.Forall₂ Attempt.Answers (if place.2 = .log then [] else [(place.1, reply)])
      (Attempt.requesting [meeting place reply]) := by
  by_cases hlog : place.2 = .log
  · rw [if_pos hlog, Attempt.requesting, List.filter_cons_of_neg (by simp [meeting, hlog])]
    exact .nil
  · rw [if_neg hlog, Attempt.requesting, List.filter_cons_of_pos (by simp [meeting, hlog])]
    exact .cons rfl .nil

/-- What some channels meet does not change by what is met at a channel that is none of them. -/
theorem exists_met {index : Nat} {places : List (Nat × Channel)}
    (hfresh : index ∉ places.map (·.1)) (reply : Reply) (met : Nat → Reply) :
    ∃ met' : Nat → Reply, met' index = reply ∧
      (places.filter fun place => !place.2.accepts (met' place.1)) =
        (places.filter fun place => !place.2.accepts (met place.1)) ∧
      places.map (fun place => meeting place (met' place.1)) =
        places.map fun place => meeting place (met place.1) := by
  have hothers : ∀ place ∈ places, (if place.1 = index then reply else met place.1) = met place.1 := by
    intro place hplace
    refine if_neg fun hindex => hfresh ?_
    rw [← hindex]
    exact List.mem_map_of_mem hplace
  refine ⟨fun i => if i = index then reply else met i, if_pos rfl, ?_, ?_⟩
  · apply List.filter_congr
    intro place hplace
    exact congrArg (fun reply => !place.2.accepts reply) (hothers place hplace)
  · apply List.map_congr_left
    intro place hplace
    exact congrArg (meeting place) (hothers place hplace)

/-- **One pass among others.**  Each of the channels makes an attempt, one after the other; the result
are those whose attempt has failed. -/
theorem Fanout.pass_does (first : Message) (others : List Message) (retry : Option Nat)
    (places : List (Nat × Channel)) (hdistinct : (places.map (·.1)).Nodup) (a : Agenda Site) :
    ∃ (met : Nat → Reply) (ds : List Deed) (b : Agenda Site),
      Does (pass (first :: others) retry places) a ds b
        (places.filter fun place => !place.2.accepts (met place.1)) ∧
      Attempted (first :: others) retry a b ds
        (places.map fun place => meeting place (met place.1)) := by
  induction places generalizing a with
  | nil => exact ⟨fun index => a.state.reply index 0, [], a, Does.done _ a, Attempted.nil a⟩
  | cons place places ih =>
    obtain ⟨index, channel⟩ := place
    obtain ⟨hfresh, hdistinct⟩ := List.nodup_cons.mp hdistinct
    obtain ⟨ds, b, hsend, hnow, hrecord, hrequests⟩ := channel.send_does index first others a
    generalize a.state.reply index 0 = reply at hsend hnow hrequests
    have hanswers := answers_single (index, channel) reply
    rw [← hrequests] at hanswers
    rcases hjudge : channel.judge reply with fault | ⟨⟨⟩⟩
    · have hfails : channel.accepts reply = false := by
        rw [Channel.accepts, hjudge]
        rfl
      rw [hjudge] at hsend
      obtain ⟨met, ds', c, hrest, hattempted⟩ := ih hdistinct
        { b with state := b.state.note (.sendFailed (channel.label index) retry) b.moment }
      obtain ⟨met', hself, hfilter, hmap⟩ := exists_met hfresh reply met
      rw [← hfilter] at hrest
      rw [← hmap] at hattempted
      refine ⟨met', (ds ++ [⟨b.now, .sendFailed (channel.label index) retry, b.state⟩]) ++ ds', c,
        ?_, ?_⟩
      · rw [List.filter_cons_of_pos (by simp [hself, hfails]), List.append_assoc]
        exact Does.bind hsend (Does.bind (Does.note _ b) (hrest.bind_done _))
      · rw [List.map_cons, hself]
        refine Attempted.cons
          (b := { b with state := b.state.note (.sendFailed (channel.label index) retry) b.moment })
          hnow ?_ ?_ hattempted
        · rw [List.map_append, hrecord, Attempt.record, meeting, hfails,
            if_neg Bool.false_ne_true, ← hnow]
          rfl
        · rw [Deed.requests_append]
          change List.Forall₂ Attempt.Answers (Deed.requests ds ++ []) _
          rw [List.append_nil]
          exact hanswers
    · have hsucceeds : channel.accepts reply = true := by
        rw [Channel.accepts, hjudge]
        rfl
      rw [hjudge] at hsend
      obtain ⟨met, ds', c, hrest, hattempted⟩ := ih hdistinct b
      obtain ⟨met', hself, hfilter, hmap⟩ := exists_met hfresh reply met
      rw [← hfilter] at hrest
      rw [← hmap] at hattempted
      refine ⟨met', ds ++ ds', c, ?_, ?_⟩
      · rw [List.filter_cons_of_neg (by simp [hself, hsucceeds])]
        exact Does.bind hsend hrest
      · rw [List.map_cons, hself]
        refine Attempted.cons hnow ?_ hanswers hattempted
        rw [hrecord, Attempt.record, meeting, hsucceeds, if_pos rfl, List.append_nil]

end Pass

/-! ### Retries -/

/-- The retries that were made between two points, numbered from `retry` on, each after a delay. -/
structure Retried (messages : List Message) (delay retry : Nat) (a b : Agenda Site)
    (ds : List Deed) (passes : List (List Attempt)) : Prop where
  now : b.now = a.now + Attempt.totalRetries delay passes
  record : ds.map Deed.entry = Attempt.recordRetries messages delay retry a.now passes
  replies : List.Forall₂ Attempt.Answers (Deed.requests ds) (Attempt.requesting passes.flatten)

theorem Retried.nil {messages : List Message} {delay retry : Nat} (a : Agenda Site) :
    Retried messages delay retry a a [] [] := ⟨rfl, rfl, .nil⟩

theorem Retried.cons {messages : List Message} {delay retry : Nat} {a m b c : Agenda Site}
    {ds ds' : List Deed} {pass : List Attempt} {passes : List (List Attempt)}
    (hdelay : m.now = a.now + delay) (hpass : Attempted messages (some retry) m b ds pass)
    (hrest : Retried messages delay (retry + 1) b c ds' passes) :
    Retried messages delay retry a c (ds ++ ds') (pass :: passes) := by
  refine ⟨?_, ?_, ?_⟩
  · rw [hrest.now, hpass.now, hdelay, Attempt.totalRetries_cons]
    omega
  · rw [List.map_append, hpass.record, hrest.record, hpass.now, hdelay]
    rfl
  · rw [Deed.requests_append, List.flatten_cons, Attempt.requesting_append]
    exact List.rel_append hpass.replies hrest.replies

namespace Site

/-- The site at which each channel has used up one reply. -/
def allRequested (s : Site) : Site :=
  { s with channels := s.channels.map fun script => script.next.1 }

theorem allRequested_reply (s : Site) (index n : Nat) :
    s.allRequested.reply index n = s.reply index (n + 1) := by
  rw [reply, reply, allRequested, List.getElem?_map]
  cases s.channels[index]? with
  | none => rfl
  | some script =>
    exact congrArg script.answer (show script.used + 1 + n = script.used + (n + 1) by omega)

theorem allRequested_attempt (s : Site) (place : Nat × Channel) (n : Nat) :
    s.allRequested.attempt place n = s.attempt place (n + 1) := by
  simp only [attempt, allRequested_reply]

/-- A site at which the first channels have these replies in store. -/
def ofReplies (channels : Nat) (met : Nat → Nat → Reply) : Site :=
  { initial with channels := (List.range channels).map fun index => ⟨met index, 0⟩ }

theorem ofReplies_reply {channels index : Nat} (h : index < channels) (met : Nat → Nat → Reply)
    (n : Nat) : (ofReplies channels met).reply index n = met index n := by
  simp only [reply, ofReplies, List.getElem?_map, List.getElem?_range h, Option.map_some,
    Nat.zero_add]

end Site

namespace Fanout

section Retries

variable {s : Site} {places : List (Nat × Channel)} {met : Nat → Reply}

theorem attempts_met (h : ∀ place ∈ places, s.reply place.1 0 = met place.1) :
    places.map (s.attempt · 0) = places.map fun place => meeting place (met place.1) := by
  apply List.map_congr_left
  intro place hplace
  rw [← h place hplace]
  rfl

theorem failures_met (h : ∀ place ∈ places, s.reply place.1 0 = met place.1) :
    (places.filter fun place => !(s.attempt place 0).succeeds) =
      places.filter fun place => !place.2.accepts (met place.1) := by
  apply List.filter_congr
  intro place hplace
  rw [← h place hplace]
  rfl

end Retries

/-- **Retries among others.**  On a site that has the replies in store which the retries meet, the
retries are the rounds over the channels that still fail. -/
theorem retryFrom_does (first : Message) (others : List Message) (delay retry left : Nat)
    (places : List (Nat × Channel)) (hdistinct : (places.map (·.1)).Nodup) (a : Agenda Site) :
    ∃ (met : Nat → Nat → Reply) (ds : List Deed) (b : Agenda Site),
      ∀ s : Site, (∀ place ∈ places, ∀ n, s.reply place.1 n = met place.1 n) →
        Does (retryFrom delay (first :: others) retry left places) a ds b
          (places.filter (s.Pending left ·)) ∧
        Retried (first :: others) (min delay longestWait) retry a b ds (s.rounds places left) := by
  induction left generalizing retry places a with
  | zero =>
    refine ⟨a.state.reply, [], a, fun s _ => ?_⟩
    rw [s.filter_pending_zero]
    exact ⟨Does.done places a, Retried.nil a⟩
  | succ left ih =>
    cases places with
    | nil =>
      refine ⟨a.state.reply, [], a, fun s _ => ?_⟩
      rw [s.rounds_nil]
      exact ⟨Does.done _ a, Retried.nil a⟩
    | cons place rest =>
      obtain ⟨m, hsleep, hdelay⟩ := Does.sleep delay a
      obtain ⟨now, ds, b, hpass, hattempted⟩ :=
        pass_does first others (some retry) (place :: rest) hdistinct m
      obtain ⟨later, ds', c, hrest⟩ := ih (retry + 1) _ (distinct_filter hdistinct _) b
      -- a channel meets its first reply in this pass, and the others in those after it
      refine ⟨fun index n => n.casesOn (now index) (later index), ds ++ ds', c, fun s hmet => ?_⟩
      have hfirst : ∀ place' ∈ place :: rest, s.reply place'.1 0 = now place'.1 :=
        fun place' hplace => hmet place' hplace 0
      obtain ⟨hretries, hretried⟩ := hrest s.allRequested fun place' hplace n =>
        (s.allRequested_reply place'.1 n).trans (hmet place' (List.mem_of_mem_filter hplace) (n + 1))
      have hlater : ∀ place' ∈ place :: rest, ∀ n,
          s.allRequested.attempt place' n = s.attempt place' (n + 1) :=
        fun place' _ n => s.allRequested_attempt place' n
      rw [Site.rounds_succ (List.cons_ne_nil place rest) hlater, Site.filter_pending_succ hlater,
        attempts_met hfirst, failures_met hfirst]
      exact ⟨hsleep.bind (hpass.bind hretries), Retried.cons hdelay hattempted hretried⟩

/-! ### The call -/

/-- A call that has followed its protocol.  The site has in store what the call met: its requests are
those of the passes on this site, and found these replies.  The rest is said in terms of the number
`k i` of the first delivery through channel `i` that would succeed, as for a call alone. -/
structure Protocol (fanout : Fanout) (messages : List Message) (s : Site) (begun ended : Nat)
    (ds : List Deed) (result : Except Fault Unit) : Prop where
  replies : List.Forall₂ Attempt.Answers (Deed.requests ds)
    (Attempt.requesting (fanout.passes s).flatten)
  record : ds.map Deed.entry = Attempt.recordCall messages
    (min fanout.delay.milliseconds longestWait) begun (fanout.passes s)
  ended : ended = begun + ((fanout.passes s).map Attempt.total).sum +
    ((fanout.passes s).length - 1) * min fanout.delay.milliseconds longestWait
  /-- A pass calls exactly the channels that have not succeeded, in their order. -/
  calls : ∀ p ≤ fanout.retries, ((fanout.passes s).getD p []).map (·.index) =
    (List.range fanout.channels.length).filter fun i => (p : ℕ∞) < fanout.firstDelivery s i
  /-- There is a retry only if some channel has not succeeded. -/
  needed : ∀ p, 1 ≤ p → p < (fanout.passes s).length →
    p ≤ fanout.retries ∧ ∃ i < fanout.channels.length, (p : ℕ∞) < fanout.firstDelivery s i
  /-- A channel makes attempts until it succeeds, whatever the others do. -/
  attempts : ∀ i channel, fanout.channels[i]? = some channel →
    ∃ m : Nat, (m : ℕ∞) = min (fanout.firstDelivery s i) ((fanout.retries + 1 : Nat) : ℕ∞) ∧
      (fanout.passes s).flatten.filter (·.index = i) = (List.range m).map (s.attempt (i, channel))
  result : result =
    if ∀ i < fanout.channels.length, fanout.firstDelivery s i ≤ ((fanout.retries + 1 : Nat) : ℕ∞)
    then .ok ()
    else .error (.undelivered ((List.range fanout.channels.length).countP
      fun i => ((fanout.retries + 1 : Nat) : ℕ∞) < fanout.firstDelivery s i))

theorem passes_needed {fanout : Fanout} {s : Site} {p : Nat} (hp : 1 ≤ p)
    (hlength : p < (fanout.passes s).length) :
    p ≤ fanout.retries ∧ ∃ i < fanout.channels.length, (p : ℕ∞) < fanout.firstDelivery s i := by
  obtain ⟨last, hlast, hpasses, hsome, -⟩ := fanout.passes_eq s
  rw [hpasses, List.length_map, List.length_range] at hlength
  have hround : (s.round fanout.places p).map (·.index) ≠ [] := by
    simpa using hsome p hp (by omega)
  rw [round_positions, ne_eq, List.filter_eq_nil_iff] at hround
  exact ⟨by omega, by simpa using hround⟩

theorem passes_cons (fanout : Fanout) {s s' : Site}
    (hlater : ∀ place ∈ fanout.places, ∀ n, s'.attempt place n = s.attempt place (n + 1)) :
    fanout.passes s = fanout.places.map (s.attempt · 0) ::
      s'.rounds (fanout.places.filter fun place => !(s.attempt place 0).succeeds)
        fanout.retries := by
  rw [passes, Site.rounds, Site.round_zero]
  simp only [Site.round_succ hlater]

/-- **A call among others follows its protocol.** -/
theorem notify_does (fanout : Fanout) (first : Message) (others : List Message) (a : Agenda Site) :
    ∃ (s : Site) (ds : List Deed) (b : Agenda Site) (result : Except Fault Unit),
      Does (fanout.notify (first :: others)) a ds b result ∧
      fanout.Protocol (first :: others) s a.now b.now ds result := by
  obtain ⟨now, ds, m, hpass, hattempted⟩ :=
    pass_does first others none fanout.places fanout.places_distinct a
  obtain ⟨later, ds', b, hrest⟩ := retryFrom_does first others fanout.delay.milliseconds 0
    fanout.retries _ (distinct_filter fanout.places_distinct _) m
  let s := Site.ofReplies fanout.channels.length fun index n => n.casesOn (now index) (later index)
  have hmet : ∀ place ∈ fanout.places, ∀ n,
      s.reply place.1 n = n.casesOn (now place.1) (later place.1) := by
    intro place hplace n
    have hindex : place.1 ∈ List.range fanout.channels.length := by
      rw [← fanout.places_positions]
      exact List.mem_map_of_mem hplace
    exact Site.ofReplies_reply (List.mem_range.mp hindex) _ n
  have hfirst : ∀ place ∈ fanout.places, s.reply place.1 0 = now place.1 :=
    fun place hplace => hmet place hplace 0
  obtain ⟨hretries, hretried⟩ := hrest s.allRequested fun place hplace n =>
    (s.allRequested_reply place.1 n).trans (hmet place (List.mem_of_mem_filter hplace) (n + 1))
  have hlater : ∀ place ∈ fanout.places, ∀ n,
      s.allRequested.attempt place n = s.attempt place (n + 1) :=
    fun place _ n => s.allRequested_attempt place n
  rw [← attempts_met hfirst] at hattempted
  rw [← failures_met hfirst] at hpass hretries hretried
  rw [← Site.filter_pending_succ hlater] at hretries
  refine ⟨s, ds ++ ds', b, fanout.verdict s, ?_, ?_⟩
  · exact hpass.bind (hretries.bind_done _)
  · have hpasses := fanout.passes_cons hlater
    refine ⟨?_, ?_, ?_, ?_, fun p => passes_needed, ?_, fanout.verdict_eq s⟩
    · rw [hpasses, Deed.requests_append, List.flatten_cons, Attempt.requesting_append]
      exact List.rel_append hattempted.replies hretried.replies
    · rw [hpasses, List.map_append, hattempted.record, hretried.record, hattempted.now]
      rfl
    · rw [hpasses, List.map_cons, List.sum_cons, List.length_cons, Nat.add_sub_cancel, hretried.now,
        hattempted.now, Attempt.totalRetries_eq]
      omega
    · intro p hp
      rw [fanout.getD_passes s hp]
      exact round_positions s p
    · intro i channel hchannel
      have hfinite : min (fanout.firstDelivery s i) ((fanout.retries + 1 : Nat) : ℕ∞) ≠ ⊤ :=
        ne_top_of_le_ne_top (ENat.natCast_ne_top (fanout.retries + 1)) (min_le_right _ _)
      obtain ⟨m, hm⟩ := ENat.ne_top_iff_exists.mp hfinite
      exact ⟨m, hm, passes_filter s hchannel hm⟩

end Fanout

end ValidatorAlarm
