import ValidatorAlarm.Delivery.Fanout
import ValidatorAlarm.Proofs.Timeline.Solitude

/-!
# Attempts to deliver

One delivery through one channel: what the channel is asked to do, what it makes of its next reply,
and how long that takes.  A delivery uses up the replies of its own channel only, so the replies that
the others will get are the same before and after.
-/
namespace ValidatorAlarm

namespace Site

/-- The reply to the request number `n` from now on, counted from zero, through the channel at a
position. -/
def reply (s : Site) (index n : Nat) : Reply :=
  match s.channels[index]? with
  | none => ⟨0, .ok ⟨200, []⟩⟩
  | some script => script.answer (script.used + n)

/-- The site after a request through the channel at a position. -/
def requested (s : Site) (index : Nat) : Site := (s.channelReply index).1

theorem requested_reply_self (s : Site) (index n : Nat) :
    (s.requested index).reply index n = s.reply index (n + 1) := by
  unfold requested channelReply reply
  cases h : s.channels[index]? with
  | none => simp only [h]
  | some script =>
    obtain ⟨hlt, -⟩ := List.getElem?_eq_some_iff.mp h
    simp only [List.getElem?_set_self hlt, Script.next]
    rw [Nat.add_assoc, Nat.add_comm 1 n]

theorem requested_reply_other (s : Site) {index other : Nat} (h : index ≠ other) (n : Nat) :
    (s.requested index).reply other n = s.reply other n := by
  unfold requested channelReply reply
  cases s.channels[index]? with
  | none => rfl
  | some script => simp only [List.getElem?_set_ne h]

end Site

namespace Channel

/-- What the channel at a position is asked to do with a batch, all at once. -/
def request (channel : Channel) (index : Nat) (messages : List Message) : List Event :=
  match channel with
  | .handover _ => [.handedOver index messages]
  | .log => messages.map fun m => .logged m.severity m.logLine
  | .mail sender recipient =>
    (Message.render? .mail messages).toList.map fun batch =>
      .mailed index sender recipient (composeMail batch)
  | .pushover token userKey =>
    (Message.render? .html messages).toList.map fun batch =>
      .post (some index) "" (pushoverBody token userKey batch)
  | .slack secret =>
    (Message.render? .chat messages).toList.map fun batch =>
      .post (some index) secret (slackBody batch)
  | .telegram token chatId =>
    (Message.render? .html messages).toList.map fun batch =>
      .post (some index) (telegramEndpoint token chatId batch) ""

/-- What comes of a delivery that gets this reply.  The log takes everything. -/
def judge (channel : Channel) (reply : Reply) : Except Fault Unit :=
  match channel with
  | .handover _ => outcome reply.result
  | .log => .ok ()
  | .mail _ _ => outcome reply.result
  | .pushover _ _ => (reply.result.bind Response.successful).bind fun response =>
    if isPushoverAnswer response.body then .ok () else .error .unreadable
  | .slack _ => outcome (reply.result.bind Response.successful)
  | .telegram _ _ => outcome (reply.result.bind Response.successful)

/-- Does a delivery with this reply succeed? -/
def accepts (channel : Channel) (reply : Reply) : Bool := (channel.judge reply).isOk

/-- The time that a delivery with this reply takes. -/
def duration (channel : Channel) (reply : Reply) : Nat :=
  match channel with
  | .log => 0
  | _ => min reply.latency longestWait

/-- The site after a delivery that began at the given time. -/
def delivered (channel : Channel) (index : Nat) (messages : List Message) (now : Nat) (s : Site) :
    Site :=
  let after := match channel with
    | .log => s
    | _ => s.requested index
  { after with
    history := ((channel.request index messages).map (now, ·)).reverse ++ s.history }

end Channel

/-! ### Requests that nobody can call off -/

section Requests

variable {now : Nat} {s : Site}

theorem Work.note_ends (event : Event) :
    Task.Ends (Work.note event) now s now { s with history := (now, event) :: s.history } () := by
  apply Task.Ends.changeAt
  intro m hnow
  simp only [Site.note, hnow]

/-- A request to a channel is put on record, takes the time of its reply, and results in it. -/
theorem Work.exchange_ends (event : Event) (index : Nat) :
    Task.Ends (Work.exchange none event (Site.channelReply index)) now s
      (now + min (s.reply index 0).latency longestWait)
      { s.requested index with history := (now, event) :: s.history } (s.reply index 0).result := by
  have hreply : ({ s with history := (now, event) :: s.history }.channelReply index) =
      ({ s.requested index with history := (now, event) :: s.history }, s.reply index 0) := by
    unfold Site.requested Site.channelReply Site.reply
    cases s.channels[index]? <;> rfl
  apply Task.Ends.moment_bind
  intro m hnow
  rw [if_neg (by simp)]
  refine Task.Ends.bind (Work.note_ends event) ?_
  refine Task.Ends.bind (Task.Ends.update hreply) ?_
  exact Task.Ends.bind (Task.Ends.pause _) (Task.Ends.done _)

theorem Channel.writeLog_ends (messages : List Message) :
    Task.Ends (Channel.writeLog messages) now s now
      { s with history := ((messages.map fun m => (now, .logged m.severity m.logLine)).reverse ++
        s.history) } () := by
  induction messages generalizing s with
  | nil => exact Task.Ends.done ()
  | cons m rest ih =>
    refine Task.Ends.bind (Work.note_ends _) ?_
    have hrest := ih (s := { s with history := (now, .logged m.severity m.logLine) :: s.history })
    simpa using hrest

theorem Channel.post_ends (index : Nat) (endpoint body : String) :
    Task.Ends (Channel.post index endpoint body) now s
      (now + min (s.reply index 0).latency longestWait)
      { s.requested index with history := (now, .post (some index) endpoint body) :: s.history }
      ((s.reply index 0).result.bind Response.successful) :=
  Task.Ends.bind (Work.exchange_ends _ index) (Task.Ends.done _)

/-- **A delivery.**  The channel is asked to do something with the complete batch, and its next reply
decides what comes of it. -/
theorem Channel.send_ends (channel : Channel) (index : Nat) (first : Message)
    (others : List Message) :
    Task.Ends (channel.send index (first :: others)) now s (now + channel.duration (s.reply index 0))
      (channel.delivered index (first :: others) now s) (channel.judge (s.reply index 0)) := by
  cases channel with
  | handover name => exact Task.Ends.bind (Work.exchange_ends _ index) (Task.Ends.done _)
  | log =>
    simp only [Channel.delivered, Channel.request, List.map_map]
    exact Task.Ends.bind (Channel.writeLog_ends (first :: others)) (Task.Ends.done _)
  | mail sender recipient =>
    exact Task.Ends.bind (Work.exchange_ends _ index) (Task.Ends.done _)
  | pushover token userKey => exact Task.Ends.bind (Channel.post_ends index _ _) (Task.Ends.done _)
  | slack secret => exact Task.Ends.bind (Channel.post_ends index _ _) (Task.Ends.done _)
  | telegram token chatId => exact Task.Ends.bind (Channel.post_ends index _ _) (Task.Ends.done _)

end Requests

end ValidatorAlarm
