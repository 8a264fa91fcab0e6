import ValidatorAlarm.Monitor
import ValidatorAlarm.Proofs.Timeline.Frame

/-!
# What the parts of a cycle leave alone

A cycle asks the network, passes its alarms through the snooze and delivers a batch.  Each part has a
frame: which scripts it uses up, and which events it puts on record.  All else at the site stays as
it is.
-/
namespace ValidatorAlarm

/-! ### Events of the parts -/

namespace Event

/-- An event of a query to the network. -/
def IsQuery : Event → Prop
  | .get _ | .post none _ _ | .badKey _ => True
  | _ => False

/-- An event of a query for ratings. -/
def IsRatingQuery : Event → Prop
  | .get _ => True
  | _ => False

/-- An event of a query for staked keys. -/
def IsKeyQuery : Event → Prop
  | .post none _ _ | .badKey _ => True
  | _ => False

/-- An event of a delivery. -/
def IsDelivery : Event → Prop
  | .post (some _) _ _ | .handedOver _ _ | .mailed _ _ _ _ | .logged _ _ | .sendFailed _ _ => True
  | _ => False

theorem IsRatingQuery.isQuery {e : Event} (h : e.IsRatingQuery) : e.IsQuery := by
  cases e with
  | get endpoint => trivial
  | _ => exact h.elim

theorem IsKeyQuery.isQuery {e : Event} (h : e.IsKeyQuery) : e.IsQuery := by
  cases e with
  | post channel endpoint body =>
    cases channel with
    | none => trivial
    | some i => exact h.elim
  | badKey length => trivial
  | _ => exact h.elim

end Event

/-! ### Frames of the parts -/

namespace Site

/-- The site apart from its record and the replies about ratings. -/
def butStatistics (s : Site) : Site :=
  { s with statistics := initial.statistics, history := [] }

/-- The site apart from its record and the replies about staked keys. -/
def butContract (s : Site) : Site := { s with contract := initial.contract, history := [] }

/-- The site apart from its record and the replies of the network. -/
def butNetwork (s : Site) : Site :=
  { s with statistics := initial.statistics, contract := initial.contract, history := [] }

/-- The site apart from its record and the replies of the channels. -/
def butChannels (s : Site) : Site := { s with channels := [], history := [] }

end Site

/-- The record grows by events of a kind. -/
def Frame.recording (allowed : Event → Prop) : Frame Site where
  Allows s s' := ∃ events, s'.history = events ++ s.history ∧ ∀ e ∈ events, allowed e.2
  refl s := ⟨[], rfl, by simp⟩
  trans := by
    rintro s₁ s₂ s₃ ⟨first, hfirst, hfirst'⟩ ⟨second, hsecond, hsecond'⟩
    refine ⟨second ++ first, by rw [hsecond, hfirst, List.append_assoc], ?_⟩
    intro e he
    rcases List.mem_append.mp he with h | h
    · exact hsecond' e h
    · exact hfirst' e h

theorem Frame.recording_note {allowed : Event → Prop} {e : Event} (h : allowed e) (m : Moment)
    (s : Site) : (Frame.recording allowed).Allows s (s.note e m) :=
  ⟨[(m.now, e)], rfl, by simpa using h⟩

theorem Frame.recording_same {allowed : Event → Prop} {s s' : Site} (h : s'.history = s.history) :
    (Frame.recording allowed).Allows s s' :=
  ⟨[], h, by simp⟩

theorem Frame.recording_mono {allowed allowed' : Event → Prop} (h : ∀ e, allowed e → allowed' e)
    {s s' : Site} (hs : (Frame.recording allowed).Allows s s') :
    (Frame.recording allowed').Allows s s' := by
  obtain ⟨events, hevents, hall⟩ := hs
  exact ⟨events, hevents, fun e he => h e.2 (hall e he)⟩

/-- Asking for the ratings. -/
def Frame.ratings : Frame Site :=
  .and (.recording Event.IsRatingQuery) (.fixed Site.butStatistics)

/-- Asking for staked keys. -/
def Frame.stakedKeys : Frame Site := .and (.recording Event.IsKeyQuery) (.fixed Site.butContract)

/-- Asking the network. -/
def Frame.network : Frame Site := .and (.recording Event.IsQuery) (.fixed Site.butNetwork)

/-- Delivering a batch. -/
def Frame.delivery : Frame Site := .and (.recording Event.IsDelivery) (.fixed Site.butChannels)

theorem Frame.ratings_network {s s' : Site} (h : Frame.ratings.Allows s s') :
    Frame.network.Allows s s' :=
  ⟨recording_mono (fun _ => Event.IsRatingQuery.isQuery) h.1, fixed_part Site.butNetwork h.2⟩

theorem Frame.stakedKeys_network {s s' : Site} (h : Frame.stakedKeys.Allows s s') :
    Frame.network.Allows s s' :=
  ⟨recording_mono (fun _ => Event.IsKeyQuery.isQuery) h.1, fixed_part Site.butNetwork h.2⟩

theorem Frame.network_tally {s s' : Site} (h : Frame.network.Allows s s') :
    (Frame.fixed Site.tally).Allows s s' :=
  fixed_part Site.tally h.2

theorem Frame.delivery_tally {s s' : Site} (h : Frame.delivery.Allows s s') :
    (Frame.fixed Site.tally).Allows s s' :=
  fixed_part Site.tally h.2

/-! ### Requests -/

namespace Work

variable {F : Frame Site}

theorem note_keeps {event : Event} (h : ∀ m s, F.Allows s (s.note event m)) :
    (note event).Keeps F :=
  ⟨h, trivial⟩

theorem exchange_keeps {token : Option Token} {event : Event} {reply : Site → Site × Reply}
    (hevent : ∀ m s, F.Allows s (s.note event m)) (hreply : ∀ s, F.Allows s (reply s).1) :
    (exchange token event reply).Keeps F := by
  apply Task.Keeps.moment_bind
  intro m
  split
  · trivial
  · apply Task.Keeps.bind (note_keeps hevent)
    intro _
    apply Task.Keeps.bind (Task.Keeps.update hreply)
    intro answer
    exact Task.Keeps.bind (Task.Keeps.pause answer.latency token) fun passed => trivial

end Work

/-! ### The network -/

namespace Network

theorem ratings_keeps (token : Token) : (ratings token).Keeps Frame.ratings := by
  have hevent : ∀ m s, Frame.ratings.Allows s (s.note (.get ratingsEndpoint) m) := by
    intro m s
    exact ⟨Frame.recording_note trivial m s, rfl⟩
  have hreply : ∀ s : Site, Frame.ratings.Allows s s.statisticsReply.1 := by
    intro s
    exact ⟨Frame.recording_same rfl, rfl⟩
  exact Task.Keeps.bind (Work.exchange_keeps hevent hreply) fun _ => trivial

theorem noteMisfits_keeps (pairs : List (List UInt8 × List UInt8)) :
    (noteMisfits pairs).Keeps Frame.stakedKeys := by
  induction pairs with
  | nil => trivial
  | cons pair rest ih =>
    have hnote : (Work.note (.badKey pair.1.length)).Keeps Frame.stakedKeys :=
      Work.note_keeps fun m s => ⟨Frame.recording_note trivial m s, rfl⟩
    simp only [noteMisfits]
    split
    · exact Task.Keeps.bind hnote fun _ => ih
    · exact ih

theorem askAccount_keeps (token : Token) (hex : String) :
    (askAccount token hex).Keeps Frame.stakedKeys := by
  have hevent : ∀ m s, Frame.stakedKeys.Allows s
      (s.note (.post none contractEndpoint (stakedKeysQuery hex)) m) := by
    intro m s
    exact ⟨Frame.recording_note trivial m s, rfl⟩
  have hreply : ∀ s : Site, Frame.stakedKeys.Allows s s.contractReply.1 := by
    intro s
    exact ⟨Frame.recording_same rfl, rfl⟩
  apply Task.Keeps.bind (Work.exchange_keeps hevent hreply)
  intro result
  split
  · trivial
  · exact Task.Keeps.bind (noteMisfits_keeps _) fun _ => trivial

theorem stakedKeys_keeps (token : Token) (pause : Duration) (accounts : List Account) :
    (stakedKeys token pause accounts).Keeps Frame.stakedKeys := by
  induction accounts with
  | nil => trivial
  | cons account rest ih =>
    rw [stakedKeys]
    split
    · exact ih
    · apply Task.Keeps.bind (askAccount_keeps token account.hex)
      intro asked
      cases asked with
      | error fault => trivial
      | ok keys =>
        apply Task.Keeps.bind (Task.Keeps.pause _ _)
        intro passed
        cases passed with
        | false => trivial
        | true => exact Task.Keeps.bind ih fun _ => trivial

end Network

/-! ### The channels -/

namespace Channel

theorem channelReply_delivery (index : Nat) (s : Site) :
    Frame.delivery.Allows s (s.channelReply index).1 := by
  rw [Site.channelReply]
  split
  · exact Frame.delivery.refl s
  · exact ⟨Frame.recording_same rfl, rfl⟩

theorem exchange_keeps (index : Nat) (event : Event) (h : event.IsDelivery) :
    (Work.exchange none event (Site.channelReply index)).Keeps Frame.delivery :=
  Work.exchange_keeps (fun m s => ⟨Frame.recording_note h m s, rfl⟩) (channelReply_delivery index)

theorem writeLog_keeps (messages : List Message) : (writeLog messages).Keeps Frame.delivery := by
  induction messages with
  | nil => trivial
  | cons message rest ih =>
    exact Task.Keeps.bind
      (Work.note_keeps fun m s => ⟨Frame.recording_note trivial m s, rfl⟩) fun _ => ih

theorem post_keeps (index : Nat) (endpoint body : String) :
    (post index endpoint body).Keeps Frame.delivery :=
  Task.Keeps.bind (exchange_keeps index _ trivial) fun _ => trivial

theorem send_keeps (channel : Channel) (index : Nat) (messages : List Message) :
    (channel.send index messages).Keeps Frame.delivery := by
  cases channel with
  | handover name => exact Task.Keeps.bind (exchange_keeps index _ trivial) fun _ => trivial
  | log => exact Task.Keeps.bind (writeLog_keeps messages) fun _ => trivial
  | mail sender recipient =>
    rw [send]
    split
    · trivial
    · exact Task.Keeps.bind (exchange_keeps index _ trivial) fun _ => trivial
  | pushover token userKey =>
    rw [send]
    split
    · trivial
    · exact Task.Keeps.bind (post_keeps _ _ _) fun _ => trivial
  | slack secret =>
    rw [send]
    split
    · trivial
    · exact Task.Keeps.bind (post_keeps _ _ _) fun _ => trivial
  | telegram token chatId =>
    rw [send]
    split
    · trivial
    · exact Task.Keeps.bind (post_keeps _ _ _) fun _ => trivial

end Channel

/-! ### The fanout -/

namespace Fanout

theorem pass_keeps (messages : List Message) (retry : Option Nat) (targets : List (Nat × Channel)) :
    (pass messages retry targets).Keeps Frame.delivery := by
  induction targets with
  | nil => trivial
  | cons target rest ih =>
    obtain ⟨index, channel⟩ := target
    apply Task.Keeps.bind (channel.send_keeps index messages)
    intro result
    cases result with
    | ok _ => exact ih
    | error fault =>
      have hnote : (Work.note (.sendFailed (channel.label index) retry)).Keeps Frame.delivery :=
        Work.note_keeps fun m s => ⟨Frame.recording_note trivial m s, rfl⟩
      exact Task.Keeps.bind hnote fun _ => Task.Keeps.bind ih fun _ => trivial

theorem retryFrom_keeps (delay : Nat) (messages : List Message) (retry left : Nat)
    (failed : List (Nat × Channel)) :
    (retryFrom delay messages retry left failed).Keeps Frame.delivery := by
  induction left generalizing retry failed with
  | zero => trivial
  | succ left ih =>
    rw [retryFrom]
    split
    · trivial
    · exact Task.Keeps.bind (Task.Keeps.sleep delay) fun _ =>
        Task.Keeps.bind (pass_keeps messages (some retry) failed) fun failed => ih (retry + 1) failed

theorem notify_keeps (fanout : Fanout) (messages : List Message) :
    (fanout.notify messages).Keeps Frame.delivery := by
  rw [notify]
  split
  · trivial
  · exact Task.Keeps.bind (pass_keeps messages none _) fun failed =>
      Task.Keeps.bind (retryFrom_keeps _ messages 0 _ failed) fun _ => trivial

end Fanout

/-! ### The monitor -/

namespace Monitor

theorem findProblems_keeps (w : Monitor) (token : Token) :
    (w.findProblems token).Keeps Frame.network := by
  have hratings := (Network.ratings_keeps token).mono fun _ _ => Frame.ratings_network
  apply Task.Keeps.bind hratings
  intro rated
  cases rated with
  | error fault => trivial
  | ok snapshot =>
    have hstaked := (Network.stakedKeys_keeps token w.queryPause w.accounts).mono
      fun _ _ => Frame.stakedKeys_network
    apply Task.Keeps.bind hstaked
    intro staked
    cases staked with
    | error fault => trivial
    | ok keys => trivial

end Monitor

end ValidatorAlarm
