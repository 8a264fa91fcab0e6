import ValidatorAlarm.Proofs.Delivery.Company
import ValidatorAlarm.Proofs.Json.Content
import ValidatorAlarm.Proofs.Message.Shown
import ValidatorAlarm.Proofs.Text.Form

/-!
# What the push channels transmit

A push channel makes one request for a batch, and the rendered texts travel in it: as the strings of a JSON
object, or as the values of a query.  Whatever characters they have, the other side finds these texts and
nothing else, so no text can pass for another field, and different texts make different requests.  The
rendered texts in turn show all that the messages have to tell.
-/
namespace ValidatorAlarm

/-! ### One request -/

/-- The work makes one request, at once, puts nothing else on record and comes to an end. -/
structure Work.RequestsOnce {α : Type} (work : Work α) (event : Event) : Prop where
  /-- With the time to itself, it leaves the record longer by the request. -/
  alone : ∀ now cancelled planned (s : Site), ∃ (b : Agenda Site) (result : α),
    (Agenda.mk now cancelled planned [] s).perform work = (b, some result) ∧
      b.state.history = (now, event) :: s.history
  /-- Among any loops, the request is its only deed. -/
  amongOthers : ∀ a : Agenda Site, ∃ (ds : List Deed) (b : Agenda Site) (result : α),
    Agenda.Does work a ds b result ∧ ds.map Deed.entry = [(a.now, event)]

namespace Channel

theorem send_requestsOnce {channel : Channel} {index : Nat} {first : Message} {others : List Message}
    {event : Event} (h : channel.request index (first :: others) = [event]) :
    Work.RequestsOnce (channel.send index (first :: others)) event where
  alone := by
    intro now cancelled planned s
    obtain ⟨b, hperform, -, -, hstate⟩ :=
      channel.send_ends index first others (Agenda.mk now cancelled planned [] s) rfl rfl rfl
    refine ⟨b, _, hperform, ?_⟩
    rw [hstate]
    change ((channel.request index (first :: others)).map (now, ·)).reverse ++ s.history = _
    rw [h]
    rfl
  amongOthers := by
    intro a
    obtain ⟨ds, b, hdoes, -, hrecord, -⟩ := channel.send_does index first others a
    refine ⟨ds, b, _, hdoes, ?_⟩
    rw [hrecord, h]
    rfl

/-! ### Texts in JSON -/

section Bodies

variable {token userKey token' userKey' : String} {batch batch' : Rendered} {content : Json.Content}

theorem pushoverBody_decodes_iff : Json.Decodes (Text.utf8 (pushoverBody token userKey batch)) content ↔
    content = .object [("token", .text token), ("user", .text userKey), ("title", .text batch.title),
      ("message", .text batch.body), ("html", .number 1)] := by
  rw [pushoverBody, Json.decodes_writeObject_iff]
  simp [Json.Field.content]

theorem slackBody_decodes_iff : Json.Decodes (Text.utf8 (slackBody batch)) content ↔
    content = .object [("text", .text (batch.title ++ "\n\n" ++ batch.body))] := by
  rw [slackBody, Json.decodes_writeObject_iff]
  rfl

theorem pushoverBody_eq_iff : pushoverBody token userKey batch = pushoverBody token' userKey' batch' ↔
    token = token' ∧ userKey = userKey' ∧ batch = batch' := by
  obtain ⟨title, body⟩ := batch
  obtain ⟨title', body'⟩ := batch'
  rw [pushoverBody, pushoverBody, Json.writeObject_injective.eq_iff]
  simp

theorem slackBody_eq_iff : slackBody batch = slackBody batch' ↔
    batch.title ++ "\n\n" ++ batch.body = batch'.title ++ "\n\n" ++ batch'.body := by
  rw [slackBody, slackBody, Json.writeObject_injective.eq_iff]
  simp [oneText]

end Bodies

/-- **The channels that speak JSON transmit the texts intact.**  For every batch that is not empty each of
them makes one request.  Its body is a JSON text, and its only content is the object with the texts of the
batch, character for character, beside what the channel puts there for all batches.  So different texts make
different bodies.  The texts of the batch show what all messages have to tell. -/
theorem json_texts_intact (index : Nat) (first : Message) (others : List Message) :
    (∀ token userKey : String, ∃ batch, Message.render? .html (first :: others) = some batch ∧
      Message.Shown first others batch ∧
      Work.RequestsOnce ((pushover token userKey).send index (first :: others))
        (.post (some index) "" (pushoverBody token userKey batch)) ∧
      ∀ content, Json.Decodes (Text.utf8 (pushoverBody token userKey batch)) content ↔
        content = .object [("token", .text token), ("user", .text userKey), ("title", .text batch.title),
          ("message", .text batch.body), ("html", .number 1)]) ∧
    (∀ secret : String, ∃ batch, Message.render? .chat (first :: others) = some batch ∧
      Message.Shown first others batch ∧
      Work.RequestsOnce ((slack secret).send index (first :: others))
        (.post (some index) secret (slackBody batch)) ∧
      ∀ content, Json.Decodes (Text.utf8 (slackBody batch)) content ↔
        content = .object [("text", .text (batch.title ++ "\n\n" ++ batch.body))]) ∧
    (∀ token userKey token' userKey' batch batch',
      pushoverBody token userKey batch = pushoverBody token' userKey' batch' ↔
        token = token' ∧ userKey = userKey' ∧ batch = batch') ∧
    ∀ batch batch', slackBody batch = slackBody batch' ↔
      batch.title ++ "\n\n" ++ batch.body = batch'.title ++ "\n\n" ++ batch'.body := by
  refine ⟨?_, ?_, ?_, ?_⟩
  · intro token userKey
    obtain ⟨batch, hrendered, hshown⟩ := Message.render?_shows Markup.html_keeps first others
    cases hrendered
    exact ⟨_, rfl, hshown, send_requestsOnce rfl, fun content => pushoverBody_decodes_iff⟩
  · intro secret
    obtain ⟨batch, hrendered, hshown⟩ := Message.render?_shows Markup.chat_keeps first others
    cases hrendered
    exact ⟨_, rfl, hshown, send_requestsOnce rfl, fun content => slackBody_decodes_iff⟩
  · intro token userKey token' userKey' batch batch'
    exact pushoverBody_eq_iff
  · intro batch batch'
    exact slackBody_eq_iff

/-! ### Texts in a query -/

theorem telegramPairs_encode_eq_iff {chatId chatId' : String} {batch batch' : Rendered} :
    Text.Form.encode (telegramPairs chatId batch) = Text.Form.encode (telegramPairs chatId' batch') ↔
      chatId = chatId' ∧
        batch.title ++ "\n\n" ++ batch.body = batch'.title ++ "\n\n" ++ batch'.body := by
  rw [Text.Form.encode_injective.eq_iff]
  simp [telegramPairs, oneText]

/-- **The channel to a chat bot transmits the text intact.**  For every batch that is not empty it makes one
request, with an empty body.  The query of its endpoint has none but plain characters, and is read as three
named values: the chat, the way of marking up, and the text of the batch, character for character.  So
different chats or texts make different queries.  The text shows what all messages have to tell. -/
theorem telegram_text_intact (index : Nat) (first : Message) (others : List Message)
    (token chatId : String) :
    ∃ batch query, Message.render? .html (first :: others) = some batch ∧
      Message.Shown first others batch ∧ query = Text.Form.encode (telegramPairs chatId batch) ∧
      Work.RequestsOnce ((telegram token chatId).send index (first :: others))
        (.post (some index) ("bot" ++ token ++ "/sendMessage?" ++ query) "") ∧
      (∀ c ∈ query.toList, c.isAlphanum = true ∨ c ∈ "*-._+%&=".toList) ∧
      Text.Form.decode? query = some [("chat_id", chatId), ("parse_mode", "html"),
        ("text", batch.title ++ "\n\n" ++ batch.body)] ∧
      ∀ chatId' batch', query = Text.Form.encode (telegramPairs chatId' batch') ↔ chatId = chatId' ∧
        batch.title ++ "\n\n" ++ batch.body = batch'.title ++ "\n\n" ++ batch'.body := by
  obtain ⟨batch, hrendered, hshown⟩ := Message.render?_shows Markup.html_keeps first others
  cases hrendered
  refine ⟨_, _, rfl, hshown, rfl, send_requestsOnce rfl, ?_, Text.Form.decode?_encode _, ?_⟩
  · intro c hc
    rcases Text.Form.mem_encode hc with (hletter | hsign) | rfl | rfl
    · exact .inl hletter
    · exact .inr (List.mem_append_left _ hsign)
    · exact .inr (by decide)
    · exact .inr (by decide)
  · intro chatId' batch'
    exact telegramPairs_encode_eq_iff

end Channel

end ValidatorAlarm
