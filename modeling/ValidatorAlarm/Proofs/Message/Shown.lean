import ValidatorAlarm.Message.Markup

/-!
# What a rendered batch shows

The title of a rendered batch holds the source of its first message.  Its body holds the texts of all
messages, one message behind the other, and of each message the sign of its severity, its category, its
link, its short key and its detail, in this order.  Nothing of these is left out, neither with tags nor
with the marks of a chat room.
-/
namespace ValidatorAlarm

/-- The texts stand in a text, in their order and apart from each other. -/
inductive InOrder : List String → String → Prop
  | nil (text : String) : InOrder [] text
  | cons (front text : String) {texts : List String} {back : String} (h : InOrder texts back) :
    InOrder (text :: texts) (front ++ text ++ back)

namespace InOrder

variable {texts others : List String} {text other : String}

theorem single (text : String) : InOrder [text] text := by
  have h := cons "" text (nil "")
  rwa [String.empty_append, String.append_empty] at h

theorem behind (front : String) (h : InOrder texts text) : InOrder texts (front ++ text) := by
  cases h with
  | nil text => exact nil _
  | cons front' text h =>
    rw [← String.append_assoc, ← String.append_assoc]
    exact cons (front ++ front') text h

theorem append (h : InOrder texts text) (h' : InOrder others other) :
    InOrder (texts ++ others) (text ++ other) := by
  induction h with
  | nil text => exact h'.behind text
  | cons front text _ ih =>
    rw [String.append_assoc]
    exact cons front text ih

end InOrder

/-- Bold text holds the text, and a link its address and then its text. -/
structure Markup.Keeps (markup : Markup) : Prop where
  bold : ∀ text, InOrder [text] (markup.bold text)
  link : ∀ url text, InOrder [url, text] (markup.link url text)

theorem Markup.html_keeps : Markup.html.Keeps where
  bold text := ((InOrder.nil "<b>").append (.single text)).append (.nil "</b>")
  link url text := ((((InOrder.nil "<b><a href=\"").append (.single url)).append (.nil "\">")).append
    (.single text)).append (.nil "</a></b>")

theorem Markup.chat_keeps : Markup.chat.Keeps where
  bold text := ((InOrder.nil "*").append (.single text)).append (.nil "*")
  link url text := ((((InOrder.nil "*<").append (.single url)).append (.nil "|")).append
    (.single text)).append (.nil ">*")

namespace Message

/-- What is shown of a message. -/
def shownTexts (m : Message) : List String :=
  [m.severity.icon, m.category, m.identityUrl, m.shortIdentityKey, m.detail]

variable {markup : Markup}

theorem identifier_shows (hmarkup : markup.Keeps) (m : Message) :
    InOrder [m.identityUrl, m.shortIdentityKey] (m.identifier markup) := by
  rw [identifier]
  split
  · exact hmarkup.link m.identityUrl m.shortIdentityKey
  · rename_i hurl
    have hnone : m.identityUrl = "" := Decidable.not_not.mp hurl
    have hbold : InOrder [m.shortIdentityKey]
        (if m.shortIdentityKey = "" then "" else markup.bold m.shortIdentityKey) := by
      split
      · rename_i hkey
        rw [hkey]
        exact .single ""
      · exact hmarkup.bold m.shortIdentityKey
    have h := (InOrder.single "").append hbold
    rw [String.empty_append] at h
    rw [hnone]
    exact h

theorem paragraph_shows (hmarkup : markup.Keeps) (m : Message) :
    InOrder m.shownTexts (m.paragraph markup) := by
  have hdetail : InOrder [m.detail] (if m.detail = "" then "" else ": " ++ m.detail) := by
    split
    · rename_i hnone
      rw [hnone]
      exact .single ""
    · exact (InOrder.single m.detail).behind ": "
  exact ((((((InOrder.single m.severity.icon).append (.nil " ")).append (.single m.category)).append
    (.nil " ")).append (m.identifier_shows hmarkup)).append hdetail).append (.nil "\n\n")

/-- A batch shows some messages. -/
structure Shown (first : Message) (others : List Message) (batch : Rendered) : Prop where
  title : InOrder [first.sourceName] batch.title
  body : InOrder ((first :: others).flatMap shownTexts) batch.body

/-- **A rendered batch shows all its messages.** -/
theorem render?_shows (hmarkup : markup.Keeps) (first : Message) (others : List Message) :
    ∃ batch, render? markup (first :: others) = some batch ∧ Shown first others batch := by
  refine ⟨_, rfl, ?_, ?_⟩
  · cases worst first others with
    | info => exact (InOrder.single first.sourceName).behind _
    | warning => exact (InOrder.single first.sourceName).behind _
    | error => exact (InOrder.single first.sourceName).behind _
  · simp only
    induction first :: others with
    | nil => exact .nil _
    | cons m rest ih =>
      have hm := (m.paragraph_shows hmarkup).append (.nil markup.separator)
      rw [List.append_nil] at hm
      rw [List.flatMap_cons, List.map_cons, String.join_cons]
      exact hm.append ih

end Message

end ValidatorAlarm
