import ValidatorAlarm.Proofs.Json.Accuracy
import ValidatorAlarm.Proofs.Json.Meaning

/-!
# The content of JSON

What is left of a JSON text without its layout: the texts in it with their escapes resolved, the numbers
as numbers, and the values in their places.  `Decodes` says which bytes have which content, by the grammar
alone.  Since no bytes have two contents, it is what every reader of JSON has to find in them.

The bytes of an object that has been written have the content of its fields, and no other.
-/
namespace ValidatorAlarm.Json

inductive Content where
  | null
  | bool (value : Bool)
  | number (value : ℚ)
  | text (value : String)
  | array (items : List Content)
  | object (fields : List (String × Content))

/-! ### Values -/

mutual

/-- The content of a value as it is written. -/
inductive Says : Json → Content → Prop where
  | null : Says .null .null
  | bool (b : Bool) : Says (.bool b) (.bool b)
  | number (n : Literal) : Says (.number n) (.number n.value)
  | text {raw : Raw} {s : String} (h : Spells raw s) : Says (.text raw) (.text s)
  | array {items : List Json} {contents : List Content} (h : SaysItems items contents) :
      Says (.array items) (.array contents)
  | object {fields : List (Raw × Json)} {named : List (String × Content)} (h : SaysFields fields named) :
      Says (.object fields) (.object named)

inductive SaysItems : List Json → List Content → Prop where
  | nil : SaysItems [] []
  | cons {item : Json} {content : Content} {items : List Json} {contents : List Content}
      (h : Says item content) (hrest : SaysItems items contents) :
      SaysItems (item :: items) (content :: contents)

inductive SaysFields : List (Raw × Json) → List (String × Content) → Prop where
  | nil : SaysFields [] []
  | cons {raw : Raw} {name : String} {value : Json} {content : Content} {fields : List (Raw × Json)}
      {named : List (String × Content)} (hname : Spells raw name) (h : Says value content)
      (hrest : SaysFields fields named) : SaysFields ((raw, value) :: fields) ((name, content) :: named)

end

theorem Spells.unique {raw : Raw} {s other : String} (h : Spells raw s) (hother : Spells raw other) :
    s = other :=
  Option.some.inj (h.read?.symm.trans hother.read?)

mutual

theorem Says.unique {v : Json} {content other : Content} (h : Says v content) (hother : Says v other) :
    content = other := by
  match h, hother with
  | .null, .null | .bool _, .bool _ | .number _, .number _ => rfl
  | .text h, .text hother => rw [h.unique hother]
  | .array h, .array hother => rw [h.unique hother]
  | .object h, .object hother => rw [h.unique hother]

theorem SaysItems.unique {items : List Json} {contents others : List Content}
    (h : SaysItems items contents) (hother : SaysItems items others) : contents = others := by
  match h, hother with
  | .nil, .nil => rfl
  | .cons h hrest, .cons hother hmore => rw [h.unique hother, hrest.unique hmore]

theorem SaysFields.unique {fields : List (Raw × Json)} {named others : List (String × Content)}
    (h : SaysFields fields named) (hother : SaysFields fields others) : named = others := by
  match h, hother with
  | .nil, .nil => rfl
  | .cons hname h hrest, .cons hothername hother hmore =>
    rw [hname.unique hothername, h.unique hother, hrest.unique hmore]

end

/-! ### Bytes -/

/-- The bytes are a JSON text with this content. -/
def Decodes (bytes : List UInt8) (content : Content) : Prop := ∃ v, WrittenIn v bytes ∧ Says v content

/-- **No bytes have two contents.** -/
theorem Decodes.unique {bytes : List UInt8} {content other : Content} (h : Decodes bytes content)
    (hother : Decodes bytes other) : content = other := by
  obtain ⟨v, hwritten, hsays⟩ := h
  obtain ⟨w, hotherwritten, hothersays⟩ := hother
  obtain rfl : v = w := Option.some.inj
    ((ofBytes?_written hwritten).symm.trans (ofBytes?_written hotherwritten))
  exact hsays.unique hothersays

/-! ### What has been written -/

def Field.content : Field → Content
  | .text s => .text s
  | .number n => .number n
  | .texts values => .array (values.map .text)

theorem value_toDigits (n : Nat) : Literal.value ⟨false, Nat.toDigits 10 n, [], none⟩ = n := by
  simp [Literal.value, Literal.magnitude, Literal.exponent, Literal.digits_toDigits]

theorem says_texts (values : List String) :
    SaysItems (values.map fun s => .text (rawOf s)) (values.map .text) := by
  induction values with
  | nil => exact .nil
  | cons s values ih => exact .cons (.text (spells_rawOf s)) ih

theorem Field.says_content (f : Field) : Says f.value f.content := by
  cases f with
  | text s => exact .text (spells_rawOf s)
  | number n =>
    rw [Field.content, ← value_toDigits n]
    exact .number _
  | texts values => exact .array (says_texts values)

theorem says_fields (fields : List (String × Field)) :
    SaysFields (fields.map fun field => (rawOf field.1, field.2.value))
      (fields.map fun field => (field.1, field.2.content)) := by
  induction fields with
  | nil => exact .nil
  | cons field fields ih => exact .cons (spells_rawOf field.1) field.2.says_content ih

/-- **The content of a written object is that of its fields, and no other.** -/
theorem decodes_writeObject_iff {fields : List (String × Field)} {content : Content} :
    Decodes (Text.utf8 (writeObject fields)) content ↔
      content = .object (fields.map fun field => (field.1, field.2.content)) := by
  have hdecodes : Decodes (Text.utf8 (writeObject fields))
      (.object (fields.map fun field => (field.1, field.2.content))) :=
    ⟨_, ⟨_, writeObject_written fields, by rw [String.ofList_toList]⟩, .object (says_fields fields)⟩
  constructor
  · intro h
    exact h.unique hdecodes
  · rintro rfl
    exact hdecodes

/-- Short escapes, a code, and characters of more than one byte that stand for themselves. -/
example : writeObject [("text", .text "\"\\\n\x01é😀")] =
    "\x7b\"text\":\"\\\"\\\\\\n\\u0001é😀\"\x7d" := by decide

theorem Field.content_injective : Function.Injective Field.content := by
  intro f g h
  cases f with
  | text s =>
    cases g with
    | text t => rw [Content.text.inj h]
    | number n => cases h
    | texts values => cases h
  | number n =>
    cases g with
    | text t => cases h
    | number m => rw [Nat.cast_injective (Content.number.inj h)]
    | texts values => cases h
  | texts values =>
    cases g with
    | text t => cases h
    | number n => cases h
    | texts others =>
      rw [List.map_injective_iff.mpr (fun _ _ => Content.text.inj) (Content.array.inj h)]

/-- Different fields are never written alike. -/
theorem writeObject_injective : Function.Injective writeObject := by
  intro fields others h
  have hdecodes := decodes_writeObject_iff.mpr (Eq.refl (Content.object
    (fields.map fun field => (field.1, field.2.content))))
  rw [h, decodes_writeObject_iff] at hdecodes
  refine List.map_injective_iff.mpr ?_ (Content.object.inj hdecodes)
  rintro ⟨name, f⟩ ⟨other, g⟩ heq
  obtain ⟨hname, hcontent⟩ := Prod.mk.inj heq
  exact Prod.ext hname (Field.content_injective hcontent)

end ValidatorAlarm.Json
