import ValidatorAlarm.Message
import ValidatorAlarm.Proofs.Json.Record
import ValidatorAlarm.Proofs.Json.Writing

/-!
# Stored messages

A message is stored as an object of seven texts.  It comes back from everything that writes these
seven fields, whatever stands between and around them; and an object that does not give each of them
exactly once is refused, and so is a severity that is none of the three words.
-/
namespace ValidatorAlarm

namespace Severity

theorem ofWord?_word (s : Severity) : ofWord? s.word = some s := by
  cases s <;> rfl

theorem ofWord?_eq_none {word : String} (h : ∀ s : Severity, word ≠ s.word) : ofWord? word = none := by
  have hinfo := h .info
  have hwarning := h .warning
  have herror := h .error
  simp only [Severity.word] at hinfo hwarning herror
  rw [ofWord?, if_neg hinfo, if_neg hwarning, if_neg herror]

end Severity

namespace Message

/-- The texts of a message, in the order of the field names. -/
def texts (m : Message) : List String :=
  [m.severity.word, m.category, m.identityKey, m.shortIdentityKey, m.identityUrl, m.sourceName,
    m.detail]

/-- The fields of a stored message, as they are written. -/
def stored (m : Message) : List (Json.Raw × Json) :=
  (fieldNames.zip m.texts).map fun field => (Json.rawOf field.1, .text (Json.rawOf field.2))

theorem toText_written (m : Message) : (Json.object m.stored).WrittenAs m.toText.toList :=
  Json.writeObject_written (fieldNames.zip (m.texts.map Json.Field.text))

theorem fieldNames_nodup : fieldNames.Nodup := by decide

/-- The stored fields give every name its text, and nothing else. -/
theorem given_stored (m : Message) :
    fieldNames.map (Json.given · m.stored) =
      m.texts.map fun text => [Json.text (Json.rawOf text)] := by
  simp [fieldNames, texts, stored, Json.given, Json.read?_rawOf]

theorem given_unknown {unknown : List (Json.Raw × Json)}
    (hunknown : ∀ field ∈ unknown, ∃ name, field.1.read? = some name ∧ name ∉ fieldNames) {name : String}
    (hname : name ∈ fieldNames) : Json.given name unknown = [] := by
  rw [Json.given, List.filterMap_eq_nil_iff]
  intro field hfield
  obtain ⟨other, hread, hother⟩ := hunknown field hfield
  have hne : other ≠ name := by
    rintro rfl
    exact hother hname
  simp [hread, hne]

/-- What is made of a message's texts is the message. -/
theorem ofFields?_texts (m : Message) :
    ofFields? (m.texts.map fun text => some (.text (Json.rawOf text))) = some m := by
  simp [ofFields?, texts, Json.required?, Json.string?, Severity.ofJson?, Json.read?_rawOf,
    Severity.ofWord?_word]

/-- Reading an object goes by what it gives to each name. -/
theorem ofText?_object {fields : List (Json.Raw × Json)} {text : List Char}
    (h : (Json.object fields).WrittenAs text) :
    ofText? (String.ofList text) = (Json.record? fieldNames (.object fields)).bind ofFields? := by
  rw [ofText?, Json.ofText?_written h]
  rfl

theorem ofText?_of_given {m : Message} {fields : List (Json.Raw × Json)} {text : List Char}
    (hwritten : (Json.object fields).WrittenAs text)
    (hread : ∀ field ∈ fields, ∃ name, field.1.read? = some name)
    (hgiven : fieldNames.map (Json.given · fields) =
      m.texts.map fun text => [Json.text (Json.rawOf text)]) :
    ofText? (String.ofList text) = some m := by
  have hone : ∀ name ∈ fieldNames, (Json.given name fields).length ≤ 1 := by
    intro name hname
    have hmem : Json.given name fields ∈ fieldNames.map (Json.given · fields) :=
      List.mem_map_of_mem hname
    rw [hgiven] at hmem
    obtain ⟨text, -, htext⟩ := List.mem_map.mp hmem
    rw [← htext]
    exact Nat.le_refl 1
  have hplaces : fieldNames.map (fun name => (Json.given name fields).head?) =
      m.texts.map fun text => some (.text (Json.rawOf text)) := by
    have h := congrArg (List.map List.head?) hgiven
    rwa [List.map_map, List.map_map] at h
  have hrecord := (Json.record?_object fieldNames_nodup).mpr ⟨hread, hone, rfl⟩
  rw [ofText?_object hwritten, hrecord, hplaces]
  exact ofFields?_texts m

/-- The stored fields in any order, with unknown fields among them, in any layout. -/
theorem ofText?_rearranged {m : Message} {fields unknown : List (Json.Raw × Json)} {text : List Char}
    (hunknown : ∀ field ∈ unknown, ∃ name, field.1.read? = some name ∧ name ∉ fieldNames)
    (hperm : fields.Perm (m.stored ++ unknown)) (hwritten : (Json.object fields).WrittenAs text) :
    ofText? (String.ofList text) = some m := by
  apply ofText?_of_given hwritten
  · intro field hfield
    rcases List.mem_append.mp (hperm.mem_iff.mp hfield) with hstored | hmore
    · obtain ⟨known, -, rfl⟩ := List.mem_map.mp hstored
      exact ⟨known.1, Json.read?_rawOf known.1⟩
    · obtain ⟨name, hread, -⟩ := hunknown field hmore
      exact ⟨name, hread⟩
  · rw [← given_stored]
    refine List.map_congr_left fun name hname => ?_
    have hgiven : (Json.given name fields).Perm (Json.given name m.stored) := by
      have h := hperm.filterMap fun field =>
        if field.1.read? = some name then some field.2 else none
      rw [List.filterMap_append] at h
      have hnone := given_unknown hunknown hname
      rw [Json.given] at hnone
      rwa [hnone, List.append_nil] at h
    have hmem : Json.given name m.stored ∈ fieldNames.map (Json.given · m.stored) :=
      List.mem_map_of_mem hname
    rw [given_stored] at hmem
    obtain ⟨text, -, htext⟩ := List.mem_map.mp hmem
    rw [← htext] at hgiven ⊢
    exact hgiven.eq_singleton

/-- A message is made only of places that are all filled, the first one by its severity. -/
theorem ofFields?_filled {places : String → Option Json} {m : Message}
    (h : ofFields? (fieldNames.map places) = some m) :
    (∀ name ∈ fieldNames, places name ≠ none) ∧
      (places "severity").bind Severity.ofJson? = some m.severity := by
  have hrequired : ∀ {α : Type} {read : Json → Option α} {place : Option Json} {a : α},
      Json.required? read place = some a → place ≠ none ∧ place.bind read = some a := by
    intro α read place a h
    cases place with
    | none => cases h
    | some value => exact ⟨by simp, h⟩
  simp only [fieldNames, List.map_cons, List.map_nil, ofFields?, Option.bind_eq_bind,
    Option.bind_eq_some_iff, Option.some.injEq] at h
  obtain ⟨severity, hseverity, category, hcategory, key, hkey, shortKey, hshort, url, hurl, source,
    hsource, detail, hdetail, rfl⟩ := h
  refine ⟨?_, (hrequired hseverity).2⟩
  simp only [fieldNames, List.forall_mem_cons, List.not_mem_nil, false_imp_iff, implies_true, and_true]
  exact ⟨(hrequired hseverity).1, (hrequired hcategory).1, (hrequired hkey).1, (hrequired hshort).1,
    (hrequired hurl).1, (hrequired hsource).1, (hrequired hdetail).1⟩

/-- A message is read only if every field is given once, and the severity is one of the words. -/
theorem given_of_ofText? {m : Message} {fields : List (Json.Raw × Json)} {text : List Char}
    (hwritten : (Json.object fields).WrittenAs text) (hread : ofText? (String.ofList text) = some m) :
    (∀ name ∈ fieldNames, (Json.given name fields).length = 1) ∧
      ∃ value, Json.given "severity" fields = [value] ∧ Severity.ofJson? value = some m.severity := by
  rw [ofText?_object hwritten, Option.bind_eq_some_iff] at hread
  obtain ⟨out, hrecord, hfields⟩ := hread
  obtain ⟨-, hone, rfl⟩ := (Json.record?_object fieldNames_nodup).mp hrecord
  obtain ⟨hfilled, hseverity⟩ := ofFields?_filled hfields
  have hlength : ∀ name ∈ fieldNames, (Json.given name fields).length = 1 := by
    intro name hname
    have hsome : (Json.given name fields).length ≠ 0 := by
      intro hnone
      exact hfilled name hname (by rw [List.eq_nil_of_length_eq_zero hnone]; rfl)
    have hmost := hone name hname
    omega
  refine ⟨hlength, ?_⟩
  obtain ⟨value, hvalue⟩ := List.length_eq_one_iff.mp (hlength "severity" (by decide))
  rw [hvalue] at hseverity
  exact ⟨value, hvalue, hseverity⟩

/-- **A message survives being stored.**  Its written form is one of the layouts of its seven fields,
and is read as the message.  So is every layout of these fields in any order, with white space
wherever it may stand and any fields of other names among them.  An object that gives one of the seven
names no value, or more than one, is refused, and so is one whose severity is a text that is none of
the three words. -/
theorem stored_and_read (m : Message) :
    (Json.object m.stored).WrittenAs m.toText.toList ∧
    ofText? m.toText = some m ∧
    (∀ (fields unknown : List (Json.Raw × Json)) (text : List Char),
      (∀ field ∈ unknown, ∃ name, field.1.read? = some name ∧ name ∉ fieldNames) →
      fields.Perm (m.stored ++ unknown) → (Json.object fields).WrittenAs text →
      ofText? (String.ofList text) = some m) ∧
    ∀ (fields : List (Json.Raw × Json)) (text : List Char), (Json.object fields).WrittenAs text →
      ((∃ name ∈ fieldNames, (Json.given name fields).length ≠ 1) ∨
        ∃ raw, .text raw ∈ Json.given "severity" fields ∧ ∀ s : Severity, raw.read? ≠ some s.word) →
      ofText? (String.ofList text) = none := by
  refine ⟨m.toText_written, ?_, ?_, ?_⟩
  · have hperm : m.stored.Perm (m.stored ++ []) := by simp
    have h := ofText?_rearranged (by simp) hperm m.toText_written
    rwa [String.ofList_toList] at h
  · intro fields unknown text hunknown hperm hwritten
    exact ofText?_rearranged hunknown hperm hwritten
  · intro fields text hwritten hbad
    cases hread : ofText? (String.ofList text) with
    | none => rfl
    | some m =>
      obtain ⟨hlength, value, hvalue, hseverity⟩ := given_of_ofText? hwritten hread
      rcases hbad with ⟨name, hname, hcount⟩ | ⟨raw, hraw, hwords⟩
      · exact absurd (hlength name hname) hcount
      · rw [hvalue, List.mem_singleton] at hraw
        subst hraw
        -- the text says no word, so no severity can have come of it
        cases hword : raw.read? with
        | none => simp [Severity.ofJson?, hword] at hseverity
        | some word =>
          have hnone : Severity.ofWord? word = none := by
            apply Severity.ofWord?_eq_none
            rintro s rfl
            exact hwords s hword
          simp [Severity.ofJson?, hword, hnone] at hseverity

end Message

end ValidatorAlarm
