import ValidatorAlarm.Proofs.Json.Layout

/-!
# Values as tokens

Every value has one list of tokens, and from these the reader makes the value again, whatever comes
behind them.  A text writes a value if it lays out the tokens of it.  So a text that writes a value is
read as this value, with white space wherever it may stand.
-/
namespace ValidatorAlarm

namespace Json

/-! ### The tokens of a value -/

mutual

def tokens : Json → List Token
  | .null => [.null]
  | .bool b => [.bool b]
  | .number n => [.number n]
  | .text raw => [.text raw]
  | .array items => .openBracket :: (itemTokens items ++ [.closeBracket])
  | .object fields => .openBrace :: (fieldTokens fields ++ [.closeBrace])

/-- The tokens of items, with a comma between every two. -/
def itemTokens : List Json → List Token
  | [] => []
  | [item] => item.tokens
  | item :: items => item.tokens ++ .comma :: itemTokens items

/-- The tokens of fields, with a comma between every two. -/
def fieldTokens : List (Raw × Json) → List Token
  | [] => []
  | [(name, value)] => .text name :: .colon :: value.tokens
  | (name, value) :: fields => .text name :: .colon :: (value.tokens ++ .comma :: fieldTokens fields)

end

/-- The text writes the value, in any of its layouts. -/
def WrittenAs (value : Json) (text : List Char) : Prop := Layout value.tokens text

theorem tokens_first (v : Json) : ∃ t ts, v.tokens = t :: ts ∧ t ≠ .closeBracket := by
  cases v <;> exact ⟨_, _, by rw [tokens], by simp⟩

theorem itemTokens_first (item : Json) (items : List Json) :
    ∃ t ts, itemTokens (item :: items) = t :: ts ∧ t ≠ .closeBracket := by
  obtain ⟨t, ts, hfirst, hclose⟩ := item.tokens_first
  cases items with
  | nil => exact ⟨t, ts, by simp [itemTokens, hfirst], hclose⟩
  | cons next items =>
    exact ⟨t, ts ++ .comma :: itemTokens (next :: items), by simp [itemTokens, hfirst], hclose⟩

theorem fieldTokens_first (name : Raw) (value : Json) (fields : List (Raw × Json)) :
    ∃ ts, fieldTokens ((name, value) :: fields) = .text name :: ts := by
  cases fields with
  | nil => exact ⟨.colon :: value.tokens, by simp [fieldTokens]⟩
  | cons next fields =>
    exact ⟨.colon :: (value.tokens ++ .comma :: fieldTokens (next :: fields)),
      by simp [fieldTokens]⟩

/-! ### Reading the tokens -/

/-- With as much fuel as there are tokens, the reader takes the tokens of a value and none of what comes
behind them. -/
def ReadsValues (fuel : Nat) : Prop :=
  ∀ v rest, v.tokens.length ≤ fuel → valueFrom fuel (v.tokens ++ rest) = some (v, rest)

def ReadsItems (fuel : Nat) : Prop :=
  ∀ item items rest, (itemTokens (item :: items)).length < fuel →
    itemsFrom fuel (itemTokens (item :: items) ++ .closeBracket :: rest) = some (item :: items, rest)

def ReadsFields (fuel : Nat) : Prop :=
  ∀ field fields rest, (fieldTokens (field :: fields)).length < fuel →
    fieldsFrom fuel (fieldTokens (field :: fields) ++ .closeBrace :: rest) =
      some (field :: fields, rest)

theorem ReadsValues.step {fuel : Nat} (hitems : ReadsItems fuel) (hfields : ReadsFields fuel) :
    ReadsValues (fuel + 1) := by
  intro v rest h
  cases v with
  | null | bool _ | number _ | text _ => simp [tokens, valueFrom]
  | array items =>
    cases items with
    | nil => simp [tokens, itemTokens, valueFrom]
    | cons item items =>
      have hread := hitems item items rest (by
        simp only [tokens, List.length_cons, List.length_append, List.length_nil] at h
        omega)
      obtain ⟨t, more, hmore, hclose⟩ := itemTokens_first item items
      simp only [tokens, hmore, List.cons_append, List.append_assoc, List.nil_append] at hread ⊢
      rw [valueFrom, hread]
      · rfl
      · intro rest' heq
        exact hclose (List.cons.inj heq).1
  | object fields =>
    cases fields with
    | nil => simp [tokens, fieldTokens, valueFrom]
    | cons field fields =>
      have hread := hfields field fields rest (by
        simp only [tokens, List.length_cons, List.length_append, List.length_nil] at h
        omega)
      obtain ⟨name, value⟩ := field
      obtain ⟨more, hmore⟩ := fieldTokens_first name value fields
      simp only [tokens, hmore, List.cons_append, List.append_assoc, List.nil_append] at hread ⊢
      rw [valueFrom, hread]
      · rfl
      · intro rest' heq
        cases heq

theorem ReadsItems.step {fuel : Nat} (hvalues : ReadsValues fuel) (hitems : ReadsItems fuel) :
    ReadsItems (fuel + 1) := by
  intro item items rest h
  cases items with
  | nil =>
    simp only [itemTokens] at h ⊢
    rw [itemsFrom, hvalues item _ (by omega)]
  | cons next items =>
    simp only [itemTokens, List.length_append, List.length_cons] at h
    simp only [itemTokens, List.append_assoc, List.cons_append]
    rw [itemsFrom, hvalues item _ (by omega)]
    simp only
    rw [hitems next items rest (by omega)]
    rfl

theorem ReadsFields.step {fuel : Nat} (hvalues : ReadsValues fuel) (hfields : ReadsFields fuel) :
    ReadsFields (fuel + 1) := by
  intro field fields rest h
  obtain ⟨name, value⟩ := field
  cases fields with
  | nil =>
    simp only [fieldTokens, List.length_cons] at h
    simp only [fieldTokens, List.cons_append]
    rw [fieldsFrom, hvalues value _ (by omega)]
  | cons next fields =>
    simp only [fieldTokens, List.length_append, List.length_cons] at h
    simp only [fieldTokens, List.append_assoc, List.cons_append]
    rw [fieldsFrom, hvalues value _ (by omega)]
    simp only
    rw [hfields next fields rest (by omega)]
    rfl

theorem read_tokens (fuel : Nat) : ReadsValues fuel ∧ ReadsItems fuel ∧ ReadsFields fuel := by
  induction fuel with
  | zero =>
    refine ⟨?_, ?_, ?_⟩
    · intro v rest h
      obtain ⟨t, ts, htokens, -⟩ := v.tokens_first
      simp [htokens] at h
    · intro item items rest h
      cases h
    · intro field fields rest h
      cases h
  | succ fuel ih =>
    obtain ⟨hvalues, hitems, hfields⟩ := ih
    exact ⟨.step hitems hfields, .step hvalues hitems, .step hvalues hfields⟩

theorem ofTokens?_tokens (v : Json) : ofTokens? v.tokens = some v := by
  have h := (read_tokens (v.tokens.length + 1)).1 v [] (Nat.le_succ _)
  rw [List.append_nil] at h
  rw [ofTokens?, h]

/-! ### The tokens of a value are set apart -/

theorem Separated.append {ts rest : List Token} {t : Token} (hts : Separated ts) (ht : ¬ t.IsOpen)
    (hrest : Separated rest) : Separated (ts ++ t :: rest) := by
  refine List.isChain_append.mpr ⟨hts, ?_, ?_⟩
  · refine List.isChain_cons.mpr ⟨?_, hrest⟩
    rintro b _ ⟨hopen, -⟩
    exact ht hopen
  · intro a _ b hb
    rintro ⟨-, hopen⟩
    cases hb
    exact ht hopen

theorem Separated.cons {ts : List Token} {t : Token} (ht : ¬ t.IsOpen) (hts : Separated ts) :
    Separated (t :: ts) := by
  have hnone : Separated [] := .nil
  exact hnone.append ht hts

mutual

theorem separated_tokens (v : Json) : Separated v.tokens := by
  match v with
  | .null | .bool _ | .number _ | .text _ =>
    rw [tokens]
    exact .singleton _
  | .array items =>
    rw [tokens]
    exact .cons id (.append (separated_itemTokens items) id .nil)
  | .object fields =>
    rw [tokens]
    exact .cons id (.append (separated_fieldTokens fields) id .nil)

theorem separated_itemTokens (items : List Json) : Separated (itemTokens items) := by
  match items with
  | [] => rw [itemTokens]; exact .nil
  | [item] => rw [itemTokens]; exact separated_tokens item
  | item :: next :: items =>
    rw [itemTokens]
    · exact .append (separated_tokens item) id (separated_itemTokens (next :: items))
    · intro h
      cases h

theorem separated_fieldTokens (fields : List (Raw × Json)) : Separated (fieldTokens fields) := by
  match fields with
  | [] => rw [fieldTokens]; exact .nil
  | [(name, value)] => rw [fieldTokens]; exact .cons id (.cons id (separated_tokens value))
  | (name, value) :: next :: fields =>
    rw [fieldTokens]
    · exact .cons id (.cons id
        (.append (separated_tokens value) id (separated_fieldTokens (next :: fields))))
    · intro h
      cases h

end

/-- **Every way of writing a value is read as this value.** -/
theorem ofText?_written {v : Json} {text : List Char} (h : v.WrittenAs text) :
    ofText? (String.ofList text) = some v := by
  have htokens := tokens?_layout h (separated_tokens v)
  rw [ofText?, String.toList_ofList, htokens]
  exact ofTokens?_tokens v

end Json

end ValidatorAlarm
