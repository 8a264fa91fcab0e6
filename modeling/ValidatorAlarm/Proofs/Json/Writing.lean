import ValidatorAlarm.Json.Writer
import ValidatorAlarm.Proofs.Json.Value

/-!
# What is written is JSON

The writer escapes what must not stand between quotes, and the escapes are read as the characters that
they stand for.  So every text comes back from its written form, and an object that has been written
is one of the layouts of its value.
-/
namespace ValidatorAlarm.Json

open Text.Form (digitValue?)

/-! ### Texts -/

/-- A text as it is written between its quotes. -/
def rawOf (s : String) : Raw := (s.toList.flatMap escapeChar).map some

theorem digitChar_hex {n : Nat} (h : n < 16) :
    Nat.digitChar n ∈ hexDigits ∧ digitValue? (Nat.digitChar n) = some n := by
  have hall : ∀ n < 16, Nat.digitChar n ∈ hexDigits ∧ digitValue? (Nat.digitChar n) = some n := by
    decide
  exact hall n h

theorem Quotable.escapeChar_append (c : Char) {rest : List Char} (h : Quotable rest) :
    Quotable (escapeChar c ++ rest) := by
  unfold escapeChar
  split_ifs with hquote hslash h8 ht hn hf hr hcontrol
  · exact .escape (by decide) h
  · exact .escape (by decide) h
  · exact .escape (by decide) h
  · exact .escape (by decide) h
  · exact .escape (by decide) h
  · exact .escape (by decide) h
  · exact .escape (by decide) h
  · have hhigh := (digitChar_hex (n := c.toNat / 16) (by omega)).1
    have hlow := (digitChar_hex (n := c.toNat % 16) (by omega)).1
    exact .code (by decide) (by decide) hhigh hlow h
  · exact .plain (by omega) hquote hslash h

theorem quotable_escape (cs : List Char) : Quotable (cs.flatMap escapeChar) := by
  induction cs with
  | nil => exact .nil
  | cons c cs ih => exact ih.escapeChar_append c

/-- An escaped character is read as the character. -/
theorem characters?_escapeChar (c : Char) (rest : Raw) :
    Raw.characters? ((escapeChar c).map some ++ rest) =
      (Raw.characters? rest).map (c :: ·) := by
  unfold escapeChar
  split_ifs with hquote hslash h8 ht hn hf hr hcontrol
  · subst hquote
    cases h : Raw.characters? rest <;> simp [Raw.characters?, escaped?, h]
  · subst hslash
    cases h : Raw.characters? rest <;> simp [Raw.characters?, escaped?, h]
  · subst h8
    cases h : Raw.characters? rest <;> simp [Raw.characters?, escaped?, h]
  · subst ht
    cases h : Raw.characters? rest <;> simp [Raw.characters?, escaped?, h]
  · subst hn
    cases h : Raw.characters? rest <;> simp [Raw.characters?, escaped?, h]
  · subst hf
    cases h : Raw.characters? rest <;> simp [Raw.characters?, escaped?, h]
  · subst hr
    cases h : Raw.characters? rest <;> simp [Raw.characters?, escaped?, h]
  · have hhigh := (digitChar_hex (n := c.toNat / 16) (by omega)).2
    have hlow := (digitChar_hex (n := c.toNat % 16) (by omega)).2
    have hzero : digitValue? '0' = some 0 := rfl
    have hcode : code? (some '0') (some '0') (some (Nat.digitChar (c.toNat / 16)))
        (some (Nat.digitChar (c.toNat % 16))) = some c.toNat := by
      simp [code?, hhigh, hlow, hzero]
      omega
    have hhalves : isHighHalf c.toNat = false ∧ isLowHalf c.toNat = false := by
      simp only [isHighHalf, isLowHalf, Bool.and_eq_false_iff, decide_eq_false_iff_not]
      omega
    cases h : Raw.characters? rest <;>
      simp [Raw.characters?, hcode, hhalves.1, hhalves.2, h, Char.ofNat_toNat]
  · cases h : Raw.characters? rest <;> simp [Raw.characters?, h, hslash]

theorem read?_rawOf (s : String) : (rawOf s).read? = some s := by
  have hcharacters : ∀ cs : List Char,
      Raw.characters? ((cs.flatMap escapeChar).map some) = some cs := by
    intro cs
    induction cs with
    | nil => rfl
    | cons c cs ih => rw [List.flatMap_cons, List.map_append, characters?_escapeChar, ih]; rfl
  rw [Raw.read?, rawOf, hcharacters]
  exact congrArg some String.ofList_toList

/-! ### Objects -/

/-- What a written field says. -/
def Field.value : Field → Json
  | .text s => .text (rawOf s)
  | .number n => .number ⟨false, Nat.toDigits 10 n, [], none⟩
  | .texts values => .array (values.map fun s => .text (rawOf s))

/-- The characters write the tokens, whatever comes behind them. -/
def LaysOut (ts : List Token) (cs : List Char) : Prop :=
  ∀ (rest : List Token) (text : List Char), Layout rest text → Layout (ts ++ rest) (cs ++ text)

theorem LaysOut.single {t : Token} {cs : List Char} (h : t.Spells cs) : LaysOut [t] cs := by
  intro rest text hrest
  have hblanks : ∀ c ∈ ([] : List Char), isBlank c = true := by simp
  exact .token hblanks h hrest

theorem LaysOut.append {ts ts' : List Token} {cs cs' : List Char} (h : LaysOut ts cs)
    (h' : LaysOut ts' cs') : LaysOut (ts ++ ts') (cs ++ cs') := by
  intro rest text hrest
  rw [List.append_assoc, List.append_assoc]
  exact h _ _ (h' _ _ hrest)

theorem LaysOut.cons {t : Token} {ts : List Token} {c : Char} {cs : List Char} (ht : t.Spells [c])
    (h : LaysOut ts cs) : LaysOut (t :: ts) (c :: cs) :=
  (LaysOut.single ht).append h

theorem LaysOut.quote (s : String) : LaysOut [.text (rawOf s)] (quote s) :=
  LaysOut.single (.text (quotable_escape s.toList))

theorem toDigits_head {n : Nat} (h : (Nat.toDigits 10 n).head? = some '0') : n = 0 := by
  induction n using Nat.strongRecOn with
  | ind n ih =>
    rw [Nat.toDigits_eq_if (by omega)] at h
    split at h
    · rename_i hsmall
      have hall : ∀ n < 10, [Nat.digitChar n].head? = some '0' → n = 0 := by decide
      exact hall n hsmall h
    · have hrest : (Nat.toDigits 10 (n / 10)).head? = some '0' := by
        rw [List.head?_append_of_ne_nil _ Nat.toDigits_ne_nil] at h
        exact h
      have hzero := ih (n / 10) (by omega) hrest
      omega

theorem LaysOut.number (n : Nat) :
    LaysOut [.number ⟨false, Nat.toDigits 10 n, [], none⟩] (Nat.toDigits 10 n) := by
  have hnumeral : Numeral ⟨false, Nat.toDigits 10 n, [], none⟩ ((if false then ['-'] else []) ++
      Nat.toDigits 10 n ++ (if ([] : List Char) = [] then [] else '.' :: []) ++ []) := by
    refine .mk Nat.toDigits_ne_nil ?_ ?_ (by simp) .missing
    · intro c hc
      exact Nat.isDigit_of_mem_toDigits (by omega) (by omega) hc
    · intro hzero
      rw [toDigits_head hzero]
      rfl
  simpa using LaysOut.single (.number hnumeral)

theorem LaysOut.items {α : Type} {value : α → Json} {write : α → List Char}
    (h : ∀ a, LaysOut (value a).tokens (write a)) (items : List α) :
    LaysOut (itemTokens (items.map value)) (List.intercalate [','] (items.map write)) := by
  induction items with
  | nil => exact fun _ _ hrest => hrest
  | cons a items ih =>
    cases items with
    | nil => simpa [itemTokens, List.intercalate] using h a
    | cons b items =>
      have hrest := (h a).append (LaysOut.cons .comma ih)
      simpa [itemTokens, List.intercalate] using hrest

theorem LaysOut.array {α : Type} {value : α → Json} {write : α → List Char}
    (h : ∀ a, LaysOut (value a).tokens (write a)) (items : List α) :
    LaysOut (Json.array (items.map value)).tokens
      ('[' :: (List.intercalate [','] (items.map write) ++ [']'])) := by
  rw [tokens]
  exact LaysOut.cons .openBracket ((LaysOut.items h items).append (LaysOut.single .closeBracket))

theorem Field.laysOut (f : Field) : LaysOut f.value.tokens f.write := by
  cases f with
  | text s => simpa [Field.value, Field.write, tokens] using LaysOut.quote s
  | number n => simpa [Field.value, Field.write, tokens] using LaysOut.number n
  | texts values =>
    have hquote : ∀ s, LaysOut (Json.text (rawOf s)).tokens (Json.quote s) := fun s => by
      simpa [tokens] using LaysOut.quote s
    simpa [Field.value, Field.write] using LaysOut.array hquote values

theorem LaysOut.fields {α : Type} {name : α → String} {value : α → Json} {write : α → List Char}
    (h : ∀ a, LaysOut (value a).tokens (write a)) (fields : List α) :
    LaysOut (fieldTokens (fields.map fun a => (rawOf (name a), value a)))
      (List.intercalate [','] (fields.map fun a => Json.quote (name a) ++ ':' :: write a)) := by
  induction fields with
  | nil => exact fun _ _ hrest => hrest
  | cons a fields ih =>
    have hfield := (LaysOut.quote (name a)).append (LaysOut.cons .colon (h a))
    cases fields with
    | nil => simpa [fieldTokens, List.intercalate] using hfield
    | cons next fields =>
      have hrest := hfield.append (LaysOut.cons .comma ih)
      simpa [fieldTokens, List.intercalate] using hrest

theorem LaysOut.object {α : Type} (name : α → String) {value : α → Json} {write : α → List Char}
    (h : ∀ a, LaysOut (value a).tokens (write a)) (fields : List α) :
    LaysOut (Json.object (fields.map fun a => (rawOf (name a), value a))).tokens
      ('\x7b' :: (List.intercalate [','] (fields.map fun a => Json.quote (name a) ++ ':' :: write a) ++
        ['\x7d'])) := by
  rw [tokens]
  exact LaysOut.cons .openBrace ((LaysOut.fields h fields).append (LaysOut.single .closeBrace))

theorem LaysOut.written {v : Json} {cs : List Char} (h : LaysOut v.tokens cs) : v.WrittenAs cs := by
  have hdone := h [] [] (.done (by simp))
  rwa [List.append_nil, List.append_nil] at hdone

/-- **An object that has been written is JSON**, and says what its fields say. -/
theorem writeObject_written (fields : List (String × Field)) :
    (Json.object (fields.map fun field => (rawOf field.1, field.2.value))).WrittenAs
      (writeObject fields).toList := by
  have h := LaysOut.object Prod.fst (fun field : String × Field => field.2.laysOut) fields
  simpa [writeObject] using h.written

end ValidatorAlarm.Json
