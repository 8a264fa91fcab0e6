import Mathlib.Tactic.SplitIfs
import ValidatorAlarm.Proofs.Json.Record
import ValidatorAlarm.Proofs.Json.Writing
import ValidatorAlarm.Proofs.Text.Utf8

/-!
# What JSON says

Between quotes a character may stand for itself or be written as an escape, by a letter or by its code
in hexadecimal, and a character beyond the first 65536 takes two codes.  `Denotes` lays down which text
is written, without a reader.  On top of it an object is a list of named values, in which a name may
occur more than once; and a value stands under a path of names if each name on the way occurs once.

The reader goes by these meanings: it does not matter which escapes, white space or order of fields were
chosen, nor what else stands among the fields.
-/
namespace ValidatorAlarm.Json

open Text.Form (digitValue?)

/-! ### The grammar of texts -/

/-- The letters behind a backslash, with the characters that they stand for. -/
def letterEscapes : List (Char × Char) :=
  [('"', '"'), ('\\', '\\'), ('/', '/'), ('b', '\x08'), ('f', '\x0c'), ('n', '\n'), ('r', '\r'),
    ('t', '\t')]

/-- A hexadecimal digit of either case. -/
inductive HexDigit : Nat → Char → Prop where
  | small {n : Nat} (h : n < 16) : HexDigit n (Nat.digitChar n)
  | capital {n : Nat} (h : n < 16) : HexDigit n (Nat.digitChar n).toUpper

/-- A code of four hexadecimal digits. -/
inductive Code : Nat → List Char → Prop where
  | mk {i j k l : Nat} {a b c d : Char} (ha : HexDigit i a) (hb : HexDigit j b) (hc : HexDigit k c)
      (hd : HexDigit l d) : Code (((i * 16 + j) * 16 + k) * 16 + l) [a, b, c, d]

/-- What stands between quotes denotes a text. -/
inductive Denotes : List Char → List Char → Prop where
  | nil : Denotes [] []
  | plain {c : Char} {cs text : List Char} (hprintable : 32 ≤ c.toNat) (hquote : c ≠ '"')
      (hslash : c ≠ '\\') (h : Denotes cs text) : Denotes (c :: cs) (c :: text)
  | letter {letter c : Char} {cs text : List Char} (hc : (letter, c) ∈ letterEscapes)
      (h : Denotes cs text) : Denotes ('\\' :: letter :: cs) (c :: text)
  | code {n : Nat} {digits cs text : List Char} (hn : n < 0xD800 ∨ 0xDFFF < n) (hcode : Code n digits)
      (h : Denotes cs text) : Denotes ('\\' :: 'u' :: (digits ++ cs)) (Char.ofNat n :: text)
  | pair {i j : Nat} {high low cs text : List Char} (hi : i < 0x400) (hj : j < 0x400)
      (hhigh : Code (0xD800 + i) high) (hlow : Code (0xDC00 + j) low) (h : Denotes cs text) :
      Denotes ('\\' :: 'u' :: (high ++ '\\' :: 'u' :: (low ++ cs)))
        (Char.ofNat (0x10000 + i * 0x400 + j) :: text)

/-! ### Reading texts -/

theorem HexDigit.read {n : Nat} {c : Char} (h : HexDigit n c) :
    digitValue? c = some n ∧ c ∈ hexDigits := by
  have hall : ∀ n < 16, (digitValue? (Nat.digitChar n) = some n ∧ Nat.digitChar n ∈ hexDigits) ∧
      digitValue? (Nat.digitChar n).toUpper = some n ∧ (Nat.digitChar n).toUpper ∈ hexDigits := by
    decide
  cases h with
  | small h => exact (hall n h).1
  | capital h => exact (hall n h).2

theorem Code.read {n : Nat} {digits : List Char} (h : Code n digits) :
    ∃ a b c d, digits = [a, b, c, d] ∧ code? (some a) (some b) (some c) (some d) = some n := by
  obtain ⟨ha, hb, hc, hd⟩ := h
  refine ⟨_, _, _, _, rfl, ?_⟩
  simp [code?, ha.read.1, hb.read.1, hc.read.1, hd.read.1]

theorem characters?_code {n : Nat} {digits : List Char} (hn : n < 0xD800 ∨ 0xDFFF < n)
    (hcode : Code n digits) (rest : Raw) :
    Raw.characters? (some '\\' :: some 'u' :: (digits.map some ++ rest)) =
      (Raw.characters? rest).map (Char.ofNat n :: ·) := by
  obtain ⟨a, b, c, d, rfl, hread⟩ := hcode.read
  have hhalves : isHighHalf n = false ∧ isLowHalf n = false := by
    simp only [isHighHalf, isLowHalf, Bool.and_eq_false_iff, decide_eq_false_iff_not]
    omega
  cases h : Raw.characters? rest <;> simp [Raw.characters?, hread, hhalves.1, hhalves.2, h]

theorem characters?_pair {i j : Nat} {high low : List Char} (hi : i < 0x400) (hj : j < 0x400)
    (hhigh : Code (0xD800 + i) high) (hlow : Code (0xDC00 + j) low) (rest : Raw) :
    Raw.characters? (some '\\' :: some 'u' ::
      (high.map some ++ some '\\' :: some 'u' :: (low.map some ++ rest))) =
      (Raw.characters? rest).map (Char.ofNat (0x10000 + i * 0x400 + j) :: ·) := by
  obtain ⟨a, b, c, d, rfl, hreadHigh⟩ := hhigh.read
  obtain ⟨e, f, g, h, rfl, hreadLow⟩ := hlow.read
  have hfirst : isHighHalf (0xD800 + i) = true := by
    simp only [isHighHalf, Bool.and_eq_true, decide_eq_true_eq]
    omega
  have hsecond : isLowHalf (0xDC00 + j) = true := by
    simp only [isLowHalf, Bool.and_eq_true, decide_eq_true_eq]
    omega
  cases hrest : Raw.characters? rest <;>
    simp [Raw.characters?, hreadHigh, hreadLow, hfirst, hsecond, hrest]

/-- **A text is read as what it denotes.** -/
theorem characters?_denotes {cs text : List Char} (h : Denotes cs text) :
    Raw.characters? (cs.map some) = some text := by
  induction h with
  | nil => rfl
  | plain hprintable hquote hslash _ ih => simp [Raw.characters?, hslash, ih]
  | letter hc _ ih =>
    have hall : ∀ e ∈ letterEscapes, escaped? e.1 = some e.2 ∧ e.1 ≠ 'u' := by decide
    obtain ⟨hescaped, hne⟩ := hall _ hc
    simp only at hescaped hne
    simp [Raw.characters?, hescaped, hne, ih]
  | code hn hcode _ ih =>
    simp only [List.map_cons, List.map_append]
    rw [characters?_code hn hcode, ih]
    rfl
  | pair hi hj hhigh hlow _ ih =>
    simp only [List.map_cons, List.map_append]
    rw [characters?_pair hi hj hhigh hlow, ih]
    rfl

/-! ### Texts as they are written -/

/-- Every text has a spelling that may stand between quotes. -/
theorem denotes_escape (cs : List Char) : Denotes (cs.flatMap escapeChar) cs := by
  induction cs with
  | nil => exact .nil
  | cons c cs ih =>
    rw [List.flatMap_cons, escapeChar]
    split_ifs with hquote hslash h8 ht hn hf hr hcontrol
    · subst hquote
      exact .letter (by decide) ih
    · subst hslash
      exact .letter (by decide) ih
    · subst h8
      exact .letter (by decide) ih
    · subst ht
      exact .letter (by decide) ih
    · subst hn
      exact .letter (by decide) ih
    · subst hf
      exact .letter (by decide) ih
    · subst hr
      exact .letter (by decide) ih
    · have hzero : HexDigit 0 '0' := .small (by decide)
      have hcode : Code c.toNat ['0', '0', Nat.digitChar (c.toNat / 16), Nat.digitChar (c.toNat % 16)] := by
        have h := Code.mk hzero hzero (.small (n := c.toNat / 16) (by omega))
          (.small (n := c.toNat % 16) (by omega))
        rwa [show ((0 * 16 + 0) * 16 + c.toNat / 16) * 16 + c.toNat % 16 = c.toNat by omega] at h
      have h := Denotes.code (.inl (by omega)) hcode ih
      rwa [Char.ofNat_toNat] at h
    · exact .plain (by omega) hquote hslash ih

/-! ### Named values -/

/-- A written text, whose characters stand between its quotes. -/
def Spells (raw : Raw) (text : String) : Prop := ∃ cs, raw = cs.map some ∧ Denotes cs text.toList

theorem Spells.read? {raw : Raw} {text : String} (h : Spells raw text) : raw.read? = some text := by
  obtain ⟨cs, rfl, hdenotes⟩ := h
  rw [Raw.read?, characters?_denotes hdenotes]
  exact congrArg some String.ofList_toList

theorem spells_rawOf (s : String) : Spells (rawOf s) s := ⟨_, rfl, denotes_escape s.toList⟩

/-- An object with these values, each under its name, in this order. -/
def IsObject (v : Json) (named : List (String × Json)) : Prop :=
  ∃ fields, v = .object fields ∧
    List.Forall₂ (fun field entry => Spells field.1 entry.1 ∧ field.2 = entry.2) fields named

/-- An object that has been written has these values. -/
theorem isObject_written (fields : List (String × Field)) :
    (Json.object (fields.map fun field => (rawOf field.1, field.2.value))).IsObject
      (fields.map fun field => (field.1, field.2.value)) := by
  refine ⟨_, rfl, ?_⟩
  rw [List.forall₂_map_left_iff, List.forall₂_map_right_iff]
  exact List.forall₂_same.mpr fun field _ => ⟨spells_rawOf field.1, rfl⟩

/-- The values under a name, in their order. -/
def valuesOf (name : String) (named : List (String × Json)) : List Json :=
  (named.filter (·.1 = name)).map (·.2)

variable {v : Json} {named : List (String × Json)} {declared : List String}

theorem given_eq_valuesOf {fields : List (Raw × Json)}
    (h : List.Forall₂ (fun field entry => Spells field.1 entry.1 ∧ field.2 = entry.2) fields named)
    (name : String) : given name fields = valuesOf name named := by
  induction h with
  | nil => rfl
  | cons hfield _ ih =>
    rename_i field entry fields named _
    obtain ⟨hspells, hvalue⟩ := hfield
    simp only [given, valuesOf] at ih ⊢
    by_cases hname : entry.1 = name
    · simp [hspells.read?, hname, hvalue, ih]
    · simp [hspells.read?, hname, ih]

/-- An object is a record if none of the declared names occurs twice, and then each of them has the
value under it. -/
theorem IsObject.record? (h : v.IsObject named) (hnodup : declared.Nodup)
    (hone : ∀ name ∈ declared, (valuesOf name named).length ≤ 1) :
    record? declared v = some (declared.map fun name => (valuesOf name named).head?) := by
  obtain ⟨fields, rfl, hfields⟩ := h
  simp only [← given_eq_valuesOf hfields] at hone ⊢
  refine (record?_object hnodup).mpr ⟨?_, hone, rfl⟩
  intro field hfield
  obtain ⟨i, hi, rfl⟩ := List.getElem_of_mem hfield
  have hlength := hfields.length_eq
  exact ⟨_, ((List.forall₂_iff_get.mp hfields).2 i hi (by omega)).1.read?⟩

/-! ### Paths -/

/-- The value under a path of names, if there is one: every name on the way occurs once, and the last
one at most once.  Other names may occur anywhere. -/
inductive Under : List String → Json → Option Json → Prop where
  | last {name : String} {v : Json} {named : List (String × Json)} {value : Option Json}
      (hv : v.IsObject named) (hvalue : valuesOf name named = value.toList) : Under [name] v value
  | step {name : String} {path : List String} {v inner : Json} {named : List (String × Json)}
      {value : Option Json} (hv : v.IsObject named) (hinner : valuesOf name named = [inner])
      (h : Under path inner value) : Under (name :: path) v value

theorem Under.isObject {path : List String} {value : Option Json} (h : Under path v value) :
    ∃ fields, v = .object fields := by
  cases h with
  | last hv _ => exact ⟨_, hv.choose_spec.1⟩
  | step hv _ _ => exact ⟨_, hv.choose_spec.1⟩

/-- The only declared field of a record. -/
theorem IsObject.single {name : String} {value : Option Json} (h : v.IsObject named)
    (hvalue : valuesOf name named = value.toList) : Json.record? [name] v = some [value] := by
  have hone : ∀ other ∈ [name], (valuesOf other named).length ≤ 1 := by
    intro other hother
    rw [List.mem_singleton.mp hother, hvalue]
    cases value <;> simp
  rw [h.record? (List.nodup_singleton name) hone, List.map_singleton, hvalue]
  cases value <;> rfl

/-! ### Bytes -/

/-- The bytes write a value, in any layout. -/
def WrittenIn (v : Json) (bytes : List UInt8) : Prop :=
  ∃ text, v.WrittenAs text ∧ bytes = Text.utf8 (String.ofList text)

theorem ofBytes?_written {bytes : List UInt8} (h : v.WrittenIn bytes) : ofBytes? bytes = some v := by
  obtain ⟨text, hwritten, rfl⟩ := h
  have htext := ofText?_written hwritten
  rw [ofText?, String.toList_ofList] at htext
  rw [ofBytes?, Text.readUtf8_utf8, String.toList_ofList]
  exact htext

end ValidatorAlarm.Json
