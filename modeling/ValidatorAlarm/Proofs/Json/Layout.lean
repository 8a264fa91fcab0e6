import Mathlib.Data.List.Chain
import ValidatorAlarm.Json.Value

/-!
# How JSON is laid out

A value may be written in many ways: with white space between its tokens, with escapes where a
character could stand for itself, with an exponent or without.  This module lays these ways down
without a reader: what may stand between quotes, how a number is written, and a list of tokens with
any white space around them.

The reader finds the tokens of every layout again, provided that no word or number is followed by
another one.  Such a token goes on for as long as it can, and everything else stops it.
-/
namespace ValidatorAlarm.Json

open Number (decimalValue digits? exponent? splitSign)
open Text.Form (digitValue?)

/-! ### The grammar -/

def hexDigits : List Char := "0123456789abcdefABCDEF".toList

/-- What may stand between quotes. -/
inductive Quotable : List Char → Prop where
  | nil : Quotable []
  | plain {c : Char} {rest : List Char} (hprintable : 32 ≤ c.toNat) (hquote : c ≠ '"')
      (hslash : c ≠ '\\') (h : Quotable rest) : Quotable (c :: rest)
  | escape {c : Char} {rest : List Char} (hc : c ∈ ['"', '\\', '/', 'b', 'f', 'n', 'r', 't'])
      (h : Quotable rest) : Quotable ('\\' :: c :: rest)
  | code {a b c d : Char} {rest : List Char} (ha : a ∈ hexDigits) (hb : b ∈ hexDigits)
      (hc : c ∈ hexDigits) (hd : d ∈ hexDigits) (h : Quotable rest) :
      Quotable ('\\' :: 'u' :: a :: b :: c :: d :: rest)

/-- How an exponent is written, if there is one. -/
inductive Exponent : Option Int → List Char → Prop where
  | missing : Exponent none []
  | bare {mark : Char} {digits : List Char} (hmark : mark = 'e' ∨ mark = 'E') (hsome : digits ≠ [])
      (hdigits : ∀ c ∈ digits, c.isDigit = true) :
      Exponent (some (decimalValue digits)) (mark :: digits)
  | plus {mark : Char} {digits : List Char} (hmark : mark = 'e' ∨ mark = 'E') (hsome : digits ≠ [])
      (hdigits : ∀ c ∈ digits, c.isDigit = true) :
      Exponent (some (decimalValue digits)) (mark :: '+' :: digits)
  | minus {mark : Char} {digits : List Char} (hmark : mark = 'e' ∨ mark = 'E') (hsome : digits ≠ [])
      (hdigits : ∀ c ∈ digits, c.isDigit = true) :
      Exponent (some (-(decimalValue digits : Int))) (mark :: '-' :: digits)

/-- How a number is written: a sign, a whole part without needless zeros in front, and a point with
digits and an exponent, each of the two if wanted. -/
inductive Numeral : Literal → List Char → Prop where
  | mk {negative : Bool} {whole part tail : List Char} {power : Option Int} (hsome : whole ≠ [])
      (hwhole : ∀ c ∈ whole, c.isDigit = true) (hzero : whole.head? = some '0' → whole = ['0'])
      (hpart : ∀ c ∈ part, c.isDigit = true) (hpower : Exponent power tail) :
      Numeral ⟨negative, whole, part, power⟩ ((if negative then ['-'] else []) ++ whole ++
        (if part = [] then [] else '.' :: part) ++ tail)

inductive Token.Spells : Token → List Char → Prop where
  | openBrace : Spells .openBrace ['\x7b']
  | closeBrace : Spells .closeBrace ['\x7d']
  | openBracket : Spells .openBracket ['[']
  | closeBracket : Spells .closeBracket [']']
  | comma : Spells .comma [',']
  | colon : Spells .colon [':']
  | null : Spells .null ['n', 'u', 'l', 'l']
  | yes : Spells (.bool true) ['t', 'r', 'u', 'e']
  | no : Spells (.bool false) ['f', 'a', 'l', 's', 'e']
  | number {n : Literal} {cs : List Char} (h : Numeral n cs) : Spells (.number n) cs
  | text {cs : List Char} (h : Quotable cs) : Spells (.text (cs.map some)) ('"' :: (cs ++ ['"']))

/-- Tokens one after the other, with any white space before, between and after them. -/
inductive Layout : List Token → List Char → Prop where
  | done {blanks : List Char} (hblanks : ∀ c ∈ blanks, isBlank c = true) : Layout [] blanks
  | token {t : Token} {ts : List Token} {blanks cs text : List Char}
      (hblanks : ∀ c ∈ blanks, isBlank c = true) (hspells : t.Spells cs) (h : Layout ts text) :
      Layout (t :: ts) (blanks ++ cs ++ text)

/-- A word or a number, which goes on for as long as it can. -/
def Token.IsOpen : Token → Prop
  | .null | .bool _ | .number _ => True
  | _ => False

/-- No word or number follows another one. -/
def Separated (ts : List Token) : Prop := ts.IsChain fun a b => ¬ (a.IsOpen ∧ b.IsOpen)

/-! ### Single tokens -/

/-- Neither a word nor a number goes on with what follows. -/
def Stops (text : List Char) : Prop :=
  ∀ c ∈ text.head?, isNumberPart c = false ∧ c.isLower = false

theorem isBlank_cases {c : Char} (h : isBlank c = true) : c = ' ' ∨ c = '\t' ∨ c = '\n' ∨ c = '\r' := by
  simpa [isBlank, or_assoc] using h

theorem Stops.of_blank {c : Char} (h : isBlank c = true) (text : List Char) : Stops (c :: text) := by
  intro c' hc'
  simp only [List.head?_cons, Option.mem_some_iff] at hc'
  subst hc'
  rcases isBlank_cases h with rfl | rfl | rfl | rfl <;> decide

theorem Layout.stops {ts : List Token} {text : List Char} (h : Layout ts text)
    (hclosed : ∀ t ∈ ts.head?, ¬ t.IsOpen) : Stops text := by
  cases h with
  | done hblanks =>
    cases text with
    | nil => intro c hc; cases hc
    | cons c blanks => exact Stops.of_blank (hblanks c List.mem_cons_self) blanks
  | token hblanks hspells h =>
    rename_i t ts blanks cs text
    cases blanks with
    | cons c blanks => exact Stops.of_blank (hblanks c List.mem_cons_self) _
    | nil =>
      intro c hc
      have hclosed := hclosed t rfl
      cases hspells with
      | null | yes | no | number _ => exact absurd trivial hclosed
      | _ =>
        simp only [List.nil_append, List.cons_append, List.head?_cons, Option.mem_some_iff] at hc
        subst hc
        decide

theorem tokensFrom_blanks {blanks : List Char} (h : ∀ c ∈ blanks, isBlank c = true)
    (rest : List Ink) :
    tokensFrom .between (blanks.map some ++ rest) = tokensFrom .between rest := by
  induction blanks with
  | nil => rfl
  | cons c blanks ih =>
    have hc := h c List.mem_cons_self
    have hrest := ih fun c hc => h c (List.mem_cons_of_mem _ hc)
    simp [tokensFrom, step?, begin?, hc, hrest]

/-- A run takes up the characters that go on with it. -/
theorem tokensFrom_run {mode : List Char → Mode} {cs : List Char}
    (hmode : ∀ run, ∀ c ∈ cs, step? (mode run) (some c) = some ([], mode (c :: run)))
    (run : List Char) (rest : List Ink) :
    tokensFrom (mode run) (cs.map some ++ rest) = tokensFrom (mode (cs.reverse ++ run)) rest := by
  induction cs generalizing run with
  | nil => rfl
  | cons c cs ih =>
    have hc := hmode run c List.mem_cons_self
    have hrest := ih fun run c hc => hmode run c (List.mem_cons_of_mem _ hc)
    simp [tokensFrom, hc, hrest]

/-- A run that nothing adds to any more ends, and the reader goes on as if it had just begun. -/
theorem tokensFrom_stops {mode : Mode} {out : List Token} {text : List Char} (hstops : Stops text)
    (hmode : (∃ run, mode = .number run) ∨ ∃ run, mode = .word run)
    (hfinish : finish? mode = some out) :
    tokensFrom mode (text.map some) = (tokensFrom .between (text.map some)).map (out ++ ·) := by
  cases text with
  | nil => simp [tokensFrom, hfinish, show finish? .between = some [] from rfl]
  | cons c text =>
    obtain ⟨hnumber, hlower⟩ := hstops c rfl
    have hstep : step? mode (some c) =
        (begin? c).bind fun p => some (out ++ p.1, p.2) := by
      rcases hmode with ⟨run, rfl⟩ | ⟨run, rfl⟩
      · simp [step?, hnumber, hfinish]
      · simp [step?, hlower, hfinish]
    simp only [List.map_cons, tokensFrom, hstep, show step? .between (some c) = begin? c from rfl]
    cases begin? c with
    | none => rfl
    | some p => cases h : tokensFrom p.2 (text.map some) <;> simp [h]

/-! ### Texts -/

theorem tokensFrom_quotable {cs : List Char} (h : Quotable cs) (raw : Raw) (rest : List Ink) :
    tokensFrom (.text raw) (cs.map some ++ some '"' :: rest) =
      (tokensFrom .between rest).map (.text (raw.reverse ++ cs.map some) :: ·) := by
  have hhex : ∀ x ∈ hexDigits, digitValue? x ≠ none := by decide
  induction h generalizing raw with
  | nil =>
    simp only [List.map_nil, List.nil_append, List.append_nil, tokensFrom, step?]
    cases h : tokensFrom .between rest <;> simp [h]
  | plain hprintable hquote hslash _ ih =>
    rename_i c cs _
    have hcontrol : ¬ c.toNat < 32 := by omega
    simp [tokensFrom, step?, hquote, hslash, hcontrol, ih]
  | escape hc _ ih =>
    have hknown : ∀ c ∈ ['"', '\\', '/', 'b', 'f', 'n', 'r', 't'],
        c ≠ 'u' ∧ (escaped? c).isSome = true := by decide
    rename_i c cs _
    obtain ⟨hu, hescaped⟩ := hknown c hc
    simp [tokensFrom, step?, hu, hescaped, ih]
  | code ha hb hc hd _ ih =>
    simp [tokensFrom, step?, hhex _ ha, hhex _ hb, hhex _ hc, hhex _ hd, ih]

/-! ### Numbers -/

theorem takeWhile_digits {digits rest : List Char} (hdigits : ∀ c ∈ digits, c.isDigit = true)
    (hrest : ∀ c ∈ rest.head?, c.isDigit = false) :
    (digits ++ rest).takeWhile Char.isDigit = digits ∧
      (digits ++ rest).dropWhile Char.isDigit = rest := by
  have hstop : rest.takeWhile Char.isDigit = [] ∧ rest.dropWhile Char.isDigit = rest := by
    cases rest with
    | nil => exact ⟨rfl, rfl⟩
    | cons c rest => simp [hrest c rfl]
  rw [List.takeWhile_append_of_pos hdigits, List.dropWhile_append_of_pos hdigits, hstop.1, hstop.2]
  exact ⟨List.append_nil digits, rfl⟩

theorem exponent?_digits {digits : List Char} (hsome : digits ≠ [])
    (hdigits : ∀ c ∈ digits, c.isDigit = true) :
    exponent? digits = some (decimalValue digits : Int) ∧
      exponent? ('+' :: digits) = some (decimalValue digits : Int) ∧
      exponent? ('-' :: digits) = some (-(decimalValue digits : Int)) := by
  have hall : digits? digits = some (decimalValue digits) := by
    simpa [digits?, List.isEmpty_iff, hsome] using hdigits
  have hsign : splitSign digits = (false, digits) := by
    cases digits with
    | nil => rfl
    | cons c digits =>
      have hc := hdigits c List.mem_cons_self
      rw [splitSign]
      all_goals
        intro rest heq
        obtain ⟨rfl, -⟩ := List.cons.inj heq
        cases hc
  refine ⟨?_, ?_, ?_⟩
  · simp [exponent?, hsign, hall]
  · simp [exponent?, splitSign, hall]
  · simp [exponent?, splitSign, hall]

theorem isWhole_of {whole : List Char} (hsome : whole ≠ [])
    (hzero : whole.head? = some '0' → whole = ['0']) : isWhole whole = true := by
  unfold isWhole
  split
  · exact absurd rfl hsome
  · rfl
  · rename_i c rest hnot
    have hc : c ≠ '0' := by
      rintro rfl
      exact hnot rfl (List.cons.inj (hzero rfl)).2
    simpa using hc

theorem Exponent.head {power : Option Int} {tail : List Char} (h : Exponent power tail) :
    ∀ c ∈ tail.head?, c = 'e' ∨ c = 'E' := by
  intro c hc
  cases h with
  | missing => cases hc
  | bare hmark _ _ => cases hc; exact hmark
  | plus hmark _ _ => cases hc; exact hmark
  | minus hmark _ _ => cases hc; exact hmark

/-- The number that is read behind its whole and broken part. -/
theorem Exponent.read (negative : Bool) (whole part : List Char) {power : Option Int}
    {tail : List Char} : Exponent power tail →
    (match tail with
      | [] => some ⟨negative, whole, part, none⟩
      | mark :: cs =>
        if mark = 'e' ∨ mark = 'E' then (exponent? cs).map fun e => ⟨negative, whole, part, some e⟩
        else none) = some (Literal.mk negative whole part power) := by
  intro h
  cases h with
  | missing => rfl
  | bare hmark hsome hdigits => simp [hmark, (exponent?_digits hsome hdigits).1]
  | plus hmark hsome hdigits => simp [hmark, (exponent?_digits hsome hdigits).2.1]
  | minus hmark hsome hdigits => simp [hmark, (exponent?_digits hsome hdigits).2.2]

/-- A sign is found again in front of what does not look like one. -/
theorem signed_spec (negative : Bool) {rest : List Char} (hrest : rest.head? ≠ some '-') :
    (((if negative then ['-'] else []) ++ rest).head? == some '-') = negative ∧
      (if negative then ((if negative then ['-'] else []) ++ rest).drop 1
        else (if negative then ['-'] else []) ++ rest) = rest := by
  cases negative with
  | true => exact ⟨rfl, rfl⟩
  | false => exact ⟨by simpa using hrest, rfl⟩

theorem literal?_numeral {n : Literal} {cs : List Char} (h : Numeral n cs) :
    literal? cs = some n := by
  obtain @⟨negative, whole, part, tail, power, hsome, hwhole, hzero, hpart, hpower⟩ := h
  have hmark : ∀ c ∈ tail.head?, c.isDigit = false := by
    intro c hc
    rcases hpower.head c hc with rfl | rfl <;> rfl
  have hpoint : tail.head? ≠ some '.' := by
    intro hc
    rcases hpower.head '.' hc with h | h <;> cases h
  -- what stands behind the sign
  obtain ⟨rest, hrest⟩ : ∃ rest, rest = (if part = [] then [] else '.' :: part) ++ tail := ⟨_, rfl⟩
  have hstop : ∀ c ∈ rest.head?, c.isDigit = false := by
    intro c hc
    rw [hrest] at hc
    split at hc
    · exact hmark c hc
    · cases hc; rfl
  have hdigits := takeWhile_digits hwhole hstop
  have hfirst : whole.head? ≠ some '-' := by
    intro hc
    exact absurd (hwhole '-' (List.mem_of_head? hc)) (by decide)
  have hsigned : ((if negative then ['-'] else []) ++ whole ++
      (if part = [] then [] else '.' :: part) ++ tail) =
        (if negative then ['-'] else []) ++ (whole ++ rest) := by
    rw [hrest]
    simp only [List.append_assoc]
  have hhead : (whole ++ rest).head? ≠ some '-' := by
    cases whole with
    | nil => exact absurd rfl hsome
    | cons c whole => exact hfirst
  obtain ⟨hsign, hunsigned⟩ := signed_spec negative hhead
  rw [literal?, hsigned]
  simp only [hsign, hunsigned, hdigits.1, hdigits.2, isWhole_of hsome hzero]
  by_cases hnone : part = []
  · subst hnone
    rw [if_pos rfl, List.nil_append] at hrest
    subst hrest
    cases rest with
    | nil => simpa using hpower.read negative whole []
    | cons mark cs =>
      have hpoint : mark ≠ '.' := fun h => hpoint (congrArg some h)
      simpa [hpoint] using hpower.read negative whole []
  · rw [if_neg hnone] at hrest
    subst hrest
    have hbroken := takeWhile_digits hpart hmark
    simp only [List.cons_append, hbroken.1, hbroken.2]
    cases tail with
    | nil => simpa [hnone] using hpower.read negative whole part
    | cons mark cs => simpa [hnone] using hpower.read negative whole part

theorem isNumberPart_of_isDigit {c : Char} (h : c.isDigit = true) : isNumberPart c = true := by
  simp [isNumberPart, h]

theorem Numeral.parts {n : Literal} {cs : List Char} (h : Numeral n cs) :
    ∀ c ∈ cs, isNumberPart c = true := by
  have hletter : ∀ mark, mark = 'e' ∨ mark = 'E' → isNumberPart mark = true := by
    rintro mark (rfl | rfl) <;> rfl
  obtain @⟨negative, whole, part, tail, power, -, hwhole, -, hpart, hpower⟩ := h
  intro c hc
  simp only [List.mem_append] at hc
  rcases hc with ((hc | hc) | hc) | hc
  · split at hc
    · rw [List.mem_singleton.mp hc]; rfl
    · cases hc
  · exact isNumberPart_of_isDigit (hwhole c hc)
  · split at hc
    · cases hc
    · rcases List.mem_cons.mp hc with rfl | hc
      · rfl
      · exact isNumberPart_of_isDigit (hpart c hc)
  · cases hpower with
    | missing => cases hc
    | bare hmark _ hdigits =>
      rcases List.mem_cons.mp hc with rfl | hc
      · exact hletter c hmark
      · exact isNumberPart_of_isDigit (hdigits c hc)
    | plus hmark _ hdigits | minus hmark _ hdigits =>
      rcases List.mem_cons.mp hc with rfl | hc
      · exact hletter c hmark
      · rcases List.mem_cons.mp hc with rfl | hc
        · rfl
        · exact isNumberPart_of_isDigit (hdigits c hc)

theorem Numeral.first {n : Literal} {cs : List Char} (h : Numeral n cs) :
    ∃ c rest, cs = c :: rest ∧ (c.isDigit = true ∨ c = '-') := by
  obtain @⟨negative, whole, part, tail, power, hsome, hwhole, -, -, -⟩ := h
  cases negative with
  | true => exact ⟨'-', _, rfl, Or.inr rfl⟩
  | false =>
    cases whole with
    | nil => exact absurd rfl hsome
    | cons c whole => exact ⟨c, _, rfl, Or.inl (hwhole c List.mem_cons_self)⟩

theorem begin?_number {c : Char} (h : c.isDigit = true ∨ c = '-') :
    begin? c = some ([], .number [c]) := by
  rcases h with h | rfl
  · have hne : ∀ d : Char, d.isDigit = false → c ≠ d := by
      rintro d hd rfl
      rw [h] at hd
      cases hd
    have hblank : isBlank c = false := by
      simp [isBlank, hne ' ' rfl, hne '\t' rfl, hne '\n' rfl, hne '\r' rfl]
    simp [begin?, hblank, h, hne '\x7b' rfl, hne '\x7d' rfl, hne '[' rfl, hne ']' rfl, hne ',' rfl,
      hne ':' rfl, hne '"' rfl]
  · rfl

theorem tokensFrom_numeral {n : Literal} {cs text : List Char} (h : Numeral n cs)
    (hstops : Stops text) :
    tokensFrom .between (cs.map some ++ text.map some) =
      (tokensFrom .between (text.map some)).map (.number n :: ·) := by
  obtain ⟨c, rest, rfl, hfirst⟩ := h.first
  have hparts : ∀ run, ∀ d ∈ rest, step? (.number run) (some d) = some ([], .number (d :: run)) := by
    intro run d hd
    simp [step?, h.parts d (List.mem_cons_of_mem _ hd)]
  have hfinish : finish? (.number (rest.reverse ++ [c])) = some [.number n] := by
    simp [finish?, literal?_numeral h]
  calc tokensFrom .between ((c :: rest).map some ++ text.map some)
      = tokensFrom (.number [c]) (rest.map some ++ text.map some) := by
        simp [tokensFrom, step?, begin?_number hfirst]
    _ = tokensFrom (.number (rest.reverse ++ [c])) (text.map some) := tokensFrom_run hparts _ _
    _ = _ := tokensFrom_stops hstops (Or.inl ⟨_, rfl⟩) hfinish

/-! ### Layouts -/

/-- The reader finds a token, and then what comes behind it. -/
theorem tokensFrom_spells {t : Token} {cs text : List Char} (h : t.Spells cs)
    (hstops : t.IsOpen → Stops text) :
    tokensFrom .between (cs.map some ++ text.map some) =
      (tokensFrom .between (text.map some)).map (t :: ·) := by
  have hword : ∀ (c : Char) (cs : List Char) (t : Token), word? (c :: cs) = some t →
      begin? c = some ([], .word [c]) → (∀ d ∈ cs, d.isLower = true) → Stops text →
      tokensFrom .between ((c :: cs).map some ++ text.map some) =
        (tokensFrom .between (text.map some)).map (t :: ·) := by
    intro c cs t hword hbegin hlower hstops
    have hletters : ∀ run, ∀ d ∈ cs, step? (.word run) (some d) = some ([], .word (d :: run)) := by
      intro run d hd
      simp [step?, hlower d hd]
    have hfinish : finish? (.word (cs.reverse ++ [c])) = some [t] := by simp [finish?, hword]
    calc tokensFrom .between ((c :: cs).map some ++ text.map some)
        = tokensFrom (.word [c]) (cs.map some ++ text.map some) := by
          simp [tokensFrom, step?, hbegin]
      _ = tokensFrom (.word (cs.reverse ++ [c])) (text.map some) := tokensFrom_run hletters _ _
      _ = _ := tokensFrom_stops hstops (Or.inr ⟨_, rfl⟩) hfinish
  cases h with
  | number h => exact tokensFrom_numeral h (hstops trivial)
  | text h =>
    rename_i cs
    have hopen := tokensFrom_quotable h [] (text.map some)
    simp only [List.map_cons, List.map_append, List.map_nil, List.append_assoc, List.cons_append,
      List.nil_append, List.reverse_nil] at hopen ⊢
    rw [← hopen]
    simp [tokensFrom, step?, begin?, isBlank]
  | null => exact hword _ _ _ rfl rfl (by decide) (hstops trivial)
  | yes => exact hword _ _ _ rfl rfl (by decide) (hstops trivial)
  | no => exact hword _ _ _ rfl rfl (by decide) (hstops trivial)
  | _ =>
    cases htext : tokensFrom .between (text.map some) <;>
      simp [tokensFrom, step?, begin?, isBlank, htext]

/-- **The reader finds the tokens of every layout.** -/
theorem tokens?_layout {ts : List Token} {text : List Char} (h : Layout ts text)
    (hseparated : Separated ts) : tokens? (text.map some) = some ts := by
  unfold tokens?
  induction h with
  | done hblanks =>
    have h := tokensFrom_blanks hblanks []
    rw [List.append_nil] at h
    exact h
  | token hblanks hspells h ih =>
    rename_i t ts blanks cs text
    have hstops : t.IsOpen → Stops text := by
      intro hopen
      refine h.stops ?_
      intro next hnext hnextopen
      cases ts with
      | nil => cases hnext
      | cons next' ts =>
        cases hnext
        exact (List.isChain_cons_cons.mp hseparated).1 ⟨hopen, hnextopen⟩
    rw [List.map_append, List.map_append, List.append_assoc, tokensFrom_blanks hblanks,
      tokensFrom_spells hspells hstops, ih hseparated.tail]
    rfl

end ValidatorAlarm.Json
