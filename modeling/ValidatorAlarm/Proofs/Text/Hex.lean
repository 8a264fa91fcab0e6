import Mathlib.Tactic.SplitIfs
import ValidatorAlarm.Text.Bytes
import ValidatorAlarm.Text.Hex

/-!
# Spellings of hexadecimal

Some bytes have one form with small letters, the one that is written, and many others that are read
as the same bytes.  A text that can be read is its bytes' written form once its capitals have been
made small; so it is this form exactly if it has no capitals.
-/
namespace ValidatorAlarm.Text

/-! ### One byte a character -/

theorem utf8EncodeChar_ascii {c : Char} (h : c.toNat < 128) :
    String.utf8EncodeChar c = [UInt8.ofNat c.toNat] := by
  have hle : c.val.toNat ≤ 127 := Nat.le_of_lt_succ h
  simp only [String.utf8EncodeChar, if_pos hle]
  rfl

/-- Only ASCII characters have small bytes. -/
theorem ascii_of_small_byte {c : Char} {b : UInt8} (hb : b ∈ String.utf8EncodeChar c)
    (hsmall : b.toNat < 128) : c.toNat < 128 := by
  refine Nat.lt_of_not_le fun hlarge => ?_
  have hnot : ¬ c.val.toNat ≤ 127 := Nat.not_le_of_lt hlarge
  unfold String.utf8EncodeChar at hb
  simp only [if_neg hnot] at hb
  split_ifs at hb <;> simp only [List.mem_cons, List.not_mem_nil, or_false] at hb
  · rcases hb with rfl | rfl <;> simp only [UInt8.toNat_ofNat'] at hsmall <;> omega
  · rcases hb with rfl | rfl | rfl <;> simp only [UInt8.toNat_ofNat'] at hsmall <;> omega
  · rcases hb with rfl | rfl | rfl | rfl <;> simp only [UInt8.toNat_ofNat'] at hsmall <;> omega

/-- The bytes of a text are those of its characters if all of one kind are small. -/
theorem utf8_ascii {cs : List Char} (h : ∀ c ∈ cs, c.toNat < 128) :
    utf8 (String.ofList cs) = cs.map fun c => UInt8.ofNat c.toNat := by
  rw [utf8, String.toList_ofList]
  induction cs with
  | nil => rfl
  | cons c cs ih =>
    have hc := utf8EncodeChar_ascii (h c List.mem_cons_self)
    have hcs := ih fun c hc => h c (List.mem_cons_of_mem _ hc)
    rw [List.flatMap_cons, hc, hcs]
    rfl

theorem ascii_of_small_bytes {s : String} (h : ∀ b ∈ utf8 s, b.toNat < 128) :
    ∀ c ∈ s.toList, c.toNat < 128 := by
  intro c hc
  obtain ⟨b, bs, hbytes⟩ := List.exists_cons_of_ne_nil (String.utf8EncodeChar_ne_nil (c := c))
  have hb : b ∈ String.utf8EncodeChar c := by rw [hbytes]; exact List.mem_cons_self
  exact ascii_of_small_byte hb (h b (List.mem_flatMap.mpr ⟨c, hc, hb⟩))

namespace Hex

/-! ### Digits -/

/-- The small form of a digit that is written as a byte. -/
def smallDigit (b : UInt8) : Char := (Char.ofNat b.toNat).toLower

theorem digitValue?_spec {b : UInt8} {v : Nat} (h : digitValue? b = some v) :
    v < 16 ∧ b.toNat < 128 ∧ digit v = smallDigit b := by
  have hall : ∀ n < 256, ∀ v ∈ digitValue? (UInt8.ofNat n),
      v < 16 ∧ n < 128 ∧ digit v = smallDigit (UInt8.ofNat n) := by
    decide +kernel
  have hb := hall b.toNat b.toNat_lt
  rw [UInt8.ofNat_toNat] at hb
  exact hb v h

theorem digit_spec {n : Nat} (h : n < 16) :
    (digit n).toNat < 128 ∧ digitValue? (UInt8.ofNat (digit n).toNat) = some n := by
  have hall : ∀ n < 16, (digit n).toNat < 128 ∧
      digitValue? (UInt8.ofNat (digit n).toNat) = some n := by
    decide
  exact hall n h

theorem pair_ofDigits {high low : Nat} (hhigh : high < 16) (hlow : low < 16) :
    pair (UInt8.ofNat (16 * high + low)) = [digit high, digit low] := by
  have hvalue : (UInt8.ofNat (16 * high + low)).toNat = 16 * high + low :=
    UInt8.toNat_ofNat_of_lt' (by rw [UInt8.size]; omega)
  rw [pair, hvalue]
  congr 2
  · omega
  · congr 2
    omega

/-! ### Reading and writing -/

theorem decodePairs_spec {index : Nat} {digits bytes : List UInt8}
    (h : decodePairs index digits = .ok bytes) :
    digits.length = 2 * bytes.length ∧ (∀ b ∈ digits, b.toNat < 128) ∧
      bytes.flatMap pair = digits.map smallDigit := by
  induction index, digits using decodePairs.induct generalizing bytes with
  | case1 index =>
    cases h
    exact ⟨rfl, by simp, rfl⟩
  | case2 index b => cases h
  | case3 index high low rest hhigh => simp [decodePairs, hhigh] at h
  | case4 index high low rest v hv hlow => simp [decodePairs, hv, hlow] at h
  | case5 index high low rest v hv w hw ih =>
    simp only [decodePairs, hv, hw] at h
    cases hrest : decodePairs (index + 2) rest with
    | error flaw => rw [hrest] at h; cases h
    | ok out =>
      rw [hrest] at h
      cases h
      obtain ⟨hlength, hsmall, hpairs⟩ := ih hrest
      obtain ⟨hv16, hhigh, hvdigit⟩ := digitValue?_spec hv
      obtain ⟨hw16, hlow, hwdigit⟩ := digitValue?_spec hw
      refine ⟨?_, ?_, ?_⟩
      · simp only [List.length_cons, hlength]
        omega
      · simp only [List.forall_mem_cons]
        exact ⟨hhigh, hlow, hsmall⟩
      · rw [List.flatMap_cons, pair_ofDigits hv16 hw16, hpairs, hvdigit, hwdigit]
        rfl

/-- The written form of the bytes that a text stands for. -/
theorem encode_of_decode {s : String} {bytes : List UInt8} (h : decode (utf8 s) = .ok bytes) :
    byteLength s = 2 * bytes.length ∧ encode bytes = String.ofList (s.toList.map Char.toLower) ∧
      ∀ c ∈ s.toList, c.toNat < 128 := by
  have hpairs : decodePairs 0 (utf8 s) = .ok bytes := by
    rw [decode] at h
    split at h
    · cases h
    · exact h
  obtain ⟨hlength, hsmall, hdigits⟩ := decodePairs_spec hpairs
  have hascii := ascii_of_small_bytes hsmall
  refine ⟨hlength, ?_, hascii⟩
  have hbytes : utf8 s = s.toList.map fun c => UInt8.ofNat c.toNat := by
    have h := utf8_ascii hascii
    rwa [String.ofList_toList] at h
  rw [encode, hdigits, hbytes, List.map_map]
  congr 1
  refine List.map_congr_left fun c hc => ?_
  have hvalue : (UInt8.ofNat c.toNat).toNat = c.toNat :=
    UInt8.toNat_ofNat_of_lt' (Nat.lt_trans (hascii c hc) (by decide))
  rw [Function.comp_apply, smallDigit, hvalue, Char.ofNat_toNat]

/-- **A text is the written form of its bytes exactly if it has no capitals.** -/
theorem eq_encode_iff {s : String} {bytes : List UInt8} (h : decode (utf8 s) = .ok bytes) :
    s = encode bytes ↔ ∀ c ∈ s.toList, c.isUpper = false := by
  obtain ⟨-, hencode, hascii⟩ := encode_of_decode h
  have hsame : ∀ c ∈ s.toList, c.toLower = c ↔ c.isUpper = false := by
    have hall : ∀ n < 128, (Char.ofNat n).toLower = Char.ofNat n ↔ (Char.ofNat n).isUpper = false := by
      decide
    intro c hc
    have hn := hall c.toNat (hascii c hc)
    rwa [Char.ofNat_toNat] at hn
  have hmap : s.toList.map Char.toLower = s.toList ↔ ∀ c ∈ s.toList, c.toLower = c := by
    have h := List.map_inj_left (l := s.toList) (f := Char.toLower) (g := id)
    rwa [List.map_id] at h
  rw [hencode, ← String.toList_inj, String.toList_ofList, eq_comm, hmap]
  exact forall₂_congr hsame

theorem length_pairs (bytes : List UInt8) : (bytes.flatMap pair).length = 2 * bytes.length := by
  induction bytes with
  | nil => rfl
  | cons b bytes ih =>
    rw [List.flatMap_cons, List.length_append, ih]
    simp only [pair, List.length_cons, List.length_nil]
    omega

theorem mem_encode {bytes : List UInt8} {c : Char} (h : c ∈ (encode bytes).toList) :
    c ∈ "0123456789abcdef".toList := by
  have hall : ∀ n < 16, digit n ∈ "0123456789abcdef".toList := by decide
  rw [encode, String.toList_ofList] at h
  obtain ⟨b, -, hc⟩ := List.mem_flatMap.mp h
  have hb := b.toNat_lt
  simp only [pair, List.mem_cons, List.not_mem_nil, or_false] at hc
  rcases hc with rfl | rfl
  · exact hall _ (by omega)
  · exact hall _ (by omega)

/-- What is written is read as the bytes. -/
theorem decode_encode (bytes : List UInt8) : decode (utf8 (encode bytes)) = .ok bytes := by
  have hhalves : ∀ b : UInt8, b.toNat / 16 < 16 ∧ b.toNat % 16 < 16 := by
    intro b
    have hb := b.toNat_lt
    omega
  have hascii : ∀ c ∈ bytes.flatMap pair, c.toNat < 128 := by
    intro c hc
    obtain ⟨b, -, hc⟩ := List.mem_flatMap.mp hc
    simp only [pair, List.mem_cons, List.not_mem_nil, or_false] at hc
    rcases hc with rfl | rfl
    · exact (digit_spec (hhalves b).1).1
    · exact (digit_spec (hhalves b).2).1
  have hpairs : ∀ index, decodePairs index ((bytes.flatMap pair).map fun c => UInt8.ofNat c.toNat) =
      .ok bytes := by
    clear hascii
    induction bytes with
    | nil => intro index; rfl
    | cons b bytes ih =>
      intro index
      have hb : UInt8.ofNat (16 * (b.toNat / 16) + b.toNat % 16) = b := by
        rw [Nat.div_add_mod, UInt8.ofNat_toNat]
      simp only [List.flatMap_cons, pair, List.cons_append, List.nil_append, List.map_cons,
        decodePairs, (digit_spec (hhalves b).1).2, (digit_spec (hhalves b).2).2, ih, hb]
      rfl
  have heven : ((bytes.flatMap pair).map fun c => UInt8.ofNat c.toNat).length % 2 ≠ 1 := by
    rw [List.length_map, length_pairs]
    omega
  rw [encode, utf8_ascii hascii, decode, if_neg heven]
  exact hpairs 0

/-! ### What can be read -/

/-- A digit, in either case. -/
def IsDigit (c : Char) : Prop := c ∈ "0123456789abcdefABCDEF".toList

theorem isDigit_ascii {c : Char} (h : IsDigit c) :
    c.toNat < 128 ∧ (digitValue? (UInt8.ofNat c.toNat)).isSome := by
  have hall : ∀ c ∈ "0123456789abcdefABCDEF".toList,
      c.toNat < 128 ∧ (digitValue? (UInt8.ofNat c.toNat)).isSome := by
    decide
  exact hall c h

theorem decodePairs_of_digits {index : Nat} {digits : List UInt8} (heven : digits.length % 2 = 0)
    (h : ∀ b ∈ digits, (digitValue? b).isSome) : ∃ bytes, decodePairs index digits = .ok bytes := by
  induction index, digits using decodePairs.induct with
  | case1 index => exact ⟨[], rfl⟩
  | case2 index b => cases heven
  | case3 index high low rest hhigh =>
    have hsome := h high (by simp)
    rw [hhigh] at hsome
    cases hsome
  | case4 index high low rest v hv hlow =>
    have hsome := h low (by simp)
    rw [hlow] at hsome
    cases hsome
  | case5 index high low rest v hv w hw ih =>
    have hrest : rest.length % 2 = 0 := by
      simp only [List.length_cons] at heven
      omega
    obtain ⟨bytes, hbytes⟩ := ih hrest fun b hb => h b (by simp [hb])
    exact ⟨UInt8.ofNat (16 * v + w) :: bytes, by simp only [decodePairs, hv, hw, hbytes]; rfl⟩

/-- **A text can be read exactly if it is an even number of digits.** -/
theorem decode_iff {s : String} : (∃ bytes, decode (utf8 s) = .ok bytes) ↔
    s.toList.length % 2 = 0 ∧ ∀ c ∈ s.toList, IsDigit c := by
  constructor
  · rintro ⟨bytes, hbytes⟩
    obtain ⟨hlength, hencode, hascii⟩ := encode_of_decode hbytes
    have hutf8 := utf8_ascii hascii
    rw [String.ofList_toList] at hutf8
    refine ⟨?_, fun c hc => ?_⟩
    · rw [byteLength, hutf8, List.length_map] at hlength
      omega
    · have hall : ∀ n < 128, (Char.ofNat n).toLower ∈ "0123456789abcdef".toList →
          IsDigit (Char.ofNat n) := by
        unfold IsDigit
        decide +kernel
      have hlower : c.toLower ∈ (encode bytes).toList := by
        rw [hencode, String.toList_ofList]
        exact List.mem_map_of_mem hc
      have hdigit := hall c.toNat (hascii c hc)
      rw [Char.ofNat_toNat] at hdigit
      exact hdigit (mem_encode hlower)
  · rintro ⟨heven, hdigits⟩
    have hutf8 := utf8_ascii fun c hc => (isDigit_ascii (hdigits c hc)).1
    rw [String.ofList_toList] at hutf8
    have hlength : (utf8 s).length % 2 = 0 := by rwa [hutf8, List.length_map]
    rw [decode, if_neg (by omega)]
    refine decodePairs_of_digits hlength fun b hb => ?_
    rw [hutf8] at hb
    obtain ⟨c, hc, rfl⟩ := List.mem_map.mp hb
    exact (isDigit_ascii (hdigits c hc)).2

end Hex

end ValidatorAlarm.Text
