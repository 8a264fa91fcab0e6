import Mathlib.Tactic.SplitIfs
import ValidatorAlarm.Text.Bytes

/-!
# UTF-8 there and back

The first byte of a character says how many bytes it has, and the others are told apart from first
bytes.  So the characters of a text are found again in its bytes.
-/
namespace ValidatorAlarm.Text

variable {a b c d : Nat} {rest : List UInt8}

/-! ### Bytes -/

theorem toNat_byte (h : a < 256) : (UInt8.ofNat a).toNat = a := UInt8.toNat_ofNat_of_lt' h

theorem byte_lt_iff (h : a < 256) (limit : UInt8) : UInt8.ofNat a < limit ↔ a < limit.toNat := by
  rw [UInt8.lt_iff_toNat_lt, toNat_byte h]

theorem within_iff (h : a < 256) (low high : UInt8) :
    (low ≤ UInt8.ofNat a && UInt8.ofNat a ≤ high) = true ↔ low.toNat ≤ a ∧ a ≤ high.toNat := by
  rw [Bool.and_eq_true, decide_eq_true_eq, decide_eq_true_eq, UInt8.le_iff_toNat_le,
    UInt8.le_iff_toNat_le, toNat_byte h]

theorem tail_byte (h : a < 64) :
    isTail (UInt8.ofNat (a + 128)) = true ∧ tailBits (UInt8.ofNat (a + 128)) = a := by
  have hbyte : a + 128 < 256 := by omega
  have htail : isTail (UInt8.ofNat (a + 128)) = true := by
    rw [isTail, within_iff hbyte]
    simp only [UInt8.reduceToNat]
    omega
  refine ⟨htail, ?_⟩
  have hvalue := toNat_byte hbyte
  unfold tailBits
  omega

/-! ### One character -/

theorem readChar?_one (ha : a < 128) :
    readChar? (UInt8.ofNat a :: rest) = some (Char.ofNat a, rest) := by
  have hone : UInt8.ofNat a < 0x80 := (byte_lt_iff (by omega) _).mpr ha
  unfold readChar?
  simp only [if_pos hone, toNat_byte (show a < 256 by omega)]

theorem readChar?_two (hleast : 2 ≤ a) (ha : a < 32) (hb : b < 64) :
    readChar? (UInt8.ofNat (a + 192) :: UInt8.ofNat (b + 128) :: rest) =
      some (Char.ofNat (a * 64 + b), rest) := by
  have hbyte : a + 192 < 256 := by omega
  obtain ⟨htail, hbits⟩ := tail_byte hb
  unfold readChar?
  simp only [byte_lt_iff hbyte, within_iff hbyte, UInt8.reduceToNat, toNat_byte hbyte, htail, hbits,
    Nat.add_sub_cancel, if_true]
  rw [if_neg (by omega), if_pos (by omega)]

theorem readChar?_three (ha : a < 16) (hb : b < 64) (hc : c < 64)
    (hleast : 0x800 ≤ (a * 64 + b) * 64 + c)
    (hsurrogate : ¬ (0xD800 ≤ (a * 64 + b) * 64 + c ∧ (a * 64 + b) * 64 + c ≤ 0xDFFF)) :
    readChar? (UInt8.ofNat (a + 224) :: UInt8.ofNat (b + 128) :: UInt8.ofNat (c + 128) :: rest) =
      some (Char.ofNat ((a * 64 + b) * 64 + c), rest) := by
  have hbyte : a + 224 < 256 := by omega
  obtain ⟨htailb, hbitsb⟩ := tail_byte hb
  obtain ⟨htailc, hbitsc⟩ := tail_byte hc
  have hcode : code3 (UInt8.ofNat (a + 224)) (UInt8.ofNat (b + 128)) (UInt8.ofNat (c + 128)) =
      (a * 64 + b) * 64 + c := by
    rw [code3, hbitsb, hbitsc, toNat_byte hbyte, Nat.add_sub_cancel]
  unfold readChar?
  simp only [byte_lt_iff hbyte, within_iff hbyte, UInt8.reduceToNat, htailb, htailc, hcode,
    Bool.true_and, Bool.and_eq_true, Bool.not_eq_true', Bool.and_eq_false_iff, decide_eq_true_eq,
    decide_eq_false_iff_not]
  rw [if_neg (by omega), if_neg (by omega), if_pos (by omega), if_pos (by omega)]

theorem readChar?_four (ha : a < 5) (hb : b < 64) (hc : c < 64) (hd : d < 64)
    (hleast : 0x10000 ≤ ((a * 64 + b) * 64 + c) * 64 + d)
    (hmost : ((a * 64 + b) * 64 + c) * 64 + d ≤ 0x10FFFF) :
    readChar? (UInt8.ofNat (a + 240) :: UInt8.ofNat (b + 128) :: UInt8.ofNat (c + 128) ::
      UInt8.ofNat (d + 128) :: rest) = some (Char.ofNat (((a * 64 + b) * 64 + c) * 64 + d), rest) := by
  have hbyte : a + 240 < 256 := by omega
  obtain ⟨htailb, hbitsb⟩ := tail_byte hb
  obtain ⟨htailc, hbitsc⟩ := tail_byte hc
  obtain ⟨htaild, hbitsd⟩ := tail_byte hd
  have hcode : code4 (UInt8.ofNat (a + 240)) (UInt8.ofNat (b + 128)) (UInt8.ofNat (c + 128))
      (UInt8.ofNat (d + 128)) = ((a * 64 + b) * 64 + c) * 64 + d := by
    rw [code4, hbitsb, hbitsc, hbitsd, toNat_byte hbyte, Nat.add_sub_cancel]
  unfold readChar?
  simp only [byte_lt_iff hbyte, within_iff hbyte, UInt8.reduceToNat, htailb, htailc, htaild, hcode,
    Bool.true_and, Bool.and_eq_true, decide_eq_true_eq]
  rw [if_neg (by omega), if_neg (by omega), if_neg (by omega), if_pos (by omega), if_pos (by omega)]

theorem readChar?_encode (x : Char) :
    readChar? (String.utf8EncodeChar x ++ rest) = some (x, rest) := by
  have hvalid : x.val.toNat < 0xD800 ∨ 0xDFFF < x.val.toNat ∧ x.val.toNat < 0x110000 := x.valid
  have hread : ∀ {n : Nat} {bytes : List UInt8}, readChar? (bytes ++ rest) = some (Char.ofNat n, rest) →
      n = x.val.toNat → readChar? (bytes ++ rest) = some (x, rest) := by
    rintro n bytes h rfl
    rw [h]
    exact congrArg (fun y => some (y, rest)) x.ofNat_toNat
  simp only [String.utf8EncodeChar]
  split_ifs with hone htwo hthree
  · exact hread (readChar?_one (by omega)) rfl
  · exact hread (readChar?_two (by omega) (by omega) (by omega)) (by omega)
  · exact hread (readChar?_three (by omega) (by omega) (by omega) (by omega) (by omega)) (by omega)
  · exact hread (readChar?_four (by omega) (by omega) (by omega) (by omega) (by omega) (by omega))
      (by omega)

/-! ### Texts -/

theorem readUtf8_encode (x : Char) :
    readUtf8 (String.utf8EncodeChar x ++ rest) = some x :: readUtf8 rest := by
  have hread : readChar? (String.utf8EncodeChar x ++ rest) = some (x, rest) := readChar?_encode x
  obtain ⟨first, others, hbytes⟩ := List.exists_cons_of_ne_nil (String.utf8EncodeChar_ne_nil (c := x))
  rw [hbytes, List.cons_append] at hread ⊢
  rw [readUtf8]
  split
  · rename_i y after hfound
    obtain ⟨rfl, rfl⟩ := Prod.mk.inj (Option.some.inj (hfound.symm.trans hread))
    rfl
  · rename_i hnone
    rw [hread] at hnone
    cases hnone

/-- **The characters of a text are found again in its bytes.** -/
theorem readUtf8_utf8 (s : String) : readUtf8 (utf8 s) = s.toList.map some := by
  rw [utf8]
  induction s.toList with
  | nil => rw [List.flatMap_nil, readUtf8, List.map_nil]
  | cons x xs ih => rw [List.flatMap_cons, readUtf8_encode, ih, List.map_cons]

end ValidatorAlarm.Text
