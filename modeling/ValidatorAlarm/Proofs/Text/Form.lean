import ValidatorAlarm.Proofs.Text.Hex
import ValidatorAlarm.Proofs.Text.Parts
import ValidatorAlarm.Proofs.Text.Utf8

/-!
# Form encoding there and back

A name or value is written with letters, digits and six signs, and neither `&` nor `=` is among these.  So
the separators of a query are those that were put between names and values, whatever these are, and every
pair is found again, in its place and with all its characters.
-/
namespace ValidatorAlarm.Text

theorem ofUtf8?_utf8 (s : String) : ofUtf8? (utf8 s) = some s := by
  have hread : (s.toList.map some).mapM id = some s.toList := mapM_map_eq_some fun _ _ => rfl
  rw [ofUtf8?, readUtf8_utf8, hread]
  exact congrArg some String.ofList_toList

namespace Form

/-! ### The characters of a query -/

/-- The signs that stand in names and values. -/
def signs : List Char := ['*', '-', '.', '_', '+', '%']

/-- The characters of encoded names and values. -/
def IsEncoded (c : Char) : Prop := c.isAlphanum = true ∨ c ∈ signs

instance (c : Char) : Decidable (IsEncoded c) := inferInstanceAs (Decidable (_ ∨ _))

theorem isEncoded_encodeByte (b : UInt8) : ∀ c ∈ encodeByte b, IsEncoded c := by
  have hall : ∀ n < 256, ∀ c ∈ encodeByte (UInt8.ofNat n), IsEncoded c := by decide +kernel
  have hb := hall b.toNat b.toNat_lt
  rwa [UInt8.ofNat_toNat] at hb

theorem isEncoded_encodeText (s : String) : ∀ c ∈ encodeText s, IsEncoded c := by
  intro c hc
  obtain ⟨b, -, hc⟩ := List.mem_flatMap.mp hc
  exact isEncoded_encodeByte b c hc

theorem notMem_encodeText {c : Char} (h : ¬ IsEncoded c) (s : String) : c ∉ encodeText s :=
  fun hc => h (isEncoded_encodeText s c hc)

theorem isEncoded_encodePair (pair : String × String) : ∀ c ∈ encodePair pair, IsEncoded c ∨ c = '=' := by
  intro c hc
  rw [encodePair, List.mem_append, List.mem_cons] at hc
  rcases hc with hname | hequals | hvalue
  · exact .inl (isEncoded_encodeText pair.1 c hname)
  · exact .inr hequals
  · exact .inl (isEncoded_encodeText pair.2 c hvalue)

/-- The characters of a query. -/
theorem mem_encode {pairs : List (String × String)} {c : Char} (h : c ∈ (encode pairs).toList) :
    IsEncoded c ∨ c = '=' ∨ c = '&' := by
  rw [encode, String.toList_ofList] at h
  refine forall_mem_intercalate (P := fun c => IsEncoded c ∨ c = '=' ∨ c = '&') ?_ (.inr (.inr rfl)) c h
  intro part hpart c hc
  obtain ⟨pair, -, rfl⟩ := List.mem_map.mp hpart
  exact (isEncoded_encodePair pair c hc).imp_right .inl

/-! ### Bytes -/

theorem digitValue?_capitalDigit {n : Nat} (h : n < 16) : digitValue? (capitalDigit n) = some n := by
  have hall : ∀ n < 16, digitValue? (capitalDigit n) = some n := by decide
  exact hall n h

/-- The two digits of an escaped byte are read, and make the byte. -/
theorem digits_percent (b : UInt8) :
    digitValue? (capitalDigit (b.toNat / 16)) = some (b.toNat / 16) ∧
      digitValue? (capitalDigit (b.toNat % 16)) = some (b.toNat % 16) ∧
      UInt8.ofNat (16 * (b.toNat / 16) + b.toNat % 16) = b := by
  have hb := b.toNat_lt
  refine ⟨digitValue?_capitalDigit (by omega), digitValue?_capitalDigit (by omega), ?_⟩
  rw [Nat.div_add_mod, UInt8.ofNat_toNat]

theorem decodeBytes_cons {c : Char} (hplus : c ≠ '+') (hpercent : c ≠ '%') (rest : List Char) :
    decodeBytes (c :: rest) = String.utf8EncodeChar c ++ decodeBytes rest := by
  rw [decodeBytes]
  · exact hplus
  · rintro _ _ _ rfl
    exact absurd rfl hpercent

theorem decodeBytes_percent (b : UInt8) (rest : List Char) :
    decodeBytes (percent b ++ rest) = b :: decodeBytes rest := by
  obtain ⟨hhigh, hlow, hbyte⟩ := digits_percent b
  simp only [percent, List.cons_append, List.nil_append, decodeBytes, hhigh, hlow, hbyte]

/-- A byte that stands for itself is an ASCII character, and none that stands for something else. -/
theorem isPlain_spec {b : UInt8} (h : isPlain b = true) :
    String.utf8EncodeChar (Char.ofNat b.toNat) = [b] ∧ Char.ofNat b.toNat ≠ '+' ∧
      Char.ofNat b.toNat ≠ '%' := by
  have hall : ∀ n < 256, isPlain (UInt8.ofNat n) = true →
      (Char.ofNat n).toNat = n ∧ n < 128 ∧ Char.ofNat n ≠ '+' ∧ Char.ofNat n ≠ '%' := by decide +kernel
  have hb := hall b.toNat b.toNat_lt
  rw [UInt8.ofNat_toNat] at hb
  obtain ⟨hvalue, hsmall, hplus, hpercent⟩ := hb h
  refine ⟨?_, hplus, hpercent⟩
  rw [utf8EncodeChar_ascii (by omega), hvalue, UInt8.ofNat_toNat]

theorem decodeBytes_encodeByte (b : UInt8) (rest : List Char) :
    decodeBytes (encodeByte b ++ rest) = b :: decodeBytes rest := by
  unfold encodeByte
  split
  · rename_i hplain
    obtain ⟨hbytes, hplus, hpercent⟩ := isPlain_spec hplain
    rw [List.singleton_append, decodeBytes_cons hplus hpercent, hbytes, List.singleton_append]
  · split
    · rename_i hspace
      rw [List.singleton_append, decodeBytes, hspace]
    · exact decodeBytes_percent b rest

theorem decodeBytes_encodeText (s : String) : decodeBytes (encodeText s) = utf8 s := by
  rw [encodeText]
  induction utf8 s with
  | nil => rfl
  | cons b bytes ih => rw [List.flatMap_cons, decodeBytes_encodeByte, ih]

/-! ### Pairs -/

/-- A pair is found again: its name has no `=`, so the first one ends it. -/
theorem decodePair?_encodePair (pair : String × String) : decodePair? (encodePair pair) = some pair := by
  have hname : ∀ c ∈ encodeText pair.1, (c != '=') = true :=
    bne_of_notMem (notMem_encodeText (by decide) pair.1)
  obtain ⟨htake, hdrop⟩ := span_stop (c := '=') (encodeText pair.2) hname rfl
  rw [decodePair?, encodePair, htake, hdrop, List.drop_one, List.tail_cons, decodeBytes_encodeText,
    decodeBytes_encodeText, ofUtf8?_utf8, ofUtf8?_utf8]
  rfl

theorem notMem_encodePair (pair : String × String) : '&' ∉ encodePair pair := by
  intro hmem
  rcases isEncoded_encodePair pair '&' hmem with hencoded | hequals
  · exact absurd hencoded (by decide)
  · exact absurd hequals (by decide)

/-- **The pairs of a query are found again**, all of them and in their order. -/
theorem decode?_encode (pairs : List (String × String)) : decode? (encode pairs) = some pairs := by
  have hfilter : (splitAt '&' (List.intercalate ['&'] (pairs.map encodePair))).filter (!·.isEmpty) =
      pairs.map encodePair := by
    cases pairs with
    | nil => rfl
    | cons pair pairs =>
      rw [splitAt_intercalate _ (by simp)]
      · refine List.filter_eq_self.mpr fun part hpart => ?_
        obtain ⟨pair, -, rfl⟩ := List.mem_map.mp hpart
        simp [encodePair]
      · intro part hpart
        obtain ⟨pair, -, rfl⟩ := List.mem_map.mp hpart
        exact notMem_encodePair pair
  rw [decode?, encode, String.toList_ofList, hfilter]
  exact mapM_map_eq_some fun pair _ => decodePair?_encodePair pair

/-- What would separate names and values is escaped where it stands in them. -/
example : encode [("a b", "=&+%"), ("", "ä")] = "a+b=%3D%26%2B%25&=%C3%A4" := by decide

theorem encode_injective : Function.Injective encode := by
  intro pairs others h
  have hdecode := decode?_encode pairs
  rw [h, decode?_encode] at hdecode
  exact (Option.some.inj hdecode).symm

end Form

end ValidatorAlarm.Text
