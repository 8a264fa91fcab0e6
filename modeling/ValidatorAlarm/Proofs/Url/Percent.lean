import ValidatorAlarm.Proofs.Text.Form
import ValidatorAlarm.Url.Percent

/-!
# Encoded texts

What has been encoded once is not encoded again, since the signs of an encoding are reserved nowhere but
in single segments; and there, where the percent sign is reserved too, the bytes of a text are found
again in its encoding.
-/
namespace ValidatorAlarm.Url

open Text.Form (capitalDigit digits_percent percent)

variable {reserved other text rest : List Char} {c : Char}

/-- Nothing in the text has to be encoded. -/
def Fixed (reserved text : List Char) : Prop := ∀ c ∈ text, isReserved reserved c = false

instance (reserved text : List Char) : Decidable (Fixed reserved text) :=
  inferInstanceAs (Decidable (∀ c ∈ text, isReserved reserved c = false))

/-- The characters of encoded bytes. -/
def percentChars : List Char := '%' :: (List.range 16).map capitalDigit

theorem mem_percentChars {b : UInt8} (h : c ∈ percent b) : c ∈ percentChars := by
  have hb := b.toNat_lt
  have hdigit : ∀ n < 16, capitalDigit n ∈ percentChars := fun n hn =>
    List.mem_cons_of_mem _ (List.mem_map_of_mem (List.mem_range.mpr hn))
  simp only [percent, List.mem_cons, List.not_mem_nil, or_false] at h
  rcases h with rfl | rfl | rfl
  · exact List.mem_cons_self
  · exact hdigit _ (by omega)
  · exact hdigit _ (by omega)

/-- Where the characters of an encoding come from. -/
theorem mem_encode (h : c ∈ encode reserved text) :
    c ∈ percentChars ∨ c ∈ text ∧ isReserved reserved c = false := by
  obtain ⟨d, hd, hc⟩ := List.mem_flatMap.mp h
  unfold encodeChar at hc
  split at hc
  · obtain ⟨b, -, hc⟩ := List.mem_flatMap.mp hc
    exact .inl (mem_percentChars hc)
  · rename_i hfree
    rw [List.mem_singleton.mp hc]
    exact .inr ⟨hd, Bool.eq_false_iff.mpr hfree⟩

theorem isReserved_of_subset (hsubset : reserved ⊆ other) (h : isReserved other c = false) :
    isReserved reserved c = false := by
  simp only [isReserved, Bool.or_eq_false_iff, List.contains_eq_mem, decide_eq_false_iff_not] at h ⊢
  exact ⟨h.1, fun hmem => h.2 (hsubset hmem)⟩

theorem notMem_of_fixed (h : Fixed reserved text) (hc : c ∈ reserved) : c ∉ text := by
  intro hmem
  have hfree := h c hmem
  rw [isReserved, List.contains_iff_mem.mpr hc, Bool.or_true] at hfree
  cases hfree

theorem fixed_encode (hsubset : reserved ⊆ other) (hsigns : Fixed reserved percentChars) (text : List Char) :
    Fixed reserved (encode other text) := by
  intro c hc
  rcases mem_encode hc with hsign | ⟨-, hfree⟩
  · exact hsigns c hsign
  · exact isReserved_of_subset hsubset hfree

/-- What does not have to be encoded stays as it is. -/
theorem encode_of_fixed (h : Fixed reserved text) : encode reserved text = text := by
  have heach : ∀ c ∈ text, encodeChar reserved c = [c] := fun c hc => by
    rw [encodeChar, if_neg (by rw [h c hc]; decide)]
  rw [encode, List.flatMap_congr heach, List.flatMap_singleton']

/-! ### Decoding -/

theorem decode_percent (b : UInt8) (rest : List Char) : decode (percent b ++ rest) = b :: decode rest := by
  obtain ⟨hhigh, hlow, hbyte⟩ := digits_percent b
  simp only [percent, List.cons_append, List.nil_append, decode, hhigh, hlow, hbyte]

theorem decode_percents (bytes : List UInt8) (rest : List Char) :
    decode (bytes.flatMap percent ++ rest) = bytes ++ decode rest := by
  induction bytes with
  | nil => rfl
  | cons b bytes ih => rw [List.flatMap_cons, List.append_assoc, decode_percent, ih, List.cons_append]

theorem decode_cons (h : c ≠ '%') : decode (c :: rest) = String.utf8EncodeChar c ++ decode rest := by
  rw [decode]
  rintro _ _ _ rfl
  exact absurd rfl h

theorem decode_of_notMem (h : '%' ∉ text) : decode text = text.flatMap String.utf8EncodeChar := by
  induction text with
  | nil => rfl
  | cons c text ih =>
    rw [List.mem_cons, not_or] at h
    rw [decode_cons (Ne.symm h.1), ih h.2, List.flatMap_cons]

/-- **The bytes of a text are found again in its encoding**, where the percent sign is reserved. -/
theorem decode_encode (h : '%' ∈ reserved) (text : List Char) :
    decode (encode reserved text) = text.flatMap String.utf8EncodeChar := by
  induction text with
  | nil => rfl
  | cons c text ih =>
    rw [encode, List.flatMap_cons, ← encode, List.flatMap_cons, ← ih, encodeChar]
    split
    · rw [decode_percents]
    · rename_i hfree
      refine decode_cons ?_
      rintro rfl
      rw [isReserved, List.contains_iff_mem.mpr h, Bool.or_true] at hfree
      exact hfree rfl

/-- A text is known from the bytes of its encoding. -/
theorem eq_of_decode_encode (reserved : List Char) {key key' : List Char} (h : '%' ∈ reserved)
    (heq : decode (encode reserved key) = decode (encode reserved key')) : key = key' := by
  rw [decode_encode h, decode_encode h] at heq
  have hbytes : Text.utf8 (String.ofList key) = Text.utf8 (String.ofList key') := by
    rw [Text.utf8, Text.utf8, String.toList_ofList, String.toList_ofList, heq]
  have hread := congrArg Text.readUtf8 hbytes
  rw [Text.readUtf8_utf8, Text.readUtf8_utf8, String.toList_ofList, String.toList_ofList] at hread
  exact List.map_injective_iff.mpr (fun _ _ => Option.some.inj) hread

end ValidatorAlarm.Url
