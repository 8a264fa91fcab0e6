import Mathlib.Tactic.SplitIfs
import ValidatorAlarm.Text.Base64

/-!
# Base64 there and back

A letter stands for one value, so what is written is read as the bytes that were written.  Nothing else
is read at all: where padding is missing, where a bit that it covers is set, or where there is anything
between the letters, the text is not what is written for any bytes.
-/
namespace ValidatorAlarm.Text.Base64

/-! ### Letters -/

theorem value?_letter {n : Nat} (h : n < 64) : value? (letter n) = some n ∧ letter n ≠ '=' := by
  have hall : ∀ n < 64, value? (letter n) = some n ∧ letter n ≠ '=' := by decide
  exact hall n h

theorem value?_spec {c : Char} {n : Nat} (h : value? c = some n) : n < 64 ∧ c = letter n := by
  have hall : ∀ k < 128, ∀ n ∈ value? (Char.ofNat k), n < 64 ∧ Char.ofNat k = letter n := by
    decide
  have hsmall : c.toNat < 128 := by
    simp only [value?, Bool.and_eq_true, decide_eq_true_eq] at h
    split_ifs at h <;> omega
  have hc := hall c.toNat hsmall
  rw [Char.ofNat_toNat] at hc
  exact hc n h

/-! ### Reading what was written -/

theorem byte_eq {n : Nat} {b : UInt8} (h : n = b.toNat) : UInt8.ofNat n = b := by
  rw [h, UInt8.ofNat_toNat]

theorem decode?_encode (bytes : List UInt8) : decode? (encode bytes) = some bytes := by
  induction bytes using encode.induct with
  | case1 => rfl
  | case2 a =>
    have ha := a.toNat_lt
    have hp := (value?_letter (n := a.toNat / 4) (by omega)).1
    have hq := (value?_letter (n := a.toNat % 4 * 16) (by omega)).1
    have hbits : a.toNat % 4 * 16 % 16 = 0 := by omega
    have hfirst : UInt8.ofNat (a.toNat / 4 * 4 + a.toNat % 4 * 16 / 16) = a := byte_eq (by omega)
    simp only [encode, decode?, hp, hq, Option.bind_eq_bind, Option.bind_some, if_pos hbits, hfirst]
  | case3 a b =>
    have ha := a.toNat_lt
    have hb := b.toNat_lt
    have hp := (value?_letter (n := a.toNat / 4) (by omega)).1
    have hq := (value?_letter (n := a.toNat % 4 * 16 + b.toNat / 16) (by omega)).1
    obtain ⟨hr, hpad⟩ := value?_letter (n := b.toNat % 16 * 4) (by omega)
    have hbits : b.toNat % 16 * 4 % 4 = 0 := by omega
    have hfirst : UInt8.ofNat (a.toNat / 4 * 4 + (a.toNat % 4 * 16 + b.toNat / 16) / 16) = a :=
      byte_eq (by omega)
    have hsecond : UInt8.ofNat ((a.toNat % 4 * 16 + b.toNat / 16) % 16 * 16 +
        b.toNat % 16 * 4 / 4) = b := byte_eq (by omega)
    rw [encode, decode?]
    · simp only [hp, hq, hr, Option.bind_eq_bind, Option.bind_some, if_pos hbits, hfirst, hsecond]
    · exact hpad
  | case4 a b c rest ih =>
    have ha := a.toNat_lt
    have hb := b.toNat_lt
    have hc := c.toNat_lt
    have hp := (value?_letter (n := a.toNat / 4) (by omega)).1
    have hq := (value?_letter (n := a.toNat % 4 * 16 + b.toNat / 16) (by omega)).1
    have hr := (value?_letter (n := b.toNat % 16 * 4 + c.toNat / 64) (by omega)).1
    obtain ⟨hs, hpad⟩ := value?_letter (n := c.toNat % 64) (by omega)
    have hfirst : UInt8.ofNat (a.toNat / 4 * 4 + (a.toNat % 4 * 16 + b.toNat / 16) / 16) = a :=
      byte_eq (by omega)
    have hsecond : UInt8.ofNat ((a.toNat % 4 * 16 + b.toNat / 16) % 16 * 16 +
        (b.toNat % 16 * 4 + c.toNat / 64) / 4) = b := byte_eq (by omega)
    have hthird : UInt8.ofNat ((b.toNat % 16 * 4 + c.toNat / 64) % 4 * 64 + c.toNat % 64) = c :=
      byte_eq (by omega)
    rw [encode, decode?]
    · simp only [hp, hq, hr, hs, ih, Option.bind_eq_bind, Option.bind_some, hfirst, hsecond, hthird]
    · exact fun _ h _ => hpad h
    · exact fun h _ => hpad h

/-! ### Writing what was read -/

theorem eq_encode_of_decode? {text : List Char} {bytes : List UInt8} (h : decode? text = some bytes) :
    text = encode bytes := by
  have hbyte : ∀ {n : Nat}, n < 256 → (UInt8.ofNat n).toNat = n := UInt8.toNat_ofNat_of_lt'
  induction text using decode?.induct generalizing bytes with
  | case1 =>
    cases h
    rfl
  | case2 w x =>
    simp only [decode?, Option.bind_eq_bind, Option.bind_eq_some_iff] at h
    obtain ⟨p, hp, q, hq, h⟩ := h
    obtain ⟨hp64, rfl⟩ := value?_spec hp
    obtain ⟨hq64, rfl⟩ := value?_spec hq
    split at h
    · rename_i hbits
      cases h
      have hhigh : (p * 4 + q / 16) / 4 = p := by omega
      have hlow : (p * 4 + q / 16) % 4 * 16 = q := by omega
      rw [encode, hbyte (by omega), hhigh, hlow]
    · cases h
  | case3 w x y hpad =>
    rw [decode?] at h
    · simp only [Option.bind_eq_bind, Option.bind_eq_some_iff] at h
      obtain ⟨p, hp, q, hq, r, hr, h⟩ := h
      obtain ⟨hp64, rfl⟩ := value?_spec hp
      obtain ⟨hq64, rfl⟩ := value?_spec hq
      obtain ⟨hr64, rfl⟩ := value?_spec hr
      split at h
      · rename_i hbits
        cases h
        have hhigh : (p * 4 + q / 16) / 4 = p := by omega
        have hmiddle : (p * 4 + q / 16) % 4 * 16 + (q % 16 * 16 + r / 4) / 16 = q := by omega
        have hlow : (q % 16 * 16 + r / 4) % 16 * 4 = r := by omega
        rw [encode, hbyte (by omega), hbyte (by omega), hhigh, hmiddle, hlow]
      · cases h
    · exact hpad
  | case4 w x y z rest hnone hpad ih =>
    rw [decode?] at h
    · simp only [Option.bind_eq_bind, Option.bind_eq_some_iff] at h
      obtain ⟨p, hp, q, hq, r, hr, s, hs, tail, htail, h⟩ := h
      obtain ⟨hp64, rfl⟩ := value?_spec hp
      obtain ⟨hq64, rfl⟩ := value?_spec hq
      obtain ⟨hr64, rfl⟩ := value?_spec hr
      obtain ⟨hs64, rfl⟩ := value?_spec hs
      cases h
      have h1 : (p * 4 + q / 16) / 4 = p := by omega
      have h2 : (p * 4 + q / 16) % 4 * 16 + (q % 16 * 16 + r / 4) / 16 = q := by omega
      have h3 : (q % 16 * 16 + r / 4) % 16 * 4 + (r % 4 * 64 + s) / 64 = r := by omega
      have h4 : (r % 4 * 64 + s) % 64 = s := by omega
      rw [encode, hbyte (by omega), hbyte (by omega), hbyte (by omega), h1, h2, h3, h4, ← ih htail]
    · exact hnone
    · exact hpad
  | case5 text => simp [decode?] at h

/-- **Reading accepts what is written, and nothing else.** -/
theorem decode?_eq_some_iff {text : List Char} {bytes : List UInt8} :
    decode? text = some bytes ↔ text = encode bytes :=
  ⟨eq_encode_of_decode?, fun h => h ▸ decode?_encode bytes⟩

end ValidatorAlarm.Text.Base64
