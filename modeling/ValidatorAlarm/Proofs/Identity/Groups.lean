import Mathlib.Data.List.Basic
import Mathlib.Tactic.Ring
import ValidatorAlarm.Proofs.Identity.Address

/-!
# Groups of bits

Letters stand for 5 bits and bytes for 8, so both are ways to write one number: the regrouping takes
the number over and drops or adds bits at its end.  As digits of a given count are known from their
number, regrouping bytes into letters and back gives the bytes, and regrouping letters into bytes and
back gives the letters if the dropped bits are put in again and fill no letter.
-/
namespace ValidatorAlarm.Bech32

/-- The number that digits write, the highest digit first. -/
def number (base : Nat) : List Nat → Nat
  | [] => 0
  | d :: ds => d * base ^ ds.length + number base ds

variable {base : Nat} {ds es : List Nat}

theorem number_lt (h : ∀ d ∈ ds, d < base) : number base ds < base ^ ds.length := by
  induction ds with
  | nil => simp [number]
  | cons d ds ih =>
    rw [List.forall_mem_cons] at h
    have hrest := ih h.2
    have hdigit : (d + 1) * base ^ ds.length ≤ base * base ^ ds.length := Nat.mul_le_mul_right _ h.1
    rw [number, List.length_cons, Nat.pow_succ, Nat.mul_comm _ base]
    rw [Nat.add_mul, Nat.one_mul] at hdigit
    omega

/-- Digits of a given count are known from their number. -/
theorem eq_of_number_eq (hlength : ds.length = es.length) (hds : ∀ d ∈ ds, d < base)
    (hes : ∀ e ∈ es, e < base) (h : number base ds = number base es) : ds = es := by
  induction ds generalizing es with
  | nil => exact (List.length_eq_zero_iff.mp hlength.symm).symm
  | cons d ds ih =>
    match es, hlength with
    | e :: es, hlength =>
      rw [List.forall_mem_cons] at hds hes
      have hrest : ds.length = es.length := Nat.succ.inj hlength
      have hsmalld := number_lt hds.2
      have hsmalle := number_lt hes.2
      rw [number, number, ← hrest] at h
      rw [← hrest] at hsmalle
      -- the first digits are the quotients of the numbers by the power, the others the remainders
      have hfirst := congrArg (· / base ^ ds.length) h
      have hothers := congrArg (· % base ^ ds.length) h
      have hpos : 0 < base ^ ds.length := Nat.zero_lt_of_lt hsmalld
      simp only [Nat.mul_comm _ (base ^ ds.length), Nat.mul_add_div hpos, Nat.div_eq_of_lt hsmalld,
        Nat.div_eq_of_lt hsmalle, Nat.add_zero] at hfirst
      simp only [Nat.mul_comm _ (base ^ ds.length), Nat.mul_add_mod, Nat.mod_eq_of_lt hsmalld,
        Nat.mod_eq_of_lt hsmalle] at hothers
      rw [hfirst, ih hrest hds.2 hes.2 hothers]

/-! ### From letters to bytes -/

theorem pow32 (n : Nat) : 32 ^ n = 2 ^ (5 * n) := by rw [Nat.pow_mul]

theorem pow256 (n : Nat) : 256 ^ n = 2 ^ (8 * n) := by rw [Nat.pow_mul]

/-- The number of the bytes is the number of all bits without those left over. -/
theorem number_toBytes_go {values : List Nat} (hvalues : ∀ v ∈ values, v < 32) (count bits : Nat)
    (hcount : count < 8) (hbits : bits < 2 ^ count) :
    (toBytes.go count bits values).length = (count + 5 * values.length) / 8 ∧
      number 256 ((toBytes.go count bits values).map UInt8.toNat) =
        (bits * 32 ^ values.length + number 32 values) / 2 ^ ((count + 5 * values.length) % 8) := by
  induction values generalizing count bits with
  | nil =>
    have hmod : count % 8 = count := Nat.mod_eq_of_lt hcount
    simp only [toBytes.go, List.map_nil, number, List.length_nil, Nat.mul_zero, Nat.add_zero,
      Nat.pow_zero, Nat.mul_one, hmod, Nat.div_eq_of_lt hbits, and_true]
    omega
  | cons v values ih =>
    rw [List.forall_mem_cons] at hvalues
    have hmore : bits * 32 + v < 2 ^ (count + 5) := by
      rw [Nat.pow_add]
      have h : (bits + 1) * 2 ^ 5 ≤ 2 ^ count * 2 ^ 5 := Nat.mul_le_mul_right _ hbits
      omega
    have htotal : bits * 32 ^ (values.length + 1) + (v * 32 ^ values.length + number 32 values) =
        (bits * 32 + v) * 32 ^ values.length + number 32 values := by ring
    simp only [toBytes.go, number, List.length_cons, htotal, Nat.pow_eq]
    split
    · rename_i hfull
      have hpower : 2 ^ (count + 5) = 256 * 2 ^ (count - 3) := by
        rw [show count + 5 = 8 + (count - 3) by omega, Nat.pow_add]
      have hpos : 0 < 2 ^ (count - 3) := Nat.two_pow_pos _
      have hbyte : (bits * 32 + v) / 2 ^ (count - 3) < 256 := by
        rw [Nat.div_lt_iff_lt_mul hpos, ← hpower]
        exact hmore
      obtain ⟨hlength, hnumber⟩ := ih hvalues.2 (count - 3) ((bits * 32 + v) % 2 ^ (count - 3)) (by omega)
        (Nat.mod_lt _ hpos)
      refine ⟨by rw [List.length_cons, hlength]; omega, ?_⟩
      rw [List.map_cons, number, hnumber, List.length_map, hlength, UInt8.toNat_ofNat_of_lt' hbyte]
      -- `rest` bits are left over, and the bytes behind this one take up `8 * others` bits
      generalize hothers : (count - 3 + 5 * values.length) / 8 = others
      have hleft : (count + 5 * (values.length + 1)) % 8 = (count - 3 + 5 * values.length) % 8 := by omega
      rw [hleft]
      generalize hrest : (count - 3 + 5 * values.length) % 8 = rest
      have hpowers : 2 ^ (count - 3) * 32 ^ values.length = 2 ^ rest * 256 ^ others := by
        rw [pow32, pow256, ← Nat.pow_add, ← Nat.pow_add]
        congr 1
        omega
      have hsplit := Nat.div_add_mod (bits * 32 + v) (2 ^ (count - 3))
      generalize (bits * 32 + v) / 2 ^ (count - 3) = high at hsplit ⊢
      generalize (bits * 32 + v) % 2 ^ (count - 3) = low at hsplit ⊢
      have hwhole : (bits * 32 + v) * 32 ^ values.length + number 32 values =
          2 ^ rest * (high * 256 ^ others) + (low * 32 ^ values.length + number 32 values) := by
        rw [← hsplit, Nat.add_mul, Nat.mul_right_comm, hpowers]
        ring
      rw [hwhole, Nat.mul_add_div (Nat.two_pow_pos rest)]
    · rename_i hfew
      obtain ⟨hlength, hnumber⟩ := ih hvalues.2 (count + 5) (bits * 32 + v) (by omega) hmore
      have hsum : count + 5 * (values.length + 1) = count + 5 + 5 * values.length := by ring
      rw [hsum]
      exact ⟨hlength, hnumber⟩

theorem number_toBytes {values : List Nat} (hvalues : ∀ v ∈ values, v < 32) :
    number 256 ((toBytes values).map UInt8.toNat) = number 32 values / 2 ^ (5 * values.length % 8) := by
  have h := (number_toBytes_go hvalues 0 0 (by decide) (by decide)).2
  rwa [Nat.zero_mul, Nat.zero_add, Nat.zero_add] at h

/-! ### From bytes to letters -/

/-- How many letters write some bits. -/
def lettersFor (bits : Nat) : Nat := (bits + 4) / 5

/-- The number of the letters is the number of the bits with the filler behind it. -/
theorem number_ofBytes_go (filler : Nat) (bytes : List UInt8) (count bits : Nat) (hcount : count < 5)
    (hbits : bits < 2 ^ count) :
    (∀ v ∈ ofBytes.go filler count bits bytes, v < 32) ∧
      (ofBytes.go filler count bits bytes).length = lettersFor (count + 8 * bytes.length) ∧
      number 32 (ofBytes.go filler count bits bytes) =
        (bits * 256 ^ bytes.length + number 256 (bytes.map UInt8.toNat)) *
            2 ^ (5 * lettersFor (count + 8 * bytes.length) - (count + 8 * bytes.length)) +
          filler % 2 ^ (5 * lettersFor (count + 8 * bytes.length) - (count + 8 * bytes.length)) := by
  unfold lettersFor
  induction bytes generalizing count bits with
  | nil =>
    rw [ofBytes.go]
    split
    · rename_i hnone
      subst hnone
      have hzero : bits = 0 := by simpa using hbits
      subst hzero
      exact ⟨nofun, rfl, by simp [number, Nat.mod_one]⟩
    · rename_i hsome
      have hletters : (count + 8 * 0 + 4) / 5 = 1 := by omega
      have hmod : filler % 2 ^ (5 - count) < 2 ^ (5 - count) := Nat.mod_lt _ (Nat.two_pow_pos _)
      have hpower : 2 ^ count * 2 ^ (5 - count) = 32 := by
        rw [← Nat.pow_add, show count + (5 - count) = 5 by omega]
      have hfull : (bits + 1) * 2 ^ (5 - count) ≤ 32 := by
        rw [← hpower]
        exact Nat.mul_le_mul_right _ hbits
      rw [Nat.add_mul, Nat.one_mul] at hfull
      simp only [List.length_nil, hletters, List.map_nil, number, Nat.pow_eq]
      refine ⟨?_, by simp, by simp⟩
      intro v hv
      rw [List.mem_singleton.mp hv]
      omega
  | cons b bytes ih =>
    have hb : b.toNat < 256 := b.toNat_lt
    have hmore : bits * 256 + b.toNat < 2 ^ (count + 8) := by
      rw [Nat.pow_add]
      have h : (bits + 1) * 2 ^ 8 ≤ 2 ^ count * 2 ^ 8 := Nat.mul_le_mul_right _ hbits
      omega
    have htotal : bits * 256 ^ (bytes.length + 1) +
          (b.toNat * 256 ^ bytes.length + number 256 (bytes.map UInt8.toNat)) =
        (bits * 256 + b.toNat) * 256 ^ bytes.length + number 256 (bytes.map UInt8.toNat) := by ring
    simp only [ofBytes.go, List.map_cons, number, List.length_map, List.length_cons, htotal, Nat.pow_eq]
    generalize hall : bits * 256 + b.toNat = all at hmore
    have hfirst : all / 2 ^ (count + 3) < 32 := by
      rw [Nat.div_lt_iff_lt_mul (Nat.two_pow_pos _)]
      calc all < 2 ^ (count + 8) := hmore
        _ = 32 * 2 ^ (count + 3) := by rw [show count + 8 = 5 + (count + 3) by omega, Nat.pow_add]
    -- what is left of the first letter, or of the first two, is written by the others
    split
    · rename_i htwo
      obtain ⟨hsmall, hlength, hnumber⟩ := ih (count - 2) (all % 2 ^ (count - 2)) (by omega)
        (Nat.mod_lt _ (Nat.two_pow_pos _))
      have hletters : (count + 8 * (bytes.length + 1) + 4) / 5 =
          (count - 2 + 8 * bytes.length + 4) / 5 + 2 := by omega
      generalize hothers : (count - 2 + 8 * bytes.length + 4) / 5 = others at *
      have hpad : 5 * (others + 2) - (count + 8 * (bytes.length + 1)) =
          5 * others - (count - 2 + 8 * bytes.length) := by omega
      rw [hletters, hpad]
      refine ⟨?_, by rw [List.length_cons, List.length_cons, hlength], ?_⟩
      · simp only [List.forall_mem_cons]
        exact ⟨hfirst, Nat.mod_lt _ (by decide), hsmall⟩
      · generalize hrest : 5 * others - (count - 2 + 8 * bytes.length) = pad at *
        simp only [number, hnumber, List.length_cons, hlength]
        have hpowers : 32 ^ others = 2 ^ (count - 2) * 256 ^ bytes.length * 2 ^ pad := by
          rw [pow32, pow256, ← Nat.pow_add, ← Nat.pow_add]
          congr 1
          omega
        have hquotient : all / 2 ^ (count + 3) = all / 2 ^ (count - 2) / 32 := by
          rw [Nat.div_div_eq_div_mul, show (32 : Nat) = 2 ^ 5 from rfl, ← Nat.pow_add,
            show count - 2 + 5 = count + 3 by omega]
        have hsplit := Nat.div_add_mod all (2 ^ (count - 2))
        have hletter := Nat.div_add_mod (all / 2 ^ (count - 2)) 32
        rw [hquotient, Nat.pow_succ, hpowers]
        generalize all / 2 ^ (count - 2) = high at hsplit hletter ⊢
        generalize all % 2 ^ (count - 2) = low at hsplit ⊢
        generalize high / 32 = top at hletter ⊢
        generalize high % 32 = next at hletter ⊢
        rw [← hsplit, ← hletter]
        ring
    · rename_i hone
      obtain ⟨hsmall, hlength, hnumber⟩ := ih (count + 3) (all % 2 ^ (count + 3)) (by omega)
        (Nat.mod_lt _ (Nat.two_pow_pos _))
      have hletters : (count + 8 * (bytes.length + 1) + 4) / 5 =
          (count + 3 + 8 * bytes.length + 4) / 5 + 1 := by omega
      generalize hothers : (count + 3 + 8 * bytes.length + 4) / 5 = others at *
      have hpad : 5 * (others + 1) - (count + 8 * (bytes.length + 1)) =
          5 * others - (count + 3 + 8 * bytes.length) := by omega
      rw [hletters, hpad]
      refine ⟨?_, by rw [List.length_cons, hlength], ?_⟩
      · rw [List.forall_mem_cons]
        exact ⟨hfirst, hsmall⟩
      · generalize hrest : 5 * others - (count + 3 + 8 * bytes.length) = pad at *
        rw [number, hnumber, hlength]
        have hpowers : 32 ^ others = 2 ^ (count + 3) * 256 ^ bytes.length * 2 ^ pad := by
          rw [pow32, pow256, ← Nat.pow_add, ← Nat.pow_add]
          congr 1
          omega
        have hsplit := Nat.div_add_mod all (2 ^ (count + 3))
        generalize all / 2 ^ (count + 3) = high at hsplit ⊢
        generalize all % 2 ^ (count + 3) = low at hsplit ⊢
        rw [hpowers, ← hsplit]
        ring

theorem ofBytes_lt (filler : Nat) (bytes : List UInt8) : ∀ v ∈ ofBytes filler bytes, v < 32 :=
  (number_ofBytes_go filler bytes 0 0 (by decide) (by decide)).1

theorem length_ofBytes (filler : Nat) (bytes : List UInt8) :
    (ofBytes filler bytes).length = lettersFor (8 * bytes.length) := by
  have h := (number_ofBytes_go filler bytes 0 0 (by decide) (by decide)).2.1
  rwa [Nat.zero_add] at h

theorem number_ofBytes (filler : Nat) (bytes : List UInt8) :
    number 32 (ofBytes filler bytes) =
      number 256 (bytes.map UInt8.toNat) * 2 ^ (5 * lettersFor (8 * bytes.length) - 8 * bytes.length) +
        filler % 2 ^ (5 * lettersFor (8 * bytes.length) - 8 * bytes.length) := by
  have h := (number_ofBytes_go filler bytes 0 0 (by decide) (by decide)).2.2
  rwa [Nat.zero_mul, Nat.zero_add, Nat.zero_add] at h

/-! ### There and back -/

theorem bytes_eq_of_number_eq {bytes others : List UInt8} (hlength : bytes.length = others.length)
    (h : number 256 (bytes.map UInt8.toNat) = number 256 (others.map UInt8.toNat)) : bytes = others := by
  have hsmall : ∀ bytes : List UInt8, ∀ n ∈ bytes.map UInt8.toNat, n < 256 := by
    intro bytes n hn
    obtain ⟨b, -, rfl⟩ := List.mem_map.mp hn
    exact b.toNat_lt
  have hmap := eq_of_number_eq (by rwa [List.length_map, List.length_map]) (hsmall bytes) (hsmall others) h
  exact List.map_injective_iff.2 (fun _ _ => UInt8.toNat_inj.mp) hmap

/-- **Bytes are found again in their letters.** -/
theorem toBytes_ofBytes (filler : Nat) (bytes : List UInt8) : toBytes (ofBytes filler bytes) = bytes := by
  have hsmall := ofBytes_lt filler bytes
  have hlength := length_ofBytes filler bytes
  have hleft : 5 * (ofBytes filler bytes).length % 8 =
      5 * lettersFor (8 * bytes.length) - 8 * bytes.length := by
    rw [hlength, lettersFor]
    omega
  refine bytes_eq_of_number_eq ?_ ?_
  · rw [length_toBytes, hlength, lettersFor]
    omega
  · rw [number_toBytes hsmall, hleft, number_ofBytes, Nat.mul_comm, Nat.mul_add_div (Nat.two_pow_pos _),
      Nat.div_eq_of_lt (Nat.mod_lt _ (Nat.two_pow_pos _)), Nat.add_zero]

/-- **Letters are found again in their bytes and the bits that were left over**, if those are too few
for a letter. -/
theorem ofBytes_toBytes {values : List Nat} (hvalues : ∀ v ∈ values, v < 32)
    (hleft : 5 * values.length % 8 < 5) :
    ofBytes (number 32 values % 2 ^ (5 * values.length % 8)) (toBytes values) = values := by
  have hbytes := length_toBytes values
  have hletters : lettersFor (8 * (toBytes values).length) = values.length := by
    rw [hbytes, lettersFor]
    omega
  have hpad : 5 * values.length - 8 * (toBytes values).length = 5 * values.length % 8 := by
    rw [hbytes]
    omega
  refine eq_of_number_eq ?_ (ofBytes_lt _ _) hvalues ?_
  · rw [length_ofBytes, hletters]
  · rw [number_ofBytes, hletters, hpad, number_toBytes hvalues, Nat.mod_mod, Nat.mul_comm,
      Nat.div_add_mod]

end ValidatorAlarm.Bech32
