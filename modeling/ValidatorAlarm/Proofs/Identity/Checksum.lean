import ValidatorAlarm.Proofs.Identity.Groups

/-!
# The checksum

The register of the checksum is linear: feeding values into the exclusive or of two registers gives the
exclusive or of what they would become.  Hence three facts.  The six values of the writer give a text
the residue of its form.  No other six values do.  And if one value of a text is exchanged for another,
the residue changes by something that depends only on the difference of the two and on how many values
follow; for as many values as an address has, this is neither nothing nor the difference between the two
forms.
-/
namespace ValidatorAlarm.Bech32

/-! ### The register is linear -/

/-- What a bit of the register folds back into it. -/
def pick (bit : Bool) (g : BitVec 30) : BitVec 30 := if bit then g else 0#30

theorem pick_xor (a b : Bool) (g : BitVec 30) : pick (a ^^ b) g = pick a g ^^^ pick b g := by
  cases a <;> cases b <;> simp [pick]

theorem fold_eq (top : BitVec 30) : fold top =
    pick (top.getLsbD 0) 0x3b6a57b2#30 ^^^ pick (top.getLsbD 1) 0x26508e6d#30 ^^^
      pick (top.getLsbD 2) 0x1ea119fa#30 ^^^ pick (top.getLsbD 3) 0x3d4233dd#30 ^^^
      pick (top.getLsbD 4) 0x2a1462b3#30 := by
  have hpick : ∀ (acc g : BitVec 30) (bit : Bool), (if bit then acc ^^^ g else acc) = acc ^^^ pick bit g := by
    intro acc g bit
    cases bit <;> simp [pick]
  have hrange : List.range 5 = [0, 1, 2, 3, 4] := rfl
  simp only [fold, generators, hrange, List.zip_cons_cons, List.zip_nil_left, List.foldl_cons,
    List.foldl_nil, hpick, BitVec.zero_xor]

theorem fold_xor (a b : BitVec 30) : fold (a ^^^ b) = fold a ^^^ fold b := by
  simp only [fold_eq, BitVec.getLsbD_xor, pick_xor]
  ac_rfl

/-- The register after one more place that holds zero. -/
def shifted (register : BitVec 30) : BitVec 30 := (register <<< 5) ^^^ fold (register >>> 25)

theorem shifted_xor (a b : BitVec 30) : shifted (a ^^^ b) = shifted a ^^^ shifted b := by
  simp only [shifted, BitVec.shiftLeft_xor_distrib, BitVec.ushiftRight_xor_distrib, fold_xor]
  ac_rfl

theorem feed_eq (register : BitVec 30) (v : Nat) : feed register v = shifted register ^^^ BitVec.ofNat 30 v := by
  unfold feed shifted
  ac_rfl

/-- The register after some more places that hold zero. -/
def shiftedBy : Nat → BitVec 30 → BitVec 30
  | 0, register => register
  | n + 1, register => shiftedBy n (shifted register)

theorem shiftedBy_xor (n : Nat) (a b : BitVec 30) : shiftedBy n (a ^^^ b) = shiftedBy n a ^^^ shiftedBy n b := by
  induction n generalizing a b with
  | zero => rfl
  | succ n ih => rw [shiftedBy, shiftedBy, shiftedBy, shifted_xor, ih]

/-- The register after some values, starting from any. -/
def fedFrom (register : BitVec 30) (values : List Nat) : BitVec 30 := values.foldl feed register

theorem residue_append (front back : List Nat) : residue (front ++ back) = fedFrom (residue front) back :=
  List.foldl_append

/-- **A difference in the register is carried on**, whatever is fed. -/
theorem fedFrom_xor (register difference : BitVec 30) (values : List Nat) :
    fedFrom (register ^^^ difference) values = fedFrom register values ^^^ shiftedBy values.length difference := by
  induction values generalizing register difference with
  | nil => rfl
  | cons v values ih =>
    have hfed : feed (register ^^^ difference) v = feed register v ^^^ shifted difference := by
      rw [feed_eq, feed_eq, shifted_xor]
      ac_rfl
    have hrest := ih (feed register v) (shifted difference)
    rw [← hfed] at hrest
    exact hrest

theorem fedFrom_zeros (register : BitVec 30) (n : Nat) :
    fedFrom register (List.replicate n 0) = shiftedBy n register := by
  induction n generalizing register with
  | zero => rfl
  | succ n ih =>
    have hfed : feed register 0 = shifted register := by
      rw [feed_eq]
      exact BitVec.xor_zero
    have hrest := ih (feed register 0)
    rw [hfed] at hrest
    rw [List.replicate_succ, shiftedBy, ← hrest, ← hfed]
    rfl

/-- What six values add to the register of the values before them. -/
theorem fedFrom_six (register : BitVec 30) {cs : List Nat} (hcs : cs.length = 6) :
    fedFrom register cs = fedFrom 0#30 cs ^^^ fedFrom register (List.replicate 6 0) := by
  have h := fedFrom_xor 0#30 register cs
  rwa [BitVec.zero_xor, hcs, ← fedFrom_zeros] at h

/-! ### Up to six values -/

/-- A register with room for one more value simply takes it in. -/
theorem feed_small {register : BitVec 30} {v : Nat} (hroom : register.toNat < 2 ^ 25) (hv : v < 32) :
    (feed register v).toNat = register.toNat * 32 + v := by
  have hnone : register >>> 25 = 0#30 := by
    apply BitVec.eq_of_toNat_eq
    rw [BitVec.toNat_ushiftRight, Nat.shiftRight_eq_div_pow, Nat.div_eq_of_lt hroom]
    rfl
  have hfold : fold 0#30 = 0#30 := by decide
  have hshift : (register <<< 5).toNat = 2 ^ 5 * register.toNat := by
    rw [BitVec.toNat_shiftLeft, Nat.shiftLeft_eq, Nat.mod_eq_of_lt (by omega), Nat.mul_comm]
  have hvalue : (BitVec.ofNat 30 v).toNat = v := by
    rw [BitVec.toNat_ofNat]
    omega
  have hsum : (2 ^ 5 * register.toNat) ^^^ v = 2 ^ 5 * register.toNat + v := by
    apply Nat.eq_of_testBit_eq
    intro i
    rw [Nat.testBit_xor, Nat.testBit_two_pow_mul_add _ (by omega : v < 2 ^ 5), Nat.testBit_two_pow_mul]
    by_cases hi : i < 5
    · simp [hi, Nat.not_le_of_lt hi]
    · have hpower : (2 : Nat) ^ 5 ≤ 2 ^ i := Nat.pow_le_pow_right (by omega) (by omega)
      have hhigh : v.testBit i = false := Nat.testBit_lt_two_pow (Nat.lt_of_lt_of_le hv hpower)
      simp [hi, hhigh, Nat.le_of_not_lt hi]
  rw [feed_eq, shifted, hnone, hfold, BitVec.xor_zero, BitVec.toNat_xor, hshift, hvalue, hsum]
  omega

/-- As long as nothing leaves it, the register holds the number of the values. -/
theorem fedFrom_number {register : BitVec 30} {cs : List Nat} (hsmall : ∀ c ∈ cs, c < 32) {room : Nat}
    (hroom : register.toNat < 32 ^ room) (hfits : room + cs.length ≤ 6) :
    (fedFrom register cs).toNat = register.toNat * 32 ^ cs.length + number 32 cs := by
  induction cs generalizing register room with
  | nil => simp [fedFrom, number]
  | cons c cs ih =>
    rw [List.forall_mem_cons] at hsmall
    rw [List.length_cons] at hfits
    have hleast : (32 : Nat) ^ room ≤ 32 ^ 5 := Nat.pow_le_pow_right (by decide) (by omega)
    have hfed := feed_small (by omega : register.toNat < 2 ^ 25) hsmall.1
    have hnext : (feed register c).toNat < 32 ^ (room + 1) := by
      rw [hfed, Nat.pow_succ]
      omega
    have hrest := ih hsmall.2 hnext (by omega)
    rw [hfed] at hrest
    have hstart : fedFrom register (c :: cs) = fedFrom (feed register c) cs := rfl
    rw [hstart, hrest, number, List.length_cons]
    ring

theorem fedFrom_zero_number {cs : List Nat} (hsmall : ∀ c ∈ cs, c < 32) (hcs : cs.length = 6) :
    (fedFrom 0#30 cs).toNat = number 32 cs := by
  have hempty : (0#30).toNat < 32 ^ 0 := by decide
  have h := fedFrom_number hsmall hempty (by omega)
  rwa [BitVec.toNat_zero, Nat.zero_mul, Nat.zero_add] at h

/-! ### The six values of a text -/

variable (form : Form) (label : List Char) (values : List Nat)

/-- What is missing for the residue of the form. -/
def missing : BitVec 30 := residue (expand label ++ values ++ List.replicate 6 0) ^^^ form.target

theorem length_checksum : (checksum form label values).length = 6 := rfl

theorem checksum_lt : ∀ c ∈ checksum form label values, c < 32 := by
  intro c hc
  obtain ⟨shift, -, rfl⟩ := List.mem_map.mp hc
  exact Nat.mod_lt _ (by decide)

theorem number_checksum : number 32 (checksum form label values) = (missing form label values).toNat := by
  have hbound := (missing form label values).isLt
  have hregister : residue (expand label ++ values ++ List.replicate 6 0) ^^^ form.target =
      missing form label values := rfl
  simp only [checksum, hregister, List.map_cons, List.map_nil, number, List.length_cons, List.length_nil,
    BitVec.toNat_ushiftRight, Nat.shiftRight_eq_div_pow]
  omega

/-- Six values give the residue of the form exactly if they add what is missing. -/
theorem residue_eq_target_iff {cs : List Nat} (hcs : cs.length = 6) :
    residue (expand label ++ values ++ cs) = form.target ↔ fedFrom 0#30 cs = missing form label values := by
  have hzeros : missing form label values =
      fedFrom (residue (expand label ++ values)) (List.replicate 6 0) ^^^ form.target := by
    rw [missing, residue_append (expand label ++ values)]
  rw [residue_append, fedFrom_six _ hcs, hzeros]
  constructor
  · intro h
    rw [← h, BitVec.xor_comm (fedFrom 0#30 cs), ← BitVec.xor_assoc, BitVec.xor_self, BitVec.zero_xor]
  · intro h
    rw [h, BitVec.xor_assoc, BitVec.xor_comm form.target, ← BitVec.xor_assoc, BitVec.xor_self,
      BitVec.zero_xor]

/-- **The checksum is right, and nothing else in its place is.** -/
theorem residue_iff {cs : List Nat} (hcs : cs.length = 6) (hsmall : ∀ c ∈ cs, c < 32) :
    residue (expand label ++ values ++ cs) = form.target ↔ cs = checksum form label values := by
  rw [residue_eq_target_iff form label values hcs, ← BitVec.toNat_inj, fedFrom_zero_number hsmall hcs,
    ← number_checksum]
  constructor
  · exact eq_of_number_eq (hcs.trans (length_checksum form label values).symm) hsmall
      (checksum_lt form label values)
  · intro h
    rw [h]

/-! ### One wrong value -/

/-- How the residue changes with one value. -/
theorem residue_exchange (front back : List Nat) (v w : Nat) :
    residue (front ++ v :: back) ^^^ residue (front ++ w :: back) =
      shiftedBy back.length (BitVec.ofNat 30 v ^^^ BitVec.ofNat 30 w) := by
  have hfed : ∀ u, residue (front ++ u :: back) =
      fedFrom (shifted (residue front) ^^^ BitVec.ofNat 30 u) back := by
    intro u
    rw [residue_append, ← feed_eq]
    rfl
  rw [hfed, hfed, fedFrom_xor, fedFrom_xor, shiftedBy_xor]
  generalize fedFrom (shifted (residue front)) back = rest
  rw [BitVec.xor_comm rest, BitVec.xor_assoc, ← BitVec.xor_assoc rest, BitVec.xor_self, BitVec.zero_xor]

/-- Is a difference seen in both forms, now and after each of some more places? -/
def isSeen : Nat → BitVec 30 → Bool
  | 0, _ => true
  | n + 1, d => d != 0#30 && d != Form.plain.target ^^^ Form.modified.target && isSeen n (shifted d)

theorem shiftedBy_of_isSeen {n k : Nat} {d : BitVec 30} (hk : k < n) (h : isSeen n d = true) :
    shiftedBy k d ≠ 0#30 ∧ shiftedBy k d ≠ Form.plain.target ^^^ Form.modified.target := by
  induction n generalizing k d with
  | zero => exact absurd hk (Nat.not_lt_zero k)
  | succ n ih =>
    simp only [isSeen, Bool.and_eq_true, bne_iff_ne, ne_eq] at h
    cases k with
    | zero => exact h.1
    | succ k =>
      have hk' : k < n := Nat.lt_of_succ_lt_succ hk
      have hrest := ih hk' h.2
      exact hrest

/-- How many letters follow the separator of an address. -/
def addressLetters : Nat := 58

/-- **No single wrong value of an address is overlooked**: not even one that would turn the residue of
one form into that of the other. -/
theorem shiftedBy_seen {k v w : Nat} (hk : k < addressLetters) (hv : v < 32) (hw : w < 32) (hne : v ≠ w) :
    shiftedBy k (BitVec.ofNat 30 v ^^^ BitVec.ofNat 30 w) ≠ 0#30 ∧
      shiftedBy k (BitVec.ofNat 30 v ^^^ BitVec.ofNat 30 w) ≠
        Form.plain.target ^^^ Form.modified.target := by
  have hall : ∀ d < 32, 0 < d → isSeen addressLetters (BitVec.ofNat 30 d) = true := by decide +kernel
  have hdifference : ∀ v < 32, ∀ w < 32, v ≠ w → 0 < v ^^^ w ∧ v ^^^ w < 32 := by decide +kernel
  obtain ⟨hpos, hlt⟩ := hdifference v hv w hw hne
  have hxor : BitVec.ofNat 30 v ^^^ BitVec.ofNat 30 w = BitVec.ofNat 30 (v ^^^ w) := by
    rw [BitVec.ofNat_xor]
  rw [hxor]
  exact shiftedBy_of_isSeen hk (hall _ hlt hpos)

end ValidatorAlarm.Bech32
