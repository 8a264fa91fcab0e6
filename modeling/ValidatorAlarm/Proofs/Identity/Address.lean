import Mathlib.Tactic.SplitIfs
import ValidatorAlarm.Identity.Roster

/-!
# What an address looks like

An address of 32 bytes is written with 52 letters, six more for the checksum, and the label with the
separator in front.  So every text that is read as an address has 62 characters, all of them visible
ASCII characters, and begins with a letter.
-/
namespace ValidatorAlarm

namespace Bech32

/-- A visible ASCII character. -/
def Visible (c : Char) : Prop := 33 ≤ c.toNat ∧ c.toNat ≤ 126

theorem splitLast?_eq {s label data : List Char} (h : splitLast? s = some (label, data)) :
    s = label ++ '1' :: data := by
  have hsplit := List.takeWhile_append_dropWhile (p := (· != '1')) (l := s.reverse)
  simp only [splitLast?] at h
  cases hhead : s.reverse.dropWhile (· != '1') with
  | nil => simp [hhead] at h
  | cons c rest =>
    rw [hhead] at h hsplit
    simp only [Option.some.injEq, Prod.mk.injEq] at h
    obtain ⟨rfl, rfl⟩ := h
    have hmark : c = '1' := by
      have hfirst := List.head?_dropWhile_not (· != '1') s.reverse
      rw [hhead] at hfirst
      simpa using hfirst
    have hreverse := congrArg List.reverse hsplit
    rw [List.reverse_reverse, List.reverse_append, List.reverse_cons, hmark] at hreverse
    rw [List.append_assoc] at hreverse
    exact hreverse.symm

theorem upper_bounds {c : Char} (h : c.isUpper = true) : 65 ≤ c.toNat ∧ c.toNat ≤ 90 := of_decide_eq_true h

theorem value?_visible {c : Char} {v : Nat} (h : value? c = some v) : Visible c := by
  have hletters : ∀ c ∈ letters, Visible c := by
    unfold Visible
    decide
  obtain ⟨hlt, hsmall, -⟩ := List.idxOf?_eq_some_iff.mp h
  have hmem : small c ∈ letters := hsmall ▸ List.getElem_mem hlt
  unfold small at hmem
  split at hmem
  · rename_i hupper
    obtain ⟨hlow, hhigh⟩ := upper_bounds hupper
    unfold Visible
    omega
  · exact hletters c hmem

theorem small_eq_e {c : Char} (h : small c = 'e') : c = 'e' ∨ c = 'E' := by
  have hall : ∀ n < 91, 65 ≤ n → Char.ofNat (n + 32) = 'e' → Char.ofNat n = 'E' := by decide
  unfold small at h
  split at h
  · rename_i hupper
    obtain ⟨hlow, hhigh⟩ := upper_bounds hupper
    have hcapital := hall c.toNat (by omega) hlow h
    rw [Char.ofNat_toNat] at hcapital
    exact .inr hcapital
  · exact .inl h

theorem length_toBytes (values : List Nat) : (toBytes values).length = 5 * values.length / 8 := by
  have hgo : ∀ (values : List Nat) (count bits : Nat), count < 8 →
      (toBytes.go count bits values).length = (count + 5 * values.length) / 8 := by
    intro values
    induction values with
    | nil =>
      intro count bits hcount
      simp only [toBytes.go, List.length_nil]
      omega
    | cons v values ih =>
      intro count bits hcount
      simp only [toBytes.go]
      split
      · rw [List.length_cons, ih _ _ (by omega), List.length_cons]
        omega
      · rw [ih _ _ (by omega), List.length_cons]
        omega
  rw [toBytes, hgo values 0 0 (by decide), Nat.zero_add]

theorem mapM_value? {data : List Char} {values : List Nat} (h : data.mapM value? = some values) :
    values.length = data.length ∧ ∀ c ∈ data, Visible c := by
  induction data generalizing values with
  | nil =>
    cases h
    exact ⟨rfl, nofun⟩
  | cons c data ih =>
    rw [List.mapM_cons] at h
    simp only [Option.bind_eq_bind, Option.bind_eq_some_iff, Option.pure_def, Option.some.injEq] at h
    obtain ⟨v, hc, rest, hrest, rfl⟩ := h
    obtain ⟨hlength, hvisible⟩ := ih hrest
    refine ⟨by rw [List.length_cons, List.length_cons, hlength], ?_⟩
    simp only [List.forall_mem_cons]
    exact ⟨value?_visible hc, hvisible⟩

/-- How a text is laid out that can be read. -/
theorem decode?_layout {s label : List Char} {bytes : List UInt8} (h : decode? s = some (label, bytes)) :
    ∃ readable data, s = readable ++ '1' :: data ∧ readable.map small = label ∧
      bytes.length = 5 * (data.length - 6) / 8 ∧ 6 ≤ data.length ∧ ∀ c ∈ s, Visible c := by
  unfold decode? at h
  simp only [Option.bind_eq_bind, Option.bind_eq_some_iff] at h
  obtain ⟨⟨readable, data⟩, hsplit, values, hvalues, h⟩ := h
  obtain ⟨hlength, hvisible⟩ := mapM_value? hvalues
  simp only at h hlength hvisible
  split_ifs at h with hflaw hchecked
  cases h
  have hs := splitLast?_eq hsplit
  simp only [Bool.or_eq_true, List.any_eq_true, decide_eq_true_eq, not_or, not_exists, not_and,
    Nat.not_lt] at hflaw
  obtain ⟨⟨⟨⟨⟨-, -⟩, -⟩, hlabel⟩, -⟩, hmany⟩ := hflaw
  refine ⟨readable, data, hs, rfl, ?_, by omega, ?_⟩
  · rw [length_toBytes, List.length_take, hlength]
    congr 2
    omega
  · rw [hs]
    intro c hc
    rcases List.mem_append.mp hc with hc | hc
    · have hvisible := hlabel c hc
      unfold Visible
      omega
    · rcases List.mem_cons.mp hc with rfl | hc
      · unfold Visible
        decide
      · exact hvisible c hc

end Bech32

namespace Roster

open Bech32 (Visible)

/-- **An address is a text of 62 visible characters that begins with a letter.** -/
theorem decodeAddress_layout {text : String} {account : Account} (h : decodeAddress text = .ok account) :
    text.toList.length = 62 ∧ (∀ c ∈ text.toList, Visible c) ∧
      ∃ c rest, text.toList = c :: rest ∧ (c = 'e' ∨ c = 'E') := by
  unfold decodeAddress at h
  split at h
  · cases h
  · rename_i label bytes hdecode
    obtain ⟨readable, data, hs, hlabel, hbytes, hmany, hvisible⟩ := Bech32.decode?_layout hdecode
    split_ifs at h with hname hsize
    simp only [ne_eq, Decidable.not_not] at hname hsize
    rw [hname] at hlabel
    have hlong := congrArg List.length hlabel
    rw [List.length_map] at hlong
    match readable, hlabel with
    | c :: readable, hlabel =>
      have hfirst : Bech32.small c = 'e' := (List.cons.inj hlabel).1
      refine ⟨?_, hvisible, c, _, hs, Bech32.small_eq_e hfirst⟩
      have hthree : (c :: readable).length = 3 := hlong
      rw [hsize, addressLength] at hbytes
      rw [hs, List.length_append, hthree, List.length_cons]
      omega

end Roster

end ValidatorAlarm
