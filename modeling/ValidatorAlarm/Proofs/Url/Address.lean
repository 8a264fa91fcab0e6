import Mathlib.Algebra.Group.Nat.Defs
import Mathlib.Data.List.Induction
import ValidatorAlarm.Proofs.Text.Parts
import ValidatorAlarm.Proofs.Url.Visible

/-!
# Addresses that are read again

In whatever writing an address is given, it fits its four bytes or eight groups, and the text that is
written for it is read as the same address.
-/
namespace ValidatorAlarm.Url

open Text.Form (splitAt digitValue?)

variable {base n a : Nat} {digits text before after : List Char} {groups front back : List Nat}

/-! ### Numbers -/

theorem digitValue?_digitChar (h : n < 16) : digitValue? (Nat.digitChar n) = some n := by
  have hall : ∀ n < 16, digitValue? (Nat.digitChar n) = some n := by decide
  exact hall n h

theorem numeral?_toDigits (hbase : 1 < base) (hmost : base ≤ 16) (n : Nat) :
    numeral? base (Nat.toDigits base n) = some n := by
  induction n using Nat.strongRecOn with
  | ind n ih =>
    rw [Nat.toDigits_eq_if hbase]
    split
    · rename_i hsmall
      simp [numeral?, digitValue?_digitChar (show n < 16 by omega), hsmall]
    · have hdigit : n % base < base := Nat.mod_lt _ (by omega)
      have hfront := ih (n / base) (Nat.div_lt_self (by omega) hbase)
      rw [numeral?] at hfront ⊢
      rw [List.foldlM_append, hfront]
      simp [digitValue?_digitChar (show n % base < 16 by omega), hdigit, Nat.div_add_mod']

theorem numeral?_lt (h : numeral? base digits = some n) : n < base ^ digits.length := by
  induction digits using List.reverseRecOn generalizing n with
  | nil =>
    cases h
    exact Nat.one_pos
  | append_singleton digits c ih =>
    rw [numeral?, List.foldlM_append, ← numeral?] at h
    simp only [List.foldlM_cons, List.foldlM_nil, Option.bind_eq_bind, Option.bind_eq_some_iff] at h
    obtain ⟨m, hm, k, hk, hn⟩ := h
    cases hn
    split at hk
    · rename_i d _
      rw [Option.ite_none_right_eq_some] at hk
      obtain ⟨hd, hk⟩ := hk
      cases hk
      calc m * base + d < m * base + base := Nat.add_lt_add_left hd _
        _ = (m + 1) * base := (Nat.succ_mul m base).symm
        _ ≤ base ^ digits.length * base := Nat.mul_le_mul_right _ (ih hm)
        _ = base ^ (digits ++ [c]).length := by rw [List.length_append, List.length_singleton, Nat.pow_succ]
    · cases hk

theorem notMem_toDigits {c : Char} (hbase : 1 < base) (hmost : base ≤ 16) (n : Nat)
    (hc : ∀ m < 16, c ≠ Nat.digitChar m) : c ∉ Nat.toDigits base n := fun hmem => by
  obtain ⟨m, hm, heq⟩ := digitChar_of_mem_toDigits hbase hmem
  exact hc m (by omega) heq

/-! ### Addresses of four bytes -/

/-- The bytes of an address, the highest one first. -/
def v4Bytes (a : Nat) : List Nat := [3, 2, 1, 0].map fun i => a / Nat.pow 256 i % 256

theorem v4Text_eq (a : Nat) : v4Text a = List.intercalate ['.'] ((v4Bytes a).map (Nat.toDigits 10)) := rfl

theorem splitAt_v4Text (a : Nat) : splitAt '.' (v4Text a) = (v4Bytes a).map (Nat.toDigits 10) := by
  rw [v4Text_eq]
  refine Text.Form.splitAt_intercalate (fun part hpart => ?_) (by simp [v4Bytes])
  obtain ⟨n, -, rfl⟩ := List.mem_map.mp hpart
  exact notMem_toDigits (by decide) (by decide) n (by decide)

theorem v4Parts_v4Text (a : Nat) : v4Parts (v4Text a) = (v4Bytes a).map (Nat.toDigits 10) := by
  have hlast : ((v4Bytes a).map (Nat.toDigits 10)).getLast? ≠ some [] := by
    simp [v4Bytes, Nat.toDigits_ne_nil]
  rw [v4Parts]
  simp only [splitAt_v4Text, decide_eq_false hlast, Bool.and_false]
  rfl

theorem v4Number?_byte (h : n < 256) : v4Number? (Nat.toDigits 10 n) = some n := by
  have hall : ∀ n < 256, v4Number? (Nat.toDigits 10 n) = some n := by decide +kernel
  exact hall n h

theorem v4Bytes_lt (a : Nat) : ∀ n ∈ v4Bytes a, n < 256 := by
  intro n hn
  obtain ⟨i, -, rfl⟩ := List.mem_map.mp hn
  exact Nat.mod_lt _ (by decide)

theorem v4Value?_v4Bytes (h : a < 256 ^ 4) : v4Value? (v4Bytes a) = some a := by
  have hbytes := v4Bytes_lt a
  simp only [v4Bytes, List.map_cons, List.map_nil, List.forall_mem_cons, Nat.pow_eq] at hbytes ⊢
  simp [v4Value?, hbytes]
  omega

/-- **The text of an address of four bytes is read as the address.** -/
theorem v4?_v4Text (h : a < 256 ^ 4) : v4? (v4Text a) = some a := by
  have hnumbers : ((v4Bytes a).map (Nat.toDigits 10)).mapM v4Number? = some (v4Bytes a) :=
    mapM_map_eq_some fun n hn => v4Number?_byte (v4Bytes_lt a n hn)
  rw [v4?, v4Parts_v4Text, hnumbers]
  exact v4Value?_v4Bytes h

theorem endsInNumber_v4Text (a : Nat) : endsInNumber (v4Text a) = true := by
  rw [endsInNumber, v4Parts_v4Text]
  have hdigits : (Nat.toDigits 10 (a % 256)).all Char.isDigit = true :=
    List.all_eq_true.mpr fun c hc => Nat.isDigit_of_mem_toDigits (by decide) (by decide) hc
  simp [v4Bytes, hdigits, Nat.toDigits_ne_nil]

theorem foldl_bytes_lt (h : ∀ n ∈ front, n < 256) :
    front.foldl (fun n part => n * 256 + part) 0 < 256 ^ front.length := by
  induction front using List.reverseRecOn with
  | nil => decide
  | append_singleton front n ih =>
    rw [List.forall_mem_append, List.forall_mem_singleton] at h
    have hfront := ih h.1
    rw [List.foldl_append, List.length_append, List.length_singleton, Nat.pow_succ]
    simp only [List.foldl_cons, List.foldl_nil]
    omega

/-- An address fits its four bytes, however many of them its last number fills. -/
theorem v4?_lt (h : v4? text = some a) : a < 256 ^ 4 := by
  obtain ⟨numbers, -, hvalue⟩ := Option.bind_eq_some_iff.mp h
  unfold v4Value? at hvalue
  split at hvalue
  · cases hvalue
  · rename_i last others hreverse
    simp only [Option.ite_none_right_eq_some, Bool.and_eq_true, decide_eq_true_eq, List.all_eq_true,
      Option.some.injEq] at hvalue
    obtain ⟨⟨⟨hlength, hlast⟩, hothers⟩, rfl⟩ := hvalue
    have hcount : numbers.length = others.length + 1 := by
      rw [← List.length_reverse, hreverse, List.length_cons]
    have hfold : others.reverse.foldl (fun n part => n * 256 + part) 0 < 256 ^ others.reverse.length :=
      foldl_bytes_lt fun n hn => hothers n (List.mem_reverse.mp hn)
    rw [List.length_reverse] at hfold
    have hroom : 256 ^ others.length * Nat.pow 256 (5 - numbers.length) = 256 ^ 4 := by
      rw [Nat.pow_eq, ← Nat.pow_add]
      congr 1
      omega
    calc _ < (others.reverse.foldl (fun n part => n * 256 + part) 0 + 1) * Nat.pow 256 (5 - numbers.length) := by
          rw [Nat.succ_mul]
          omega
      _ ≤ 256 ^ others.length * Nat.pow 256 (5 - numbers.length) := Nat.mul_le_mul_right _ hfold
      _ = 256 ^ 4 := hroom

/-! ### Addresses of eight groups -/

/-- A group of an address has at most four hexadecimal digits. -/
def AreGroups (groups : List Nat) : Prop := ∀ g ∈ groups, g < 16 ^ 4

theorem v6Group?_lt (h : v6Group? digits = some n) : n < 16 ^ 4 := by
  rw [v6Group?, Option.ite_none_left_eq_some] at h
  obtain ⟨hlength, h⟩ := h
  rw [Bool.or_eq_true, decide_eq_true_eq, not_or, Nat.not_lt] at hlength
  exact Nat.lt_of_lt_of_le (numeral?_lt h) (Nat.pow_le_pow_right (by decide) hlength.2)

theorem areGroups_tail (h : v6Tail? text = some groups) : AreGroups groups := by
  unfold v6Tail? at h
  simp only [Option.bind_eq_bind, Option.bind_eq_some_iff] at h
  obtain ⟨bytes, hbytes, h⟩ := h
  have hsmall : ∀ n ∈ bytes, n < 256 := fun n hn => by
    obtain ⟨part, -, hpart⟩ := mem_of_mapM hbytes hn
    rw [v6Byte?, Option.ite_none_left_eq_some, Option.filter_eq_some_iff] at hpart
    exact of_decide_eq_true hpart.2.2
  split at h
  · cases h
    simp only [List.forall_mem_cons] at hsmall
    simp only [AreGroups, List.forall_mem_cons]
    exact ⟨by omega, by omega, List.forall_mem_nil _⟩
  · cases h

theorem areGroups_read {final : Bool} {parts : List (List Char)} (h : v6Groups? final parts = some groups) :
    AreGroups groups := by
  induction parts generalizing groups with
  | nil =>
    cases h
    exact List.forall_mem_nil _
  | cons part parts ih =>
    cases parts with
    | nil =>
      rw [v6Groups?] at h
      split at h
      · exact areGroups_tail h
      · obtain ⟨g, hg, rfl⟩ := Option.map_eq_some_iff.mp h
        exact List.forall_mem_singleton.mpr (v6Group?_lt hg)
    | cons next parts =>
      rw [v6Groups?] at h
      · simp only [Option.bind_eq_bind, Option.bind_eq_some_iff] at h
        obtain ⟨g, hg, others, hothers, h⟩ := h
        cases h
        exact List.forall_mem_cons.mpr ⟨v6Group?_lt hg, ih hothers⟩
      · exact fun h => by cases h

theorem areGroups_half {final : Bool} (h : v6Half? final text = some groups) : AreGroups groups := by
  rw [v6Half?] at h
  split at h
  · cases h
    exact List.forall_mem_nil _
  · exact areGroups_read h

/-- An address has eight groups. -/
theorem v6?_groups (h : v6? text = some groups) : groups.length = 8 ∧ AreGroups groups := by
  unfold v6? at h
  split at h
  · obtain ⟨hread, hlength⟩ := Option.filter_eq_some_iff.mp h
    exact ⟨of_decide_eq_true hlength, areGroups_half hread⟩
  · simp only [Option.bind_eq_bind, Option.bind_eq_some_iff, Option.ite_none_right_eq_some] at h
    obtain ⟨front, hfront, back, hback, hroom, h⟩ := h
    cases h
    refine ⟨by simp only [List.length_append, List.length_replicate]; omega, ?_⟩
    refine List.forall_mem_append.mpr ⟨List.forall_mem_append.mpr ⟨areGroups_half hfront, ?_⟩, areGroups_half hback⟩
    intro g hg
    rw [List.eq_of_mem_replicate hg]
    decide

/-! ### The writing of groups -/

theorem v6Group?_toDigits (h : n < 16 ^ 4) : v6Group? (Nat.toDigits 16 n) = some n := by
  have hlength : (Nat.toDigits 16 n).length ≤ 4 := (Nat.length_toDigits_le_iff (by decide) (by decide)).mpr h
  have hempty : (Nat.toDigits 16 n).isEmpty = false := List.isEmpty_eq_false_iff.mpr Nat.toDigits_ne_nil
  rw [v6Group?, hempty, decide_eq_false (Nat.not_lt.mpr hlength)]
  exact numeral?_toDigits (by decide) (by decide) n

theorem v6Groups?_toDigits {final : Bool} (h : AreGroups groups) :
    v6Groups? final (groups.map (Nat.toDigits 16)) = some groups := by
  induction groups with
  | nil => rfl
  | cons g groups ih =>
    obtain ⟨hg, hgroups⟩ := List.forall_mem_cons.mp h
    cases groups with
    | nil =>
      have hpoint : (Nat.toDigits 16 g).contains '.' = false := by
        rw [List.contains_eq_mem, decide_eq_false_iff_not]
        exact notMem_toDigits (by decide) (by decide) g (by decide)
      rw [List.map_singleton, v6Groups?, hpoint, Bool.and_false, v6Group?_toDigits hg]
      rfl
    | cons next groups =>
      rw [List.map_cons, List.map_cons, v6Groups?, v6Group?_toDigits hg, ← List.map_cons, ih hgroups]
      · rfl
      · exact fun h => by cases h

theorem v6Joined_cons_cons (g next : Nat) (groups : List Nat) :
    v6Joined (g :: next :: groups) = Nat.toDigits 16 g ++ ':' :: v6Joined (next :: groups) := by
  simp [v6Joined, List.intercalate_cons_cons]

/-- The text of groups starts with the digits of the first one. -/
theorem v6Joined_cons (g : Nat) (groups : List Nat) :
    ∃ others, v6Joined (g :: groups) = Nat.toDigits 16 g ++ others := by
  cases groups with
  | nil => exact ⟨[], by simp [v6Joined]⟩
  | cons next groups => exact ⟨_, v6Joined_cons_cons g next groups⟩

theorem v6Joined_eq_nil (h : v6Joined groups = []) : groups = [] := by
  cases groups with
  | nil => rfl
  | cons g groups =>
    obtain ⟨others, hothers⟩ := v6Joined_cons g groups
    rw [hothers] at h
    exact absurd (List.append_eq_nil_iff.mp h).1 Nat.toDigits_ne_nil

/-- Groups between colons are read as the groups. -/
theorem v6Half?_joined {final : Bool} (h : AreGroups groups) : v6Half? final (v6Joined groups) = some groups := by
  rw [v6Half?]
  split
  · rename_i hempty
    rw [v6Joined_eq_nil (List.isEmpty_iff.mp hempty)]
  · rename_i hempty
    have hne : groups.map (Nat.toDigits 16) ≠ [] := by
      intro hnil
      rw [List.map_eq_nil_iff.mp hnil] at hempty
      exact hempty rfl
    rw [v6Joined, Text.Form.splitAt_intercalate _ hne, v6Groups?_toDigits h]
    intro part hpart
    obtain ⟨g, -, rfl⟩ := List.mem_map.mp hpart
    exact notMem_toDigits (by decide) (by decide) g (by decide)

/-! ### The zeros that are left out -/

/-- The characters of an address of eight groups. -/
def addressSigns : List Char := ':' :: (List.range 16).map Nat.digitChar

theorem mem_v6Joined {c : Char} (h : c ∈ v6Joined groups) : c ∈ addressSigns := by
  refine Text.Form.forall_mem_intercalate (P := (· ∈ addressSigns)) (fun part hpart c hc => ?_) (by decide) c h
  obtain ⟨g, -, rfl⟩ := List.mem_map.mp hpart
  obtain ⟨m, hm, rfl⟩ := digitChar_of_mem_toDigits (by decide) hc
  exact List.mem_cons_of_mem _ (List.mem_map_of_mem (List.mem_range.mpr hm))

theorem mem_v6Text {c : Char} (h : c ∈ v6Text groups) : c ∈ addressSigns := by
  simp only [v6Text] at h
  split at h
  · exact mem_v6Joined h
  · rcases List.mem_append.mp h with h | h
    · rcases List.mem_append.mp h with h | h
      · exact mem_v6Joined h
      · have hcolons : ∀ c ∈ [':', ':'], c ∈ addressSigns := by decide
        exact hcolons c h
    · exact mem_v6Joined h

/-- A text with more in front of what stands before its double colon. -/
def inFront (front : List Char) (split : List Char × List Char) : List Char × List Char :=
  (front ++ split.1, split.2)

theorem splitDouble?_cons {c : Char} {rest : List Char} (h : c = ':' → rest.head? ≠ some ':') :
    splitDouble? (c :: rest) = (splitDouble? rest).map (inFront [c]) := by
  rw [splitDouble?]
  · rfl
  · rintro rest rfl rfl
    exact h rfl rfl

theorem splitDouble?_append {rest : List Char} (h : ':' ∉ text) :
    splitDouble? (text ++ rest) = (splitDouble? rest).map (inFront text) := by
  induction text with
  | nil => exact Option.map_id'.symm
  | cons c text ih =>
    rw [List.mem_cons, not_or] at h
    rw [List.cons_append, splitDouble?_cons fun hc => absurd hc.symm h.1, ih h.2, Option.map_map]
    rfl

theorem v6Joined_head (g : Nat) (groups : List Nat) (rest : List Char) :
    (v6Joined (g :: groups) ++ rest).head? ≠ some ':' := by
  obtain ⟨others, hothers⟩ := v6Joined_cons g groups
  rw [hothers, List.append_assoc, List.head?_append_of_ne_nil _ Nat.toDigits_ne_nil]
  intro hhead
  exact notMem_toDigits (by decide) (by decide) g (by decide) (List.mem_of_head? hhead)

/-- There is no double colon between groups, nor do they make one with what follows them. -/
theorem splitDouble?_joined (groups : List Nat) (rest : List Char) :
    splitDouble? (v6Joined groups ++ rest) = (splitDouble? rest).map (inFront (v6Joined groups)) := by
  induction groups with
  | nil => exact Option.map_id'.symm
  | cons g groups ih =>
    have hdigits : ':' ∉ Nat.toDigits 16 g := notMem_toDigits (by decide) (by decide) g (by decide)
    cases groups with
    | nil => rw [v6Joined, List.map_singleton, List.intercalate_singleton, splitDouble?_append hdigits]
    | cons next groups =>
      rw [v6Joined_cons_cons, List.append_assoc, splitDouble?_append hdigits, List.cons_append,
        splitDouble?_cons fun _ => v6Joined_head next groups rest, ih, Option.map_map, Option.map_map]
      congr 1
      funext split
      simp [inFront]

/-- Where the longest run of zeros is said to be, there are that many zeros. -/
theorem longestZeroRun_le (groups : List Nat) :
    (longestZeroRun groups).2 ≤ zeroRun (groups.drop (longestZeroRun groups).1) := by
  rw [longestZeroRun]
  refine List.foldlRecOn (motive := fun best : Nat × Nat => best.2 ≤ zeroRun (groups.drop best.1)) _ _ (Nat.zero_le _) ?_
  intro best hbest start _
  simp only
  split
  · exact Nat.le_refl _
  · exact hbest

theorem take_zeros (h : n ≤ zeroRun groups) : groups.take n = List.replicate n 0 ∧ n ≤ groups.length := by
  have hprefix : groups.takeWhile (· = 0) <+: groups := List.takeWhile_prefix _
  have hlength : n ≤ groups.length := Nat.le_trans h hprefix.length_le
  refine ⟨List.eq_replicate_iff.mpr ⟨List.length_take_of_le hlength, fun g hg => ?_⟩, hlength⟩
  obtain ⟨others, hothers⟩ := hprefix
  have htake : groups.take n = (groups.takeWhile (· = 0)).take n := by
    conv_lhs => rw [← hothers]
    exact List.take_append_of_le_length h
  rw [htake] at hg
  simpa using List.mem_takeWhile_imp (List.mem_of_mem_take hg)

/-- **The text of an address of eight groups is read as the address.** -/
theorem v6?_v6Text (hlength : groups.length = 8) (h : AreGroups groups) : v6? (v6Text groups) = some groups := by
  obtain ⟨hzeros, hrun⟩ := take_zeros (longestZeroRun_le groups)
  rw [v6Text]
  generalize longestZeroRun groups = best at hzeros hrun ⊢
  obtain ⟨start, run⟩ := best
  simp only at hzeros hrun ⊢
  split
  · have hnone : splitDouble? (v6Joined groups) = none := by
      have hjoined := splitDouble?_joined groups []
      rwa [List.append_nil] at hjoined
    rw [v6?, hnone]
    simp [v6Half?_joined h, hlength]
  · have hsplit : splitDouble? (v6Joined (groups.take start) ++ [':', ':'] ++ v6Joined (groups.drop (start + run))) =
        some (v6Joined (groups.take start), v6Joined (groups.drop (start + run))) := by
      rw [List.append_assoc, splitDouble?_joined]
      simp [splitDouble?, inFront]
    have hfront : AreGroups (groups.take start) := fun g hg => h g (List.mem_of_mem_take hg)
    have hback : AreGroups (groups.drop (start + run)) := fun g hg => h g (List.mem_of_mem_drop hg)
    rw [List.length_drop] at hrun
    have hroom : 8 - min start 8 - (8 - (start + run)) = run := by omega
    rw [v6?, hsplit]
    simp only [v6Half?_joined hfront, v6Half?_joined hback, Option.bind_eq_bind, Option.bind_some, List.length_take,
      List.length_drop, hlength, hroom]
    rw [if_pos (by omega), ← hzeros, List.append_assoc, ← List.drop_drop, List.take_append_drop,
      List.take_append_drop]

end ValidatorAlarm.Url
