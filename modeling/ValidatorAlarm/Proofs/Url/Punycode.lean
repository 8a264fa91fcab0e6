import Mathlib.Data.List.TakeWhile
import Mathlib.Tactic.Ring
import ValidatorAlarm.Proofs.Url.Visible

/-!
# Labels read back from their ASCII writing

What is written in ASCII is read as the label that it was (`decode?_encode`).  Reader and writer go
through the label together: when the writer has passed the places `before` on its way to the code
`code`, the reader has the characters of `before` up to that code and the others below it.  The steps
from the last character put in are what the writer counts and what the reader is told.
-/
namespace ValidatorAlarm.Url.Punycode

variable {c : Char} {bias position number : Nat} {text : List Char}

/-! ### Numbers -/

theorem digitValue?_digit {n : Nat} (h : n < 36) : digitValue? (digit n) = some n := by
  have hall : ∀ n < 36, digitValue? (digit n) = some n := by decide
  exact hall n h

theorem writeNumber_eq (bias position n : Nat) : writeNumber bias position n =
    if n < threshold bias position then [digit n]
    else digit (threshold bias position + (n - threshold bias position) % (36 - threshold bias position)) ::
      writeNumber bias (position + 36) ((n - threshold bias position) / (36 - threshold bias position)) := by
  rw [writeNumber]

/-- A number is read as it was written, whatever stands behind it. -/
theorem readNumbers_writeNumber (first : Bool) (r : Reader) (position n number weight : Nat)
    (text : List Char) :
    readNumbers first { r with number := number, weight := weight, position := position }
      (writeNumber r.bias position n ++ text) =
    readNumbers false (r.insert (number + n * weight) first) text := by
  induction n using Nat.strongRecOn generalizing position number weight with
  | ind n ih =>
    have hleast := threshold_pos r.bias position
    have hmost := threshold_le r.bias position
    rw [writeNumber_eq]
    generalize ht : threshold r.bias position = t at *
    split
    · rename_i hlast
      rw [List.singleton_append, readNumbers, digitValue?_digit (by omega)]
      simp only [ht, if_pos hlast]
      rfl
    · rename_i hmore
      have hdigit : (n - t) % (36 - t) < 36 - t := Nat.mod_lt _ (by omega)
      have hrest : (n - t) / (36 - t) < n := Nat.lt_of_le_of_lt (Nat.div_le_self _ _) (by omega)
      have hparts : t + (n - t) % (36 - t) + (n - t) / (36 - t) * (36 - t) = n := by
        have hdivided := Nat.mod_add_div' (n - t) (36 - t)
        omega
      have hvalue : number + (t + (n - t) % (36 - t)) * weight + (n - t) / (36 - t) * (weight * (36 - t)) =
          number + n * weight := by
        calc number + (t + (n - t) % (36 - t)) * weight + (n - t) / (36 - t) * (weight * (36 - t))
            = number + (t + (n - t) % (36 - t) + (n - t) / (36 - t) * (36 - t)) * weight := by ring
          _ = number + n * weight := by rw [hparts]
      rw [List.cons_append, readNumbers, digitValue?_digit (by omega)]
      simp only [ht]
      rw [if_neg (by omega), ← hvalue]
      exact ih _ hrest _ _ _

/-! ### Places -/

variable {code next : Nat} {before after label : List Nat} {s : State} {r : Reader}

/-- The reader `r` has what the writer in the state `s` has written, when the places `before` have been
passed for `code` and the places `after` have not. -/
structure Keeps (code : Nat) (before after : List Nat) (s : State) (r : Reader) : Prop where
  label : r.label = before.filter (· ≤ code) ++ after.filter (· < code)
  filled : s.filled = r.label.length
  basic : s.basic ≤ s.filled
  bias : s.bias = r.bias
  /-- The steps from the place at which the reader stands. -/
  steps : (code - r.code) * (r.label.length + 1) + (before.filter (· ≤ code)).length = r.place + s.delta
  behind : r.code ≤ code
  fresh : r.number = r.place ∧ r.weight = 1 ∧ r.position = 36

/-- The state of the writer behind a place that holds the code. -/
def State.put (s : State) : State :=
  { s with
    delta := 0
    bias := adapt s.delta (s.filled + 1) (s.filled = s.basic)
    filled := s.filled + 1 }

theorem Keeps.lower (h : Keeps code before (next :: after) s r) (hnext : next < code) :
    Keeps code (before ++ [next]) after { s with delta := s.delta + 1 } r := by
  have hkept : (before ++ [next]).filter (· ≤ code) = before.filter (· ≤ code) ++ [next] := by
    simp [Nat.le_of_lt hnext]
  refine ⟨?_, h.filled, h.basic, h.bias, ?_, h.behind, h.fresh⟩
  · rw [hkept, h.label, List.append_assoc]
    simp [hnext]
  · rw [hkept, List.length_append, ← Nat.add_assoc, h.steps]
    rfl

theorem Keeps.higher (h : Keeps code before (next :: after) s r) (hnext : code < next) :
    Keeps code (before ++ [next]) after s r := by
  have hkept : (before ++ [next]).filter (· ≤ code) = before.filter (· ≤ code) := by
    simp [Nat.not_le_of_lt hnext]
  refine ⟨?_, h.filled, h.basic, h.bias, ?_, h.behind, h.fresh⟩
  · rw [hkept, h.label]
    simp [Nat.not_lt_of_lt hnext]
  · rw [hkept, h.steps]

theorem Keeps.put (h : Keeps code before (code :: after) s r) :
    Keeps code (before ++ [code]) after s.put (r.insert (r.place + s.delta) (s.filled = s.basic)) := by
  have hkept : (before ++ [code]).filter (· ≤ code) = before.filter (· ≤ code) ++ [code] := by simp
  have hlabel : r.label = before.filter (· ≤ code) ++ after.filter (· < code) := by simpa using h.label
  have hplace : (before.filter (· ≤ code)).length < r.label.length + 1 := by
    rw [hlabel, List.length_append]
    omega
  have hsteps := h.steps
  have hquotient : (r.place + s.delta) / (r.label.length + 1) = code - r.code := by
    rw [← hsteps, Nat.mul_comm, Nat.mul_add_div (by omega), Nat.div_eq_of_lt hplace, Nat.add_zero]
  have hrest : (r.place + s.delta) % (r.label.length + 1) = (before.filter (· ≤ code)).length := by
    rw [← hsteps, Nat.mul_comm, Nat.mul_add_mod, Nat.mod_eq_of_lt hplace]
  have hcode : r.code + (code - r.code) = code := Nat.add_sub_cancel' h.behind
  refine ⟨?_, ?_, ?_, ?_, ?_, ?_, ?_⟩
  · simp only [Reader.insert, hquotient, hrest, hcode]
    rw [hkept, hlabel, List.take_left, List.drop_left, List.append_assoc, List.singleton_append]
  · simp only [Reader.insert, hrest, State.put, h.filled, List.length_append, List.length_cons,
      List.length_take, List.length_drop]
    omega
  · exact Nat.le_succ_of_le h.basic
  · simp only [Reader.insert, State.put, h.filled, Nat.add_sub_cancel_left]
  · simp only [Reader.insert, hquotient, hrest, hcode, State.put, hkept, List.length_append]
    simp
  · simp only [Reader.insert, hquotient, hcode]
    exact Nat.le_refl _
  · exact ⟨rfl, rfl, rfl⟩

/-- The reader puts in what the writer has written at one place. -/
theorem Keeps.read (h : Keeps code before (code :: after) s r) (text : List Char) :
    readNumbers (s.filled = s.basic) r (writeNumber s.bias 36 s.delta ++ text) =
      readNumbers (s.put.filled = s.put.basic) (r.insert (r.place + s.delta) (s.filled = s.basic)) text := by
  have hread := readNumbers_writeNumber (s.filled = s.basic) r 36 s.delta r.place 1 text
  obtain ⟨hnumber, hweight, hposition⟩ := h.fresh
  have hstart : { r with number := r.place, weight := 1, position := 36 } = r := by
    cases r
    simp only at hnumber hweight hposition
    subst hnumber hweight hposition
    rfl
  have hput : ¬ s.put.filled = s.put.basic := by
    have hbasic := h.basic
    simp only [State.put]
    omega
  rw [hstart, ← h.bias, Nat.mul_one] at hread
  rw [hread, decide_eq_false hput]

theorem writeCode_cons (code next : Nat) (s : State) (after : List Nat) :
    writeCode code s (next :: after) =
      if next < code then writeCode code { s with delta := s.delta + 1 } after
      else if next = code then
        ((writeCode code s.put after).1, writeNumber s.bias 36 s.delta ++ (writeCode code s.put after).2)
      else writeCode code s after := rfl

/-- Reader and writer pass the places of a label together. -/
theorem Keeps.pass (h : Keeps code before after s r) :
    ∃ r', Keeps code (before ++ after) [] (writeCode code s after).1 r' ∧
      ∀ text, readNumbers (s.filled = s.basic) r ((writeCode code s after).2 ++ text) =
        readNumbers ((writeCode code s after).1.filled = (writeCode code s after).1.basic) r' text := by
  induction after generalizing before s r with
  | nil => exact ⟨r, by rwa [List.append_nil], fun _ => rfl⟩
  | cons next after ih =>
    rw [List.append_cons, writeCode_cons]
    split
    · rename_i hlower
      exact ih (h.lower hlower)
    · split
      · rename_i hsame
        subst hsame
        obtain ⟨r', hkeeps, hread⟩ := ih h.put
        refine ⟨r', hkeeps, fun text => ?_⟩
        rw [List.append_assoc, h.read, hread]
      · exact ih (h.higher (by omega))

/-- The writer goes on to a higher code if the label holds none between. -/
theorem Keeps.raise (h : Keeps code [] label s r) (hle : code ≤ next)
    (hnone : ∀ c ∈ label, code ≤ c → next ≤ c) :
    Keeps next [] label { s with delta := s.delta + (next - code) * (s.filled + 1) } r := by
  refine ⟨?_, h.filled, h.basic, h.bias, ?_, Nat.le_trans h.behind hle, h.fresh⟩
  · rw [h.label]
    refine congrArg _ (List.filter_congr fun c hc => decide_eq_decide.mpr ⟨fun hlow => by omega, fun hlow => ?_⟩)
    by_contra hhigh
    have hnext := hnone c hc (by omega)
    omega
  · have hsteps := h.steps
    have hparts : next - r.code = (code - r.code) + (next - code) := by
      have hbehind := h.behind
      omega
    simp only [List.filter_nil, List.length_nil, Nat.add_zero] at hsteps ⊢
    rw [hparts, Nat.add_mul, hsteps, h.filled, Nat.add_assoc]

/-- Behind the last place the writer goes on to the next code. -/
theorem Keeps.turn (h : Keeps code label [] s r) :
    Keeps (code + 1) [] label { s with code := code + 1, delta := s.delta + 1 } r := by
  have hlabel : r.label = label.filter (· ≤ code) := by simpa using h.label
  refine ⟨?_, h.filled, h.basic, h.bias, ?_, Nat.le_succ_of_le h.behind, h.fresh⟩
  · rw [hlabel]
    exact List.filter_congr fun c _ => decide_eq_decide.mpr Nat.lt_succ_iff.symm
  · have hsteps := h.steps
    have hparts : code + 1 - r.code = (code - r.code) + 1 := by
      have hbehind := h.behind
      omega
    rw [← hlabel] at hsteps
    rw [hparts, Nat.add_mul, Nat.one_mul]
    simp only [List.filter_nil, List.length_nil, Nat.add_zero]
    omega

/-- The reader ends with the label. -/
theorem readNumbers_writeCodes {codes : List Nat} (h : Keeps code [] label s r) (hcode : s.code = code)
    (hcodes : codes.Pairwise (· < ·)) (hleast : ∀ c ∈ codes, code ≤ c)
    (hall : ∀ c ∈ label, code ≤ c → c ∈ codes) :
    readNumbers (s.filled = s.basic) r (writeCodes label s codes) = some label := by
  induction codes generalizing code s r with
  | nil =>
    have hlabel : r.label = label := by
      rw [h.label, List.filter_nil, List.nil_append, List.filter_eq_self]
      intro c hc
      refine decide_eq_true (Nat.lt_of_not_le fun hle => ?_)
      cases hall c hc hle
    rw [writeCodes, readNumbers, if_pos h.fresh.2.2, hlabel]
  | cons next codes ih =>
    subst hcode
    rw [List.pairwise_cons] at hcodes
    rw [List.forall_mem_cons] at hleast
    have hraised := h.raise hleast.1 fun c hc hle => by
      rcases List.mem_cons.mp (hall c hc hle) with rfl | hmem
      · exact Nat.le_refl _
      · exact Nat.le_of_lt (hcodes.1 c hmem)
    obtain ⟨r', hkeeps, hread⟩ := hraised.pass
    rw [List.nil_append] at hkeeps
    rw [writeCodes]
    have hrest := ih hkeeps.turn rfl hcodes.2 hcodes.1 fun c hc hle => by
      rcases List.mem_cons.mp (hall c hc (by omega)) with rfl | hmem
      · exact absurd hle (Nat.not_succ_le_self c)
      · exact hmem
    exact (hread _).trans hrest

/-! ### Labels -/

theorem eraseReps_loop (first : Nat) (codes found : List Nat) (h : (first :: codes).Pairwise (· ≤ ·)) :
    ∃ out, List.eraseRepsBy.loop (· == ·) first codes found = found.reverse ++ out ∧
      out.Pairwise (· < ·) ∧ ∀ c, c ∈ out ↔ c ∈ first :: codes := by
  induction codes generalizing first found with
  | nil => exact ⟨[first], by simp [List.eraseRepsBy.loop], List.pairwise_singleton _ _, fun c => Iff.rfl⟩
  | cons next codes ih =>
    obtain ⟨hfirst, hcodes⟩ := List.pairwise_cons.mp h
    by_cases hsame : first = next
    · subst hsame
      obtain ⟨out, hout, hpairwise, hmem⟩ := ih first found hcodes
      refine ⟨out, by simpa [List.eraseRepsBy.loop] using hout, hpairwise, fun c => ?_⟩
      rw [hmem]
      simp
    · obtain ⟨out, hout, hpairwise, hmem⟩ := ih next (first :: found) hcodes
      have hother : (first == next) = false := by simpa using hsame
      refine ⟨first :: out, by simpa [List.eraseRepsBy.loop, hother] using hout, ?_, fun c => ?_⟩
      · refine List.pairwise_cons.mpr ⟨fun c hc => ?_, hpairwise⟩
        have hnext := hfirst next List.mem_cons_self
        have hlater : next ≤ c := by
          rcases List.mem_cons.mp ((hmem c).mp hc) with rfl | hc
          · exact Nat.le_refl _
          · exact (List.pairwise_cons.mp hcodes).1 c hc
        omega
      · rw [List.mem_cons, hmem, List.mem_cons (a := c) (b := first)]

/-- The codes beyond ASCII ascend, and none is left out. -/
theorem higherCodes_spec (label : List Nat) : (higherCodes label).Pairwise (· < ·) ∧
    ∀ c, c ∈ higherCodes label ↔ c ∈ label ∧ firstCode ≤ c := by
  have hsorted : ((label.filter (· ≥ firstCode)).mergeSort (· ≤ ·)).Pairwise (· ≤ ·) :=
    (List.pairwise_mergeSort (by simpa using fun a b c => Nat.le_trans) (by simpa using Nat.le_total)
      _).imp of_decide_eq_true
  have hmem : ∀ c, c ∈ (label.filter (· ≥ firstCode)).mergeSort (· ≤ ·) ↔ c ∈ label ∧ firstCode ≤ c := by
    intro c
    rw [List.mem_mergeSort, List.mem_filter, decide_eq_true_eq]
  unfold higherCodes
  cases hcodes : (label.filter (· ≥ firstCode)).mergeSort (· ≤ ·) with
  | nil =>
    rw [hcodes] at hmem
    exact ⟨List.Pairwise.nil, hmem⟩
  | cons first codes =>
    rw [hcodes] at hmem hsorted
    obtain ⟨out, hout, hpairwise, hsame⟩ := eraseReps_loop first codes [] hsorted
    have heq : (first :: codes).eraseReps = out := hout
    rw [heq]
    exact ⟨hpairwise, fun c => (hsame c).trans (hmem c)⟩

theorem writeNumber_digits (bias position n : Nat) :
    ∀ c ∈ writeNumber bias position n, ∃ m < 36, c = digit m := by
  induction n using Nat.strongRecOn generalizing position with
  | ind n ih =>
    have hleast := threshold_pos bias position
    have hmost := threshold_le bias position
    rw [writeNumber_eq]
    split
    · rw [List.forall_mem_singleton]
      exact ⟨n, by omega, rfl⟩
    · have hdigit : (n - threshold bias position) % (36 - threshold bias position) < 36 - threshold bias position :=
        Nat.mod_lt _ (by omega)
      rw [List.forall_mem_cons]
      exact ⟨⟨_, by omega, rfl⟩, ih _ (Nat.lt_of_le_of_lt (Nat.div_le_self _ _) (by omega)) _⟩

theorem writeCode_digits (code : Nat) (s : State) (label : List Nat) :
    ∀ c ∈ (writeCode code s label).2, ∃ m < 36, c = digit m := by
  induction label generalizing s with
  | nil => exact nofun
  | cons next label ih =>
    rw [writeCode_cons]
    split
    · exact ih _
    · split
      · exact List.forall_mem_append.mpr ⟨writeNumber_digits _ _ _, ih _⟩
      · exact ih _

theorem writeCodes_digits (label : List Nat) (s : State) (codes : List Nat) :
    ∀ c ∈ writeCodes label s codes, ∃ m < 36, c = digit m := by
  induction codes generalizing s with
  | nil => exact nofun
  | cons code codes ih => exact List.forall_mem_append.mpr ⟨writeCode_digits _ _ _, ih _⟩

theorem splitLastHyphen_of (basic : List Char) {numbers : List Char} (h : '-' ∉ numbers) :
    splitLastHyphen ((if basic.isEmpty then [] else basic ++ ['-']) ++ numbers) = (basic, numbers) := by
  have hfree := Text.Form.bne_of_notMem fun hmem => h (List.mem_reverse.mp hmem)
  cases basic with
  | nil =>
    obtain ⟨htake, hdrop⟩ := Text.Form.span_all hfree
    simp only [List.isEmpty_nil, if_true, List.nil_append, splitLastHyphen, htake, hdrop, List.reverse_reverse]
    rfl
  | cons first basic =>
    obtain ⟨htake, hdrop⟩ := Text.Form.span_stop (first :: basic).reverse hfree (bne_self_eq_false '-')
    simp only [List.isEmpty_cons, Bool.false_eq_true, if_false, splitLastHyphen, List.reverse_append,
      List.reverse_singleton, List.singleton_append, htake, hdrop, List.drop_one, List.tail_cons, List.reverse_reverse]

theorem filter_toNat (label : List Char) :
    (label.filter (·.toNat < firstCode)).map Char.toNat = (label.map Char.toNat).filter (· < firstCode) := by
  rw [List.filter_map]
  rfl

/-- **What is written in ASCII is read as the label that it was.** -/
theorem decode?_encode (label : List Char) : decode? (encode label) = some label := by
  let basic := label.filter (·.toNat < firstCode)
  let codes := label.map Char.toNat
  have hhyphen : '-' ∉ writeCodes codes ⟨firstCode, 0, firstBias, basic.length, basic.length⟩ (higherCodes codes) := by
    intro hmem
    obtain ⟨m, hm, hdigit⟩ := writeCodes_digits _ _ _ _ hmem
    have hall : ∀ m < 36, '-' ≠ digit m := by decide
    exact hall m hm hdigit
  have hkeeps : Keeps firstCode [] codes ⟨firstCode, 0, firstBias, basic.length, basic.length⟩
      ⟨basic.map Char.toNat, firstCode, 0, firstBias, 0, 1, 36⟩ := by
    refine ⟨?_, ?_, Nat.le_refl _, rfl, ?_, Nat.le_refl _, rfl, rfl, rfl⟩
    · exact filter_toNat label
    · exact (List.length_map _).symm
    · simp
  obtain ⟨hascend, hmem⟩ := higherCodes_spec codes
  have hread := readNumbers_writeCodes hkeeps rfl hascend (fun c hc => ((hmem c).mp hc).2)
    fun c hc hle => (hmem c).mpr ⟨hc, hle⟩
  simp only [eq_self, decide_true] at hread
  have hvalid : codes.all (·.isValidChar) = true := by
    refine List.all_eq_true.mpr fun code hcode => ?_
    obtain ⟨c, -, rfl⟩ := List.mem_map.mp hcode
    exact decide_eq_true c.valid
  have hback : codes.map Char.ofNat = label := by
    rw [List.map_map]
    exact (List.map_congr_left fun c _ => Char.ofNat_toNat c).trans (List.map_id' label)
  unfold decode? encode
  rw [splitLastHyphen_of basic hhyphen]
  simp only [Option.bind_eq_bind]
  refine Option.bind_eq_some_iff.mpr ⟨codes, hread, ?_⟩
  rw [if_pos hvalid, hback]

/-! ### The length of an ASCII writing -/

/-- A number from 911 on has at least three digits, whatever the thresholds are. -/
theorem length_writeNumber {n : Nat} (h : 911 ≤ n) (bias position : Nat) :
    3 ≤ (writeNumber bias position n).length := by
  have hleast := threshold_pos bias position
  have hmost := threshold_le bias position
  have hnext := threshold_le bias (position + 36)
  have hquotient : 26 ≤ (n - threshold bias position) / (36 - threshold bias position) := by
    rw [Nat.le_div_iff_mul_le (by omega), Nat.mul_sub]
    omega
  rw [writeNumber_eq, if_neg (by omega), writeNumber_eq, if_neg (by omega), List.length_cons, List.length_cons,
    writeNumber_eq]
  split <;> simp

theorem writeCode_lower {lower : List Nat} (h : ∀ c ∈ lower, c < code) (s : State) (rest : List Nat) :
    writeCode code s (lower ++ rest) = writeCode code { s with delta := s.delta + lower.length } rest := by
  induction lower generalizing s with
  | nil => rfl
  | cons c lower ih =>
    obtain ⟨hc, hlower⟩ := List.forall_mem_cons.mp h
    rw [List.cons_append, writeCode_cons, if_pos hc, ih hlower, List.length_cons, Nat.add_assoc,
      Nat.add_comm 1]

theorem writeCode_higher {higher : List Nat} (h : ∀ c ∈ higher, code < c) (s : State) :
    writeCode code s higher = (s, []) := by
  induction higher with
  | nil => rfl
  | cons c higher ih =>
    obtain ⟨hc, hhigher⟩ := List.forall_mem_cons.mp h
    rw [writeCode_cons, if_neg (by omega), if_neg (by omega), ih hhigher]

/-- A code that a label has once, between lower and higher ones. -/
theorem writeCode_once {lower higher : List Nat} (hlower : ∀ c ∈ lower, c < code) (hhigher : ∀ c ∈ higher, code < c)
    (s : State) : writeCode code s (lower ++ code :: higher) =
      (State.put { s with delta := s.delta + lower.length }, writeNumber s.bias 36 (s.delta + lower.length)) := by
  rw [writeCode_lower hlower, writeCode_cons, if_neg (Nat.lt_irrefl code), if_pos rfl, writeCode_higher hhigher,
    List.append_nil]

/-- Codes that lie 29 apart take three digits each once there are 32 places. -/
theorem length_writeCodes (n start : Nat) {lower : List Nat} (hlower : ∀ c ∈ lower, c < start) (s : State)
    (hcode : s.code + 28 ≤ start) : 3 * n ≤
      (writeCodes (lower ++ List.range' start n 29) s (List.range' start n 29)).length + 3 * (32 - s.filled) := by
  induction n generalizing start lower s with
  | zero => simp
  | succ n ih =>
    have hhigher : ∀ c ∈ List.range' (start + 29) n 29, start < c := fun c hc => by
      obtain ⟨i, -, rfl⟩ := List.mem_range'.mp hc
      omega
    have hlabel : lower ++ start :: List.range' (start + 29) n 29 =
        (lower ++ [start]) ++ List.range' (start + 29) n 29 := List.append_cons ..
    have hnext : ∀ c ∈ lower ++ [start], c < start + 29 := List.forall_mem_append.mpr
      ⟨fun c hc => Nat.lt_of_lt_of_le (hlower c hc) (Nat.le_add_right _ _),
        List.forall_mem_singleton.mpr (by omega)⟩
    rw [List.range'_succ, writeCodes]
    simp only [writeCode_once hlower hhigher, List.length_append]
    rw [hlabel]
    have hrest := ih (start + 29) hnext { State.put { s with
      delta := s.delta + (start - s.code) * (s.filled + 1) + lower.length } with
        code := start + 1, delta := 0 + 1 } (by simp only; omega)
    simp only [State.put] at hrest ⊢
    by_cases hfilled : 32 ≤ s.filled
    · have hproduct : 28 * 33 ≤ (start - s.code) * (s.filled + 1) := Nat.mul_le_mul (by omega) (by omega)
      have hdigits := length_writeNumber
        (show 911 ≤ s.delta + (start - s.code) * (s.filled + 1) + lower.length by omega) s.bias 36
      omega
    · omega

end ValidatorAlarm.Url.Punycode
