import ValidatorAlarm.Proofs.Text.Parts
import ValidatorAlarm.Proofs.Url.Domain.Settled
import ValidatorAlarm.Url.Domain

/-!
# Names as they are compared

A name in the form in which it is compared consists of settled characters and is composed, and so does
every label of it.  So a label is in this form for itself (`folded?_label`), and it can be read again.
-/
namespace ValidatorAlarm.Url.Domain

open Text (Block Run inRanges)
open Text.Form (splitAt)
open Text.Composed (ofCodes)

variable {c : Char} {name folded label : List Char}

/-! ### ASCII -/

/-- The run of the capital letters. -/
def capitals : Run := ⟨0x41, 0x5A, 1, 32⟩

/-- Beside the capital letters, the tables have nothing to say about ASCII. -/
theorem tables_beyond_ascii : (∀ range ∈ silentRanges ++ bannedRanges, 128 ≤ range.1) ∧
    (∀ run ∈ standInRuns, run = capitals ∨ 128 ≤ run.first) ∧ ∀ block ∈ standInBlocks, 128 ≤ block.1 := by
  decide +kernel

theorem meaning?_small {code : Nat} (hcode : code < 128) (hcapital : capitals.holds code = false) :
    meaning? code = some [code] := by
  obtain ⟨hranges, hruns, hblocks⟩ := tables_beyond_ascii
  have hout : ∀ ranges : List (Nat × Nat), (∀ range ∈ ranges, 128 ≤ range.1) → inRanges ranges code = false := by
    intro ranges hranges
    refine List.any_eq_false.mpr fun range hrange hin => ?_
    have hfirst := hranges range hrange
    have hle := of_decide_eq_true (Bool.and_eq_true_iff.mp hin).1
    omega
  have hrun : Run.find? standInRuns code = none := by
    cases hfind : Run.find? standInRuns code with
    | none => rfl
    | some other =>
      obtain ⟨run, hrun, hholds, -⟩ := holds_of_find? hfind
      rcases hruns run hrun with rfl | hfirst
      · rw [hcapital] at hholds
        cases hholds
      · have hrange := Run.holds_iff.mp hholds
        omega
  have hblock : Block.find? standInBlocks code = none := by
    cases hfind : Block.find? standInBlocks code with
    | none => rfl
    | some outs =>
      obtain ⟨block, hblock, i, -, rfl⟩ := Block.mem_rows_iff.mp (Block.mem_rows_of_find? hfind)
      have hfirst := hblocks block hblock
      omega
  rw [List.forall_mem_append] at hranges
  simp [meaning?, hout _ hranges.1, hrun, hblock, isBanned, hout _ hranges.2, hcode]

theorem meaning?_capital {code : Nat} (hcapital : capitals.holds code = true) :
    meaning? code = some [code + 32] := by
  have hfirst : standInRuns.find? (·.holds code) = some capitals := List.find?_cons_of_pos hcapital
  have hrange : 0x41 ≤ code ∧ code ≤ 0x5A ∧ _ := Run.holds_iff.mp hcapital
  have hsilent : inRanges silentRanges code = false := by
    refine List.any_eq_false.mpr fun range hrange hin => ?_
    have hbeyond := tables_beyond_ascii.1 range (List.mem_append_left _ hrange)
    have hle := of_decide_eq_true (Bool.and_eq_true_iff.mp hin).1
    omega
  have hrun : Run.find? standInRuns code = some (code + 32) := by
    rw [Run.find?, hfirst]
    rfl
  simp [meaning?, hsilent, hrun]

theorem toLower_ascii : ∀ n < 128, (Char.ofNat n).toLower.toNat = (if capitals.holds n then n + 32 else n) ∧
    capitals.holds (if capitals.holds n then n + 32 else n) = false := by
  decide

theorem toLower_lt : ∀ n < 128, (Char.ofNat n).toLower.toNat < 128 := by decide

theorem meaning?_ascii (hascii : isAscii c = true) :
    meaning? c.toNat = some [c.toLower.toNat] ∧ meaning? c.toLower.toNat = some [c.toLower.toNat] := by
  have hsmall : c.toNat < 128 := of_decide_eq_true hascii
  obtain ⟨hlower, hnot⟩ := toLower_ascii c.toNat hsmall
  rw [Char.ofNat_toNat] at hlower
  rw [hlower]
  cases hcapital : capitals.holds c.toNat with
  | false =>
    have hmeaning := meaning?_small hsmall hcapital
    exact ⟨hmeaning, hmeaning⟩
  | true =>
    rw [hcapital, if_pos rfl] at hnot
    rw [if_pos rfl]
    have hrange : 0x41 ≤ c.toNat ∧ c.toNat ≤ 0x5A ∧ _ := Run.holds_iff.mp hcapital
    exact ⟨meaning?_capital hcapital, meaning?_small (by omega) hnot⟩

/-! ### Characters of a folded name -/

theorem codes?_eq (c : Char) : codes? c = meaning? c.toNat := by
  unfold codes?
  split
  · rename_i hascii
    exact (meaning?_ascii hascii).1.symm
  · rfl

theorem codes?_of_settled (h : Settled c.toNat) : codes? c = some [c.toNat] := by
  rw [codes?_eq]
  exact h.2

theorem toLower_of_settled (h : Settled c.toNat) (hascii : isAscii c = true) : c.toLower = c := by
  have hcodes := codes?_of_settled h
  rw [codes?, if_pos hascii] at hcodes
  exact Char.toNat_inj.mp (List.cons.inj (Option.some.inj hcodes)).1

theorem map_toLower (h : ∀ c ∈ label, Settled c.toNat) (hascii : label.all isAscii = true) :
    label.map Char.toLower = label :=
  (List.map_congr_left fun c hc =>
    toLower_of_settled (h c hc) (List.all_eq_true.mp hascii c hc)).trans (List.map_id' label)

/-- The codes of a name that is compared beyond ASCII. -/
theorem folded?_beyond (hbeyond : ¬ name.all isAscii = true) (h : folded? name = some folded) :
    ∃ codes, name.mapM codes? = some codes ∧ folded = (ofCodes codes.flatten).map Char.ofNat := by
  unfold folded? at h
  rw [if_neg hbeyond] at h
  obtain ⟨codes, hcodes, h⟩ := Option.bind_eq_some_iff.mp h
  exact ⟨codes, hcodes, (Option.some.inj h).symm⟩

theorem toNat_ofNat {code : Nat} (h : code.isValidChar) : (Char.ofNat code).toNat = code := by
  unfold Char.ofNat
  rw [dif_pos h]
  rfl

theorem mapM_codes? (h : ∀ c ∈ label, Settled c.toNat) :
    label.mapM codes? = some (label.map fun c => [c.toNat]) := by
  induction label with
  | nil => rfl
  | cons c label ih =>
    rw [List.forall_mem_cons] at h
    rw [List.mapM_cons, codes?_of_settled h.1, ih h.2]
    rfl

/-- The codes of a name that is compared beyond ASCII are settled and composed. -/
theorem codes_beyond (hbeyond : ¬ name.all isAscii = true) (h : folded? name = some folded) :
    (∀ code ∈ folded.map Char.toNat, Settled code) ∧ ofCodes (folded.map Char.toNat) = folded.map Char.toNat := by
  obtain ⟨codes, hcodes, rfl⟩ := folded?_beyond hbeyond h
  have hsettled : ∀ code ∈ ofCodes codes.flatten, Settled code := settled_ofCodes fun code hcode => by
    obtain ⟨outs, houts, hcode⟩ := List.mem_flatten.mp hcode
    obtain ⟨c, -, hmeaning⟩ := mem_of_mapM hcodes houts
    rw [codes?_eq] at hmeaning
    exact ⟨c.toNat, outs, c.valid, hmeaning, hcode⟩
  have hsame : ((ofCodes codes.flatten).map Char.ofNat).map Char.toNat = ofCodes codes.flatten := by
    rw [List.map_map]
    exact (List.map_congr_left fun code hcode => toNat_ofNat (hsettled code hcode).1).trans (List.map_id' _)
  rw [hsame]
  exact ⟨hsettled, Text.Composed.ofCodes_ofCodes _⟩

theorem settled_folded (h : folded? name = some folded) : ∀ c ∈ folded, Settled c.toNat := by
  by_cases hascii : name.all isAscii = true
  · unfold folded? at h
    rw [if_pos hascii] at h
    cases h
    intro c hc
    obtain ⟨d, hd, rfl⟩ := List.mem_map.mp hc
    exact ⟨d.toLower.valid, (meaning?_ascii (List.all_eq_true.mp hascii d hd)).2⟩
  · intro c hc
    exact (codes_beyond hascii h).1 c.toNat (List.mem_map_of_mem hc)

/-! ### Labels of a folded name -/

theorem folded?_settled (hsettled : ∀ c ∈ label, Settled c.toNat)
    (hcomposed : label.all isAscii = true ∨ ofCodes (label.map Char.toNat) = label.map Char.toNat) :
    folded? label = some label := by
  unfold folded?
  by_cases hascii : label.all isAscii = true
  · rw [if_pos hascii, map_toLower hsettled hascii]
    rfl
  · have hcodes := hcomposed.resolve_left hascii
    rw [if_neg hascii, mapM_codes? hsettled]
    have hflat : (label.map fun c => [c.toNat]).flatten = label.map Char.toNat := by
      rw [← List.flatMap_def, List.map_eq_flatMap]
    simp only [Option.bind_eq_bind, Option.bind_some, Option.pure_def, hflat, hcodes, List.map_map]
    exact congrArg some ((List.map_congr_left fun c _ => Char.ofNat_toNat c).trans (List.map_id' label))

/-- A label of a folded name is folded. -/
theorem folded?_label (h : folded? name = some folded) (hlabel : label ∈ splitAt '.' folded) :
    folded? label = some label := by
  have hsubset := Text.Form.splitAt_subset '.' folded label hlabel
  have hsettled : ∀ c ∈ label, Settled c.toNat := fun c hc => settled_folded h c (hsubset hc)
  apply folded?_settled hsettled
  by_cases hbeyond : name.all isAscii = true
  · left
    unfold folded? at h
    rw [if_pos hbeyond] at h
    cases h
    refine List.all_eq_true.mpr fun c hc => ?_
    obtain ⟨d, hd, rfl⟩ := List.mem_map.mp (hsubset hc)
    have hsmall := toLower_lt d.toNat (of_decide_eq_true (List.all_eq_true.mp hbeyond d hd))
    rw [Char.ofNat_toNat] at hsmall
    exact decide_eq_true hsmall
  · right
    refine Text.Form.splitAt_all (P := fun text => ofCodes (text.map Char.toNat) = text.map Char.toNat)
      (fun {front back} hfront hcomposed => ?_) (codes_beyond hbeyond h).2 label hlabel
    rw [List.map_append, List.map_cons] at hcomposed
    refine Text.Composed.parts_of_composed (fun hmem => ?_) hcomposed
    obtain ⟨c, hc, hstop⟩ := List.mem_map.mp hmem
    have hsame : c = '.' := Char.toNat_inj.mp hstop
    rw [hsame] at hc
    exact hfront hc

end ValidatorAlarm.Url.Domain
