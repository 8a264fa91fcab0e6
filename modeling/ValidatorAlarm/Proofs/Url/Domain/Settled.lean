import ValidatorAlarm.Proofs.Text.Composed
import ValidatorAlarm.Url.Domain.Mapping

/-!
# Characters that stand for themselves

A settled character stands for itself.  Every character that may occur in a name stands for characters
that are taken apart into settled ones (`firm_of_meaning`), and joining settled characters makes a settled
one (`settled_join`).  So the form in which a name is compared consists of settled characters.

All this is in the tables, and is read off them by computing with sets of codes.
-/
namespace ValidatorAlarm.Url.Domain

open Text (CodeSet Block Run inRanges)
open Text.Composed (takeApart depth)

/-! ### What is computed -/

abbrev Rows := List (Nat × List Nat)

/-- What the tables say about codes below this bound is all they say, but for ranges of unprintable
characters. -/
def limit : Nat := 0x30000

def runCodes (run : Run) : List Nat :=
  (List.range ((run.last - run.first) / run.step + 1)).map (run.first + run.step * ·)

/-- The codes that others stand in for. -/
noncomputable def replaced (standIns : Rows) : CodeSet :=
  .ofList (standInRuns.flatMap runCodes) ||| .ofRows (fun _ => true) standIns

/-- The codes that stand in for others. -/
noncomputable def standingIn (standIns : Rows) : CodeSet :=
  .ofList (standInRuns.flatMap fun run =>
    (runCodes run).map fun (code : Nat) => ((code : Int) + run.shift).toNat) ||| .listedIn standIns

/-- The codes that are found in some table, and those that no character has. -/
noncomputable def moved (standIns : Rows) : CodeSet :=
  .ofRanges silentRanges ||| replaced standIns ||| .ofRanges bannedRanges |||
    .ofRanges (Text.unprintableRanges.filter (·.1 < limit)) ||| .ofRange 0xD800 0xDFFF

noncomputable def composites (pairs : Rows) : CodeSet := .ofRows (fun _ => true) pairs

/-- The codes of which some steps do not show that they are taken apart into codes that are not moved. -/
noncomputable def loose (pairs standIns : Rows) : Nat → CodeSet
  | 0 => moved standIns ||| composites pairs
  | steps + 1 => (moved standIns).without (composites pairs) |||
      .ofRows (fun row => row.2.any fun part => limit ≤ part || (loose pairs standIns steps).has part) pairs

/-- The composites of which no part is replaced. -/
noncomputable def joinable (pairs standIns : Rows) : CodeSet :=
  .ofRows (fun row => !row.2.any (replaced standIns).has) pairs

/-- Ranges of codes that are found in no table: the syllables of Hangul, and their first, second and third
letters. -/
def hangulRanges : List (Nat × Nat) :=
  [(0xAC00, 0xD7A3), (0x1100, 0x1112), (0x1161, 0x1175), (0x11A8, 0x11C2)]

/-- The ideographs that have been in Unicode from the beginning. -/
def ideographs : Nat × Nat := (0x4E00, 0x9FA5)

def isIdeograph (code : Nat) : Bool := ideographs.1 ≤ code && code ≤ ideographs.2

/-- Does everything hold of the rows that is read off the tables? -/
noncomputable def tablesFit (pairs standIns : Rows) : Bool :=
  CodeSet.avoids limit (standingIn standIns) (loose pairs standIns 3 ||| replaced standIns) &&
    CodeSet.avoids limit ((composites pairs).without (replaced standIns)) (loose pairs standIns 3) &&
    CodeSet.avoids limit (joinable pairs standIns) (moved standIns) &&
    (hangulRanges.all fun range => CodeSet.avoids limit (.ofRange range.1 range.2) (moved standIns)) &&
    CodeSet.avoids limit (.ofRange ideographs.1 ideographs.2)
      (moved standIns ||| composites pairs ||| .listedIn pairs)

set_option maxRecDepth 10000 in
theorem tables_spelled : ∃ pairs standIns, Block.Spelled Text.Composite.pairBlocks pairs ∧
    Block.Spelled standInBlocks standIns ∧ (Block.areApart (Block.read standIns) &&
      tablesFit (Block.rowsOf (Block.read pairs)) (Block.rowsOf (Block.read standIns))) = true := by
  apply Exists.intro
  apply Exists.intro
  refine And.intro ?_ (And.intro ?_ ?_)
  · unfold Text.Composite.pairBlocks
    repeat first | exact .nil | apply Block.Spelled.cons
  · unfold standInBlocks
    repeat first | exact .nil | apply Block.Spelled.cons
  · decide +kernel

/-! ### What the computation says -/

/-- The rows of the tables, and what has been computed of them. -/
structure Tables (pairs standIns : Rows) : Prop where
  split : ∀ {code : Nat} {parts : List Nat},
    Text.Composite.split? code = some parts ↔ (code, parts) ∈ pairs
  find : ∀ {code : Nat} {outs : List Nat}, Block.find? standInBlocks code = some outs ↔ (code, outs) ∈ standIns
  /-- What stands in for a code is firm, and nothing stands in for it. -/
  standInsFit : CodeSet.avoids limit (standingIn standIns) (loose pairs standIns 3 ||| replaced standIns) = true
  /-- A composite is firm unless it is replaced. -/
  compositesFit : CodeSet.avoids limit ((composites pairs).without (replaced standIns))
    (loose pairs standIns 3) = true
  /-- A composite is in no table unless a part of it is replaced. -/
  joinableFit : CodeSet.avoids limit (joinable pairs standIns) (moved standIns) = true
  hangulFit : ∀ range ∈ hangulRanges,
    CodeSet.avoids limit (.ofRange range.1 range.2) (moved standIns) = true
  /-- Ideographs are found in no table, and they are neither composites nor parts of them. -/
  ideographsFit : CodeSet.avoids limit (.ofRange ideographs.1 ideographs.2)
    (moved standIns ||| composites pairs ||| .listedIn pairs) = true

theorem exists_tables : ∃ pairs standIns, Tables pairs standIns := by
  obtain ⟨pairs, standIns, hpairs, hstandIns, hcheck⟩ := tables_spelled
  simp only [tablesFit, Bool.and_eq_true, List.all_eq_true] at hcheck
  obtain ⟨happart, ⟨⟨⟨hstandingIn, hcomposites⟩, hjoinable⟩, hhangul⟩, hideographs⟩ := hcheck
  refine ⟨_, _, ?_, ?_, hstandingIn, hcomposites, hjoinable, hhangul, hideographs⟩
  · intro code parts
    rw [Block.rowsOf_eq, ← hpairs.columns, Text.Composite.split?_eq_some_iff, Text.Composite.pairs_eq, Block.rows]
  · intro code outs
    rw [Block.rowsOf_eq, ← hstandIns.columns]
    rw [← hstandIns.columns] at happart
    exact Block.find?_eq_some_iff happart

/-- A character that stands for itself. -/
def Settled (code : Nat) : Prop := code.isValidChar ∧ meaning? code = some [code]

variable {pairs standIns : Rows} {code a b : Nat}

theorem holds_of_find? {other : Nat} (h : Run.find? standInRuns code = some other) :
    ∃ run ∈ standInRuns, run.holds code = true ∧ other = ((code : Int) + run.shift).toNat := by
  obtain ⟨run, hfound, rfl⟩ := Option.map_eq_some_iff.mp h
  have hholds := List.find?_some hfound
  exact ⟨run, List.mem_of_find?_eq_some hfound, hholds, rfl⟩

theorem mem_runCodes {run : Run} (hrun : run ∈ standInRuns) : code ∈ runCodes run ↔ run.holds code = true := by
  have hascend : ∀ run ∈ standInRuns, run.first ≤ run.last := by decide +kernel
  have hends := hascend run hrun
  rw [runCodes, List.mem_map, Run.holds_iff]
  constructor
  · rintro ⟨i, hi, rfl⟩
    rw [List.mem_range, Nat.lt_succ_iff] at hi
    have hlast : run.step * i ≤ run.last - run.first :=
      (Nat.mul_le_mul_left _ hi).trans (Nat.mul_div_le ..)
    refine ⟨Nat.le_add_right .., by omega, ?_⟩
    rw [Nat.add_sub_cancel_left, Nat.mul_mod_right]
  · rintro ⟨hfirst, hlast, hstep⟩
    refine ⟨(code - run.first) / run.step, ?_, ?_⟩
    · rw [List.mem_range, Nat.lt_succ_iff]
      exact Nat.div_le_div_right (by omega)
    · have hparts := Nat.div_add_mod (code - run.first) run.step
      omega

theorem mem_runs_iff : code ∈ standInRuns.flatMap runCodes ↔ ∃ other, Run.find? standInRuns code = some other := by
  rw [List.mem_flatMap]
  constructor
  · rintro ⟨run, hrun, hcode⟩
    have hsome : (standInRuns.find? (·.holds code)).isSome :=
      List.find?_isSome.mpr ⟨run, hrun, (mem_runCodes hrun).mp hcode⟩
    obtain ⟨found, hfound⟩ := Option.isSome_iff_exists.mp hsome
    exact ⟨_, by rw [Run.find?, hfound, Option.map_some]⟩
  · rintro ⟨other, hfind⟩
    obtain ⟨run, hrun, hholds, -⟩ := holds_of_find? hfind
    exact ⟨run, hrun, (mem_runCodes hrun).mpr hholds⟩

theorem inRanges_filter (hcode : code < limit) (ranges : List (Nat × Nat)) :
    inRanges (ranges.filter (·.1 < limit)) code = inRanges ranges code := by
  rw [Bool.eq_iff_iff]
  simp only [inRanges, List.any_eq_true, List.mem_filter, Bool.and_eq_true, decide_eq_true_eq]
  constructor
  · rintro ⟨range, ⟨hmem, -⟩, hin⟩
    exact ⟨range, hmem, hin⟩
  · rintro ⟨range, hmem, hin⟩
    exact ⟨range, ⟨hmem, by omega⟩, hin⟩

theorem isIdeograph_range : isIdeograph code = true ↔ 0x4E00 ≤ code ∧ code ≤ 0x9FA5 := by
  rw [isIdeograph, Bool.and_eq_true, decide_eq_true_eq, decide_eq_true_eq]
  rfl

/-- A code that is taken apart into settled ones. -/
def Firm (code : Nat) : Prop := ∀ part ∈ takeApart depth code, Settled part

namespace Tables

variable (t : Tables pairs standIns)
include t

theorem mem_replaced : (replaced standIns).has code = true ↔
    (∃ other, Run.find? standInRuns code = some other) ∨ ∃ outs, Block.find? standInBlocks code = some outs := by
  simp only [replaced, CodeSet.has_or, Bool.or_eq_true, CodeSet.has_ofList, mem_runs_iff, t.find,
    CodeSet.has_ofRows, and_true]

theorem mem_composites : (composites pairs).has code = true ↔ ∃ parts, Text.Composite.split? code = some parts := by
  simp only [composites, CodeSet.has_ofRows, t.split, and_true]

theorem settled_of_not_moved (hlimit : code < limit) (h : (moved standIns).has code = false) : Settled code := by
  simp only [moved, CodeSet.has_or, CodeSet.has_ofRanges, Bool.or_eq_false_iff] at h
  obtain ⟨⟨⟨⟨hsilent, hreplaced⟩, hbanned⟩, hunprintable⟩, hsurrogate⟩ := h
  rw [inRanges_filter hlimit] at hunprintable
  rw [← Bool.not_eq_true, t.mem_replaced, not_or, not_exists, not_exists] at hreplaced
  rw [← Bool.not_eq_true, CodeSet.has_ofRange] at hsurrogate
  have hrun := Option.eq_none_iff_forall_ne_some.mpr hreplaced.1
  have hblock := Option.eq_none_iff_forall_ne_some.mpr hreplaced.2
  have hfree : isBanned code = false := by simp [isBanned, hbanned, hunprintable]
  have hlow : code < 0x30000 := hlimit
  refine ⟨?_, ?_⟩
  · rw [Nat.isValidChar]
    omega
  · simp [meaning?, hsilent, hrun, hblock, hfree]

/-- What a code stands for stands in for it, unless it is the code alone. -/
theorem meaning_cases {outs : List Nat} (h : meaning? code = some outs) :
    (∀ out ∈ outs, (standingIn standIns).has out = true) ∨
      outs = [code] ∧ (replaced standIns).has code = false := by
  unfold meaning? at h
  split at h
  · cases h
    exact .inl nofun
  · split at h
    · rename_i other hfind
      cases h
      refine .inl (List.forall_mem_singleton.mpr ?_)
      obtain ⟨run, hrun, hholds, rfl⟩ := holds_of_find? hfind
      rw [standingIn, CodeSet.has_or, (CodeSet.has_ofList _).mpr, Bool.true_or]
      exact List.mem_flatMap.mpr ⟨run, hrun, List.mem_map.mpr ⟨code, (mem_runCodes hrun).mpr hholds, rfl⟩⟩
    · rename_i hrun
      split at h
      · rename_i others hfind
        cases h
        refine .inl fun out hout => ?_
        rw [standingIn, CodeSet.has_or, (CodeSet.has_listedIn _).mpr ⟨_, t.find.mp hfind, hout⟩, Bool.or_true]
      · rename_i hblock
        split at h
        · cases h
        · cases h
          refine .inr ⟨rfl, ?_⟩
          rw [← Bool.not_eq_true, t.mem_replaced, hrun, hblock]
          simp

theorem not_settled_of_replaced (h : (replaced standIns).has code = true) : ¬ Settled code := by
  rintro ⟨-, hsettled⟩
  rcases t.meaning_cases hsettled with hin | ⟨-, hnot⟩
  · have hfit := (CodeSet.avoids_spec t.standInsFit (hin code List.mem_cons_self)).2
    rw [CodeSet.has_or, h, Bool.or_true] at hfit
    cases hfit
  · rw [h] at hnot
    cases hnot

/-- The tables leave the syllables and letters of Hangul alone. -/
theorem settled_hangul {first last : Nat} (hrange : (first, last) ∈ hangulRanges) (hfirst : first ≤ code)
    (hlast : code ≤ last) : Settled code := by
  have hfit := CodeSet.avoids_spec (t.hangulFit _ hrange) ((CodeSet.has_ofRange _ _).mpr ⟨hfirst, hlast⟩)
  exact t.settled_of_not_moved hfit.1 hfit.2

theorem split?_of_not_composite (h : (composites pairs).has code = false) :
    Text.Composite.split? code = none := by
  rw [← Bool.not_eq_true, t.mem_composites, not_exists] at h
  exact Option.eq_none_iff_forall_ne_some.mpr h

/-- An ideograph stands for itself and is no composite. -/
theorem settled_ideograph (h : isIdeograph code = true) :
    Settled code ∧ Text.Composite.split? code = none := by
  obtain ⟨hlimit, hfit⟩ := CodeSet.avoids_spec t.ideographsFit
    ((CodeSet.has_ofRange _ _).mpr (isIdeograph_range.mp h))
  simp only [CodeSet.has_or, Bool.or_eq_false_iff] at hfit
  exact ⟨t.settled_of_not_moved hlimit hfit.1.1, t.split?_of_not_composite hfit.1.2⟩

/-- Nothing is joined with an ideograph. -/
theorem join?_ideograph (h : isIdeograph b = true) (a : Nat) : Text.Composed.join? a b = none := by
  have hrange := isIdeograph_range.mp h
  unfold Text.Composed.join?
  split
  · rename_i hjoin
    rcases Text.Composed.Hangul.join?_cases hjoin with hpair | hthird
    · omega
    · omega
  · cases hjoin : Text.Composite.join? a b with
    | none => rfl
    | some joined =>
      have hfit := (CodeSet.avoids_spec t.ideographsFit ((CodeSet.has_ofRange _ _).mpr hrange)).2
      have hlisted := (CodeSet.has_listedIn pairs).mpr
        ⟨_, t.split.mp (Text.Composite.split?_of_join? hjoin), List.mem_cons_of_mem _ List.mem_cons_self⟩
      rw [CodeSet.has_or, hlisted, Bool.or_true] at hfit
      cases hfit

theorem firm_syllable (h : Text.Composed.Hangul.isSyllable code = true) : Firm code := by
  have hrange := Text.Composed.isSyllable_range.mp h
  have hfirsts : (0x1100, 0x1112) ∈ hangulRanges := by decide
  have hseconds : (0x1161, 0x1175) ∈ hangulRanges := by decide
  have hthirds : (0x11A8, 0x11C2) ∈ hangulRanges := by decide
  intro letter hletter
  rw [depth, Text.Composed.takeApart_syllable h, Text.Composed.Hangul.letters_eq] at hletter
  rcases List.mem_append.mp hletter with hletter | hletter
  · simp only [List.mem_cons, List.not_mem_nil, or_false] at hletter
    rcases hletter with rfl | rfl
    · exact t.settled_hangul hfirsts (by omega) (by omega)
    · exact t.settled_hangul hseconds (by omega) (by omega)
  · split at hletter
    · cases hletter
    · rw [List.mem_singleton] at hletter
      exact t.settled_hangul hthirds (by omega) (by omega)

theorem firm_of_whole (hsplit : Text.Composite.split? code = none) (h : Settled code) : Firm code := by
  cases hsyllable : Text.Composed.Hangul.isSyllable code with
  | true => exact t.firm_syllable hsyllable
  | false =>
    intro part hpart
    rw [Text.Composed.takeApart_none hsyllable hsplit, List.mem_singleton] at hpart
    rwa [hpart]

omit t in
theorem firm_of_parts {parts : List Nat} (hsplit : Text.Composite.split? code = some parts)
    (h : ∀ part ∈ parts, Firm part) : Firm code := by
  intro last hlast
  rw [Text.Composed.takeApart_split hsplit, List.mem_flatMap] at hlast
  obtain ⟨part, hpart, hlast⟩ := hlast
  exact h part hpart last hlast

theorem firm_of_not_loose {steps : Nat} (hlimit : code < limit)
    (h : (loose pairs standIns steps).has code = false) : Firm code := by
  induction steps generalizing code with
  | zero =>
    rw [loose, CodeSet.has_or, Bool.or_eq_false_iff] at h
    exact t.firm_of_whole (t.split?_of_not_composite h.2) (t.settled_of_not_moved hlimit h.1)
  | succ steps ih =>
    rw [loose, CodeSet.has_or, Bool.or_eq_false_iff, CodeSet.has_without] at h
    obtain ⟨hmoved, hrows⟩ := h
    cases hcomposite : (composites pairs).has code with
    | false =>
      rw [hcomposite, Bool.not_false, Bool.and_true] at hmoved
      exact t.firm_of_whole (t.split?_of_not_composite hcomposite) (t.settled_of_not_moved hlimit hmoved)
    | true =>
      obtain ⟨parts, hsplit⟩ := t.mem_composites.mp hcomposite
      refine firm_of_parts hsplit fun part hpart => ?_
      have hpart : (decide (limit ≤ part) || (loose pairs standIns steps).has part) = false := by
        by_contra hloose
        rw [Bool.not_eq_false] at hloose
        rw [(CodeSet.has_ofRows _ _).mpr
          ⟨parts, t.split.mp hsplit, List.any_eq_true.mpr ⟨part, hpart, hloose⟩⟩] at hrows
        cases hrows
      rw [Bool.or_eq_false_iff, decide_eq_false_iff_not, Nat.not_le] at hpart
      exact ih hpart.1 hpart.2

/-- A settled character is taken apart into settled ones. -/
theorem firm_of_settled (h : Settled code) : Firm code := by
  cases hsplit : Text.Composite.split? code with
  | none => exact t.firm_of_whole hsplit h
  | some parts =>
    have hreplaced : (replaced standIns).has code = false :=
      Bool.eq_false_iff.mpr fun hreplaced => t.not_settled_of_replaced hreplaced h
    obtain ⟨hlimit, hfit⟩ := CodeSet.avoids_spec t.compositesFit (by
      rw [CodeSet.has_without, t.mem_composites.mpr ⟨parts, hsplit⟩, hreplaced]; rfl)
    exact t.firm_of_not_loose hlimit hfit

theorem firm_of_meaning {outs : List Nat} (hcode : code.isValidChar) (h : meaning? code = some outs) :
    ∀ out ∈ outs, Firm out := by
  intro out hout
  rcases t.meaning_cases h with hin | ⟨rfl, -⟩
  · obtain ⟨hlimit, hfit⟩ := CodeSet.avoids_spec t.standInsFit (hin out hout)
    rw [CodeSet.has_or, Bool.or_eq_false_iff] at hfit
    exact t.firm_of_not_loose hlimit hfit.1
  · rw [List.mem_singleton.mp hout]
    exact t.firm_of_settled ⟨hcode, h⟩

theorem settled_join {joined : Nat} (h : Text.Composed.join? a b = some joined) (ha : Settled a)
    (hb : Settled b) : Settled joined := by
  unfold Text.Composed.join? at h
  split at h
  · rename_i hsyllable
    cases h
    have hrange := Text.Composed.isSyllable_range.mp (Text.Composed.Hangul.isSyllable_join hsyllable)
    have hsyllables : (0xAC00, 0xD7A3) ∈ hangulRanges := by decide
    exact t.settled_hangul hsyllables (by omega) (by omega)
  · have hparts : ∀ part ∈ [a, b], (replaced standIns).has part = false := by
      intro part hpart
      refine Bool.eq_false_iff.mpr fun hreplaced => t.not_settled_of_replaced hreplaced ?_
      rcases List.mem_pair.mp hpart with rfl | rfl
      · exact ha
      · exact hb
    have hjoinable : (joinable pairs standIns).has joined = true := by
      refine (CodeSet.has_ofRows _ _).mpr ⟨_, t.split.mp (Text.Composite.split?_of_join? h), ?_⟩
      rw [Bool.not_eq_true', List.any_eq_false]
      exact fun part hpart => Bool.eq_false_iff.mp (hparts part hpart)
    have hfit := CodeSet.avoids_spec t.joinableFit hjoinable
    exact t.settled_of_not_moved hfit.1 hfit.2

end Tables

/-! ### Settled texts -/

/-- What characters stand for is composed of settled characters. -/
theorem settled_ofCodes {codes : List Nat}
    (h : ∀ code ∈ codes, ∃ origin outs, origin.isValidChar ∧ meaning? origin = some outs ∧ code ∈ outs) :
    ∀ code ∈ Text.Composed.ofCodes codes, Settled code := by
  obtain ⟨pairs, standIns, t⟩ := exists_tables
  refine Text.Composed.ofCodes_all t.settled_join fun code hcode => ?_
  obtain ⟨origin, outs, hvalid, hmeaning, hmem⟩ := h code hcode
  exact t.firm_of_meaning hvalid hmeaning code hmem

end ValidatorAlarm.Url.Domain
