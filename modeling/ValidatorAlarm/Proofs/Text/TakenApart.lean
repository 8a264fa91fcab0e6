import ValidatorAlarm.Proofs.Text.Tables
import ValidatorAlarm.Text.Composed

/-!
# What characters are taken apart into

The table of composites says what a composite is made of, and no composite is taken apart in more than
three steps (`shallow`).  So a character is taken apart into whole ones (`whole_of_mem`), and what has been
joined is taken apart into what it has been joined from (`takeApart_join`).
-/
namespace ValidatorAlarm.Text

namespace Composite

/-! ### The table of pairs -/

theorem pairs_eq : pairs = Block.rows pairBlocks := by
  rw [Block.rows, List.flatMap_map]
  rfl

/-- The composites among those of some rows that are taken apart within some steps. -/
noncomputable def within (rows : List (Nat × List Nat)) : Nat → CodeSet
  | 0 => 0
  | steps + 1 => .ofRows (fun row => row.2.all fun part =>
      !(CodeSet.ofRows (fun _ => true) rows).has part || (within rows steps).has part) rows

/-- Is the code in the range for the letters of Hangul? -/
def isLetter (code : Nat) : Bool := 0x1100 ≤ code && code < 0x1200

def fullStop : Nat := 46

/-- May the row stand in the table?  Its composite is neither plain nor a syllable or a letter of one, a
full stop is no part of it, and it is taken apart within three steps. -/
noncomputable def isSound (rows : List (Nat × List Nat)) (row : Nat × List Nat) : Bool :=
  128 ≤ row.1 && !Composed.Hangul.isSyllable row.1 && !isLetter row.1 && !row.2.contains fullStop &&
    (within rows 3).has row.1

set_option maxRecDepth 2000 in
theorem pairBlocks_spelled : ∃ texts, Block.Spelled pairBlocks texts ∧
    (Block.areApart (Block.read texts) && (Block.rowsOf (Block.read texts)).all
      (isSound (Block.rowsOf (Block.read texts)))) = true := by
  apply Exists.intro
  apply And.intro
  · unfold pairBlocks
    repeat first | exact .nil | apply Block.Spelled.cons
  · decide +kernel

theorem pairBlocks_areApart : Block.areApart (pairBlocks.map Block.column) = true := by
  obtain ⟨texts, hspelled, hcheck⟩ := pairBlocks_spelled
  rw [hspelled.columns]
  exact (Bool.and_eq_true_iff.mp hcheck).1

theorem isSound_of_mem {row : Nat × List Nat} (h : row ∈ pairs) : isSound pairs row = true := by
  obtain ⟨texts, hspelled, hcheck⟩ := pairBlocks_spelled
  have hrows : pairs = Block.rowsOf (Block.read texts) := by
    rw [pairs_eq, Block.rows, hspelled.columns, Block.rowsOf_eq]
  rw [← hrows] at hcheck
  exact List.all_eq_true.mp (Bool.and_eq_true_iff.mp hcheck).2 row h

variable {code a b : Nat} {parts : List Nat}

theorem split?_eq_some_iff : split? code = some parts ↔ (code, parts) ∈ pairs := by
  rw [pairs_eq]
  exact Block.find?_eq_some_iff pairBlocks_areApart

theorem mem_composites_iff :
    (CodeSet.ofRows (fun _ => true) pairs).has code = true ↔ ∃ parts, split? code = some parts := by
  simp only [CodeSet.has_ofRows, split?_eq_some_iff, and_true]

theorem split?_of_join? (h : join? a b = some code) : split? code = some [a, b] := by
  obtain ⟨row, hfound, rfl⟩ := Option.map_eq_some_iff.mp h
  have hparts := List.find?_some hfound
  have hmem := List.mem_of_find?_eq_some hfound
  rw [split?_eq_some_iff, ← of_decide_eq_true hparts]
  exact hmem

/-- What the table promises about a composite. -/
theorem split?_sound (h : split? code = some parts) :
    128 ≤ code ∧ Composed.Hangul.isSyllable code = false ∧ isLetter code = false ∧ fullStop ∉ parts := by
  have hsound := isSound_of_mem (split?_eq_some_iff.mp h)
  simp only [isSound, Bool.and_eq_true, decide_eq_true_eq, Bool.not_eq_true', List.contains_eq_mem,
    decide_eq_false_iff_not] at hsound
  obtain ⟨⟨⟨⟨hplain, hsyllable⟩, hletter⟩, hstop⟩, -⟩ := hsound
  exact ⟨hplain, hsyllable, hletter, hstop⟩

/-- A code that is taken apart within some steps. -/
inductive Shallow : Nat → Nat → Prop
  | whole {steps code : Nat} (h : split? code = none) : Shallow steps code
  | composite {steps code : Nat} {parts : List Nat} (h : split? code = some parts)
    (hparts : ∀ part ∈ parts, Shallow steps part) : Shallow (steps + 1) code

theorem shallow_of_within {steps : Nat} (h : (within pairs steps).has code = true) :
    Shallow steps code := by
  induction steps generalizing code with
  | zero =>
    rw [within, CodeSet.has_zero] at h
    cases h
  | succ steps ih =>
    rw [within, CodeSet.has_ofRows] at h
    obtain ⟨parts, hrow, hparts⟩ := h
    refine .composite (split?_eq_some_iff.mpr hrow) fun part hpart => ?_
    cases hsplit : split? part with
    | none => exact .whole hsplit
    | some _ =>
      apply ih
      have hcomposite := mem_composites_iff.mpr ⟨_, hsplit⟩
      have hwithin := List.all_eq_true.mp hparts part hpart
      rwa [hcomposite, Bool.not_true, Bool.false_or] at hwithin

/-- Every code is taken apart within three steps. -/
theorem shallow (code : Nat) : Shallow 3 code := by
  cases hsplit : split? code with
  | none => exact .whole hsplit
  | some parts =>
    have hsound := isSound_of_mem (split?_eq_some_iff.mp hsplit)
    exact shallow_of_within (Bool.and_eq_true_iff.mp hsound).2

end Composite

namespace Composed

open Composite (split? Shallow fullStop)

variable {code a b : Nat}

/-! ### Taking apart -/

/-- A code that cannot be taken apart. -/
def Whole (code : Nat) : Prop := takeApart depth code = [code]

theorem Hangul.isIn_iff (start count : Nat) :
    Hangul.isIn start count code = true ↔ start ≤ code ∧ code < start + count := by
  rw [Hangul.isIn, Bool.and_eq_true, decide_eq_true_eq, decide_eq_true_eq]

theorem isSyllable_range : Hangul.isSyllable code = true ↔ 0xAC00 ≤ code ∧ code < 0xD7A4 := by
  rw [Hangul.isSyllable, Hangul.isIn_iff]
  rfl

theorem takeApart_plain (h : code < 128) (fuel : Nat) : takeApart fuel code = [code] := by
  cases fuel with
  | zero => rfl
  | succ fuel => rw [takeApart, if_pos h]

theorem takeApart_syllable (h : Hangul.isSyllable code = true) (fuel : Nat) :
    takeApart (fuel + 1) code = Hangul.letters code := by
  have hrange := isSyllable_range.mp h
  rw [takeApart, if_neg (by omega), if_pos h]

theorem takeApart_none (hsyllable : Hangul.isSyllable code = false) (h : split? code = none)
    (fuel : Nat) : takeApart fuel code = [code] := by
  cases fuel with
  | zero => rfl
  | succ fuel =>
    rw [takeApart, if_neg (Bool.eq_false_iff.mp hsyllable), h]
    split <;> rfl

theorem takeApart_some {parts : List Nat} (h : split? code = some parts) (fuel : Nat) :
    takeApart (fuel + 1) code = parts.flatMap (takeApart fuel) := by
  obtain ⟨hplain, hsyllable, -, -⟩ := Composite.split?_sound h
  rw [takeApart, if_neg (by omega), if_neg (Bool.eq_false_iff.mp hsyllable), h]

theorem takeApart_shallow {steps : Nat} (h : Shallow steps code) {fuel : Nat}
    (hfuel : steps < fuel) : takeApart (fuel + 1) code = takeApart fuel code := by
  induction h generalizing fuel with
  | @whole steps code h =>
    obtain ⟨fuel, rfl⟩ : ∃ more, fuel = more + 1 := ⟨fuel - 1, by omega⟩
    cases hsyllable : Hangul.isSyllable code with
    | false => rw [takeApart_none hsyllable h, takeApart_none hsyllable h]
    | true => rw [takeApart_syllable hsyllable, takeApart_syllable hsyllable]
  | @composite steps code parts h _ ih =>
    obtain ⟨fuel, rfl⟩ : ∃ more, fuel = more + 1 := ⟨fuel - 1, by omega⟩
    rw [takeApart_some h, takeApart_some h]
    exact List.flatMap_congr fun part hpart => ih part hpart (by omega)

/-- A composite is taken apart into what its parts are taken apart into. -/
theorem takeApart_split {parts : List Nat} (h : split? code = some parts) :
    takeApart depth code = parts.flatMap (takeApart depth) := by
  have hall := Composite.shallow code
  cases hall with
  | whole hnone =>
    rw [hnone] at h
    cases h
  | composite hsplit hparts =>
    obtain rfl := Option.some.inj (hsplit.symm.trans h)
    rw [depth, takeApart_some hsplit]
    exact List.flatMap_congr fun part hpart => (takeApart_shallow (hparts part hpart) (by omega)).symm

theorem whole_of_letter (h : Composite.isLetter code = true) : Whole code := by
  have hrange : 0x1100 ≤ code ∧ code < 0x1200 := by simpa [Composite.isLetter] using h
  have hsyllable : Hangul.isSyllable code = false := by
    rw [Bool.eq_false_iff, Ne, isSyllable_range]
    omega
  refine takeApart_none hsyllable ?_ depth
  cases hsplit : split? code with
  | none => rfl
  | some parts =>
    have hletter := (Composite.split?_sound hsplit).2.2.1
    rw [h] at hletter
    cases hletter

theorem Hangul.letters_eq (code : Nat) : Hangul.letters code =
    [0x1100 + (code - 0xAC00) / 588, 0x1161 + (code - 0xAC00) / 28 % 21] ++
      (if (code - 0xAC00) % 28 = 0 then [] else [0x11A7 + (code - 0xAC00) % 28]) := by
  unfold Hangul.letters Hangul.syllables Hangul.firsts Hangul.seconds Hangul.secondCount Hangul.thirds
    Hangul.thirdCount
  generalize code - 0xAC00 = n
  by_cases h : n % 28 = 0
  · simp [h]
  · simp [h]

theorem letters_isLetter (h : Hangul.isSyllable code = true) :
    ∀ letter ∈ Hangul.letters code, Composite.isLetter letter = true := by
  have hrange := isSyllable_range.mp h
  intro letter hletter
  rw [Hangul.letters_eq] at hletter
  have hbounds : 0x1100 ≤ letter ∧ letter < 0x1200 := by
    rcases List.mem_append.mp hletter with hletter | hletter
    · simp only [List.mem_cons, List.not_mem_nil, or_false] at hletter
      omega
    · split at hletter
      · cases hletter
      · rw [List.mem_singleton] at hletter
        omega
  simpa [Composite.isLetter] using hbounds

/-- Codes are taken apart by cases: a code is whole, or a syllable, or a composite. -/
theorem takeApart_induction {motive : Nat → Prop} (whole : ∀ code, Whole code → motive code)
    (syllable : ∀ code, Hangul.isSyllable code = true → motive code)
    (composite : ∀ code parts, split? code = some parts → (∀ part ∈ parts, motive part) → motive code)
    (code : Nat) : motive code := by
  have hall : ∀ steps code, Shallow steps code → motive code := by
    intro steps code h
    induction h with
    | @whole steps code h =>
      cases hsyllable : Hangul.isSyllable code with
      | false => exact whole code (takeApart_none hsyllable h depth)
      | true => exact syllable code hsyllable
    | composite h _ ih => exact composite _ _ h ih
  exact hall 3 code (Composite.shallow code)

/-- What codes are taken apart into is whole. -/
theorem whole_of_mem (code : Nat) : ∀ part ∈ takeApart depth code, Whole part := by
  induction code using takeApart_induction with
  | whole code h =>
    intro part hpart
    rw [h] at hpart
    rwa [List.mem_singleton.mp hpart]
  | syllable code h =>
    intro part hpart
    rw [depth, takeApart_syllable h] at hpart
    exact whole_of_letter (letters_isLetter h part hpart)
  | composite code parts h ih =>
    intro part hpart
    rw [takeApart_split h, List.mem_flatMap] at hpart
    obtain ⟨first, hfirst, hpart⟩ := hpart
    exact ih first hfirst part hpart

/-! ### Joining undone -/

/-- The two ways in which syllables are made. -/
theorem Hangul.join?_cases {syllable : Nat} (h : Hangul.join? a b = some syllable) :
    (0x1100 ≤ a ∧ a < 0x1113 ∧ 0x1161 ≤ b ∧ b < 0x1176 ∧
      syllable = 0xAC00 + ((a - 0x1100) * 21 + (b - 0x1161)) * 28) ∨
    (Hangul.isSyllable a = true ∧ (a - 0xAC00) % 28 = 0 ∧ 0x11A8 ≤ b ∧ b < 0x11C3 ∧
      syllable = a + (b - 0x11A7)) := by
  unfold Hangul.join? Hangul.isIn Hangul.syllables Hangul.firsts Hangul.firstCount Hangul.seconds
    Hangul.secondCount Hangul.thirds Hangul.thirdCount at h
  simp only [Bool.and_eq_true, decide_eq_true_eq] at h
  split at h
  · have hsyllable := Option.some.inj h
    exact .inl (by omega)
  · split at h
    · rename_i hthird
      have hsyllable := Option.some.inj h
      exact .inr ⟨hthird.1.1, by omega⟩
    · cases h

theorem Hangul.isSyllable_join {syllable : Nat} (h : Hangul.join? a b = some syllable) :
    Hangul.isSyllable syllable = true := by
  rw [isSyllable_range]
  rcases Hangul.join?_cases h with hpair | ⟨hfirst, hthird⟩
  · omega
  · have hrange := isSyllable_range.mp hfirst
    omega

theorem Hangul.takeApart_join {syllable : Nat} (h : Hangul.join? a b = some syllable) :
    takeApart depth syllable = takeApart depth a ++ [b] := by
  rw [depth, takeApart_syllable (Hangul.isSyllable_join h), Hangul.letters_eq]
  rcases Hangul.join?_cases h with hpair | ⟨hsyllable, hthird⟩
  · have ha : takeApart depth a = [a] :=
      whole_of_letter (by simp only [Composite.isLetter, Bool.and_eq_true, decide_eq_true_eq]; omega)
    have hfirst : 0x1100 + (syllable - 0xAC00) / 588 = a := by omega
    have hsecond : 0x1161 + (syllable - 0xAC00) / 28 % 21 = b := by omega
    rw [depth] at ha
    rw [ha, if_pos (by omega), hfirst, hsecond]
    rfl
  · have hrange := isSyllable_range.mp hsyllable
    have hfirst : (syllable - 0xAC00) / 588 = (a - 0xAC00) / 588 := by omega
    have hsecond : (syllable - 0xAC00) / 28 = (a - 0xAC00) / 28 := by omega
    have hlast : 0x11A7 + (syllable - 0xAC00) % 28 = b := by omega
    rw [takeApart_syllable hsyllable, Hangul.letters_eq, if_pos hthird.1, if_neg (by omega), hfirst, hsecond,
      hlast, List.append_nil]

theorem takeApart_join {joined : Nat} (h : join? a b = some joined) (hb : Whole b) :
    takeApart depth joined = takeApart depth a ++ [b] := by
  unfold join? at h
  split at h
  · rename_i hsyllable
    cases h
    exact Hangul.takeApart_join hsyllable
  · rw [takeApart_split (Composite.split?_of_join? h)]
    simp [show takeApart depth b = [b] from hb]

end Composed

end ValidatorAlarm.Text
