import Mathlib.Data.List.Chain
import Mathlib.Data.Nat.Bitwise
import ValidatorAlarm.Text.Blocks
import ValidatorAlarm.Text.Runs
import ValidatorAlarm.Text.Unprintable

/-!
# The rows of a table

What holds of a table of characters is found out by looking at all of its rows.  The tables are large,
so this is left to computing, in a form in which computing is quick: the texts of a table are taken as
lists of characters (`Spelled`), lists are folded by their recursor (`fold`), and a set of codes is a number
whose binary digits say which codes it holds.

If the blocks of a table do not overlap, then looking a code up finds its row (`find?_eq_some_iff`).
-/
namespace ValidatorAlarm.Text

/-! ### Folding -/

/-- `List.foldr`, straight from the recursor.  The kernel unfolds the recursor in one step, and a recursion
in many. -/
noncomputable def fold {α β : Type} (f : α → β → β) (last : β) (items : List α) : β :=
  List.rec (motive := fun _ => β) last (fun item _ folded => f item folded) items

/-! ### Sets of codes -/

/-- A set of codes, as the digits of a number. -/
abbrev CodeSet := Nat

namespace CodeSet

variable {s t : CodeSet} {code : Nat}

/-- The digit of the code is looked for where it stands: shifting it down leaves a long number, and what a
check by the kernel has computed is kept until the check is over. -/
def has (s : CodeSet) (code : Nat) : Bool := Nat.blt 0 (Nat.land s (Nat.shiftLeft 1 code))

noncomputable def ofList (codes : List Nat) : CodeSet := fold (fun code s => s ||| 1 <<< code) 0 codes

def ofRange (first last : Nat) : CodeSet := (Nat.pow 2 (last + 1 - first) - 1) <<< first

noncomputable def ofRanges (ranges : List (Nat × Nat)) : CodeSet :=
  fold (fun range s => s ||| ofRange range.1 range.2) 0 ranges

/-- The codes of the rows that are looked for. -/
noncomputable def ofRows (test : Nat × List Nat → Bool) (rows : List (Nat × List Nat)) : CodeSet :=
  fold (fun row s => if test row then s ||| 1 <<< row.1 else s) 0 rows

/-- The codes that are listed in some rows. -/
noncomputable def listedIn (rows : List (Nat × List Nat)) : CodeSet :=
  fold (fun row s => fold (fun code s => s ||| 1 <<< code) s row.2) 0 rows

def without (s t : CodeSet) : CodeSet := s ^^^ (s &&& t)

theorem has_eq (s : CodeSet) (code : Nat) : s.has code = Nat.testBit s code := by
  have hdigit : Nat.land s (Nat.shiftLeft 1 code) = (Nat.testBit s code).toNat * 2 ^ code := by
    rw [← Nat.and_two_pow, ← Nat.one_shiftLeft]
    rfl
  rw [Bool.eq_iff_iff, has, hdigit, Nat.blt_eq]
  cases Nat.testBit s code with
  | false => simp
  | true => exact iff_of_true (by rw [Bool.toNat_true, Nat.one_mul]; exact Nat.two_pow_pos code) rfl

@[simp] theorem has_zero : has 0 code = false := by rw [has_eq, Nat.zero_testBit]

@[simp] theorem has_or : has (s ||| t) code = (s.has code || t.has code) := by
  simp only [has_eq, Nat.testBit_or]

theorem has_without : (s.without t).has code = (s.has code && !t.has code) := by
  simp only [has_eq, without, Nat.testBit_xor, Nat.testBit_and]
  cases Nat.testBit s code <;> simp

theorem has_single (other : Nat) : has (1 <<< other) code = decide (code = other) := by
  rw [has_eq, Nat.one_shiftLeft, Nat.testBit_two_pow]
  exact decide_eq_decide.mpr eq_comm

theorem has_added (codes : List Nat) :
    has (fold (fun code s => s ||| 1 <<< code) s codes) code = true ↔ s.has code = true ∨ code ∈ codes := by
  induction codes with
  | nil => exact ⟨.inl, fun h => h.resolve_right (List.not_mem_nil)⟩
  | cons first codes ih =>
    have hstep : fold (fun code s => s ||| 1 <<< code) s (first :: codes) =
      fold (fun code s => s ||| 1 <<< code) s codes ||| 1 <<< first := rfl
    rw [hstep, has_or, has_single, Bool.or_eq_true, decide_eq_true_eq, ih, List.mem_cons, or_assoc,
      or_comm (a := code ∈ codes)]

theorem has_ofList (codes : List Nat) : (ofList codes).has code = true ↔ code ∈ codes := by
  rw [ofList, has_added, has_zero]
  exact ⟨fun h => h.resolve_left Bool.false_ne_true, .inr⟩

theorem has_ofRows (test : Nat × List Nat → Bool) (rows : List (Nat × List Nat)) :
    (ofRows test rows).has code = true ↔ ∃ out, (code, out) ∈ rows ∧ test (code, out) = true := by
  induction rows with
  | nil => simp [ofRows, fold]
  | cons row rows ih =>
    obtain ⟨first, listed⟩ := row
    have hstep : ofRows test ((first, listed) :: rows) =
      if test (first, listed) then ofRows test rows ||| 1 <<< first else ofRows test rows := rfl
    simp only [hstep, List.mem_cons, Prod.mk.injEq, or_and_right, exists_or, ← ih]
    split
    · rename_i htest
      rw [has_or, has_single, Bool.or_eq_true, decide_eq_true_eq, or_comm]
      refine or_congr_left ⟨?_, ?_⟩
      · rintro rfl
        exact ⟨listed, ⟨rfl, rfl⟩, htest⟩
      · rintro ⟨_, ⟨hcode, -⟩, -⟩
        exact hcode
    · rename_i htest
      refine (or_iff_right ?_).symm
      rintro ⟨_, ⟨rfl, rfl⟩, h⟩
      exact htest h

theorem has_listedIn (rows : List (Nat × List Nat)) :
    (listedIn rows).has code = true ↔ ∃ row ∈ rows, code ∈ row.2 := by
  induction rows with
  | nil => simp [listedIn, fold]
  | cons row rows ih =>
    have hstep : listedIn (row :: rows) = fold (fun code s => s ||| 1 <<< code) (listedIn rows) row.2 := rfl
    rw [hstep, has_added, ih, List.exists_mem_cons_iff, or_comm]

theorem has_ofRange (first last : Nat) :
    (ofRange first last).has code = true ↔ first ≤ code ∧ code ≤ last := by
  rw [has_eq, ofRange, Nat.testBit_shiftLeft, Bool.and_eq_true, decide_eq_true_eq]
  have hbits : (Nat.pow 2 (last + 1 - first) - 1).testBit (code - first) =
      decide (code - first < last + 1 - first) := Nat.testBit_two_pow_sub_one ..
  rw [hbits, decide_eq_true_eq]
  omega

theorem has_ofRanges (ranges : List (Nat × Nat)) :
    (ofRanges ranges).has code = inRanges ranges code := by
  induction ranges with
  | nil => exact has_zero
  | cons range ranges ih =>
    have hstep : ofRanges (range :: ranges) = ofRanges ranges ||| ofRange range.1 range.2 := rfl
    have hrange : (ofRange range.1 range.2).has code =
        (decide (range.1 ≤ code) && decide (code ≤ range.2)) := by
      rw [Bool.eq_iff_iff, has_ofRange, Bool.and_eq_true, decide_eq_true_eq, decide_eq_true_eq]
    rw [hstep, has_or, ih, hrange, Bool.or_comm, inRanges, inRanges, List.any_cons]

/-- Are the codes of the first set below the bound, and none of them in the second set? -/
def avoids (limit : Nat) (s t : CodeSet) : Bool := s >>> limit = 0 && s &&& t = 0

theorem avoids_spec {limit : Nat} (h : avoids limit s t = true) (hcode : s.has code = true) :
    code < limit ∧ t.has code = false := by
  simp only [avoids, Bool.and_eq_true, decide_eq_true_eq] at h
  rw [has_eq] at hcode ⊢
  constructor
  · by_contra hhigh
    have hdigit : (s >>> limit).testBit (code - limit) = Nat.testBit s code := by
      rw [Nat.testBit_shiftRight, Nat.add_sub_cancel' (Nat.le_of_not_lt hhigh)]
    rw [h.1, Nat.zero_testBit, hcode] at hdigit
    cases hdigit
  · have hboth : (s &&& t).testBit code = (Nat.testBit s code && Nat.testBit t code) := Nat.testBit_and ..
    rw [h.2, Nat.zero_testBit, hcode, Bool.true_and] at hboth
    exact hboth.symm

end CodeSet

/-! ### Rows -/

theorem Run.holds_iff {run : Run} {code : Nat} : run.holds code = true ↔
    run.first ≤ code ∧ code ≤ run.last ∧ (code - run.first) % run.step = 0 := by
  simp only [Run.holds, Bool.and_eq_true, decide_eq_true_eq, and_assoc]

namespace Block

/-- A block that has been read. -/
abbrev Column := Nat × List (Option (List Nat))

def column (block : Block) : Column := (block.1, block.entries)

/-- Codes with what they belong to. -/
def Column.rows (column : Column) : List (Nat × List Nat) :=
  column.2.zipIdx.filterMap fun (out, i) => out.map fun out => (column.1 + i, out)

def rows (blocks : List Block) : List (Nat × List Nat) := (blocks.map column).flatMap Column.rows

/-- The rows of the entries from a code on, with the rows that follow. -/
noncomputable def rowsFrom (entries : List (Option (List Nat))) (rows : List (Nat × List Nat)) (code : Nat) :
    List (Nat × List Nat) :=
  fold (fun entry (further : Nat → List (Nat × List Nat)) code => match entry with
    | none => further (code + 1)
    | some out => (code, out) :: further (code + 1)) (fun _ => rows) entries code

theorem rowsFrom_eq (entries : List (Option (List Nat))) (rows : List (Nat × List Nat)) (first k : Nat) :
    rowsFrom entries rows (first + k) =
      ((entries.zipIdx k).filterMap fun (out, i) => out.map fun out => (first + i, out)) ++ rows := by
  induction entries generalizing k with
  | nil => rfl
  | cons entry entries ih =>
    rw [List.zipIdx_cons]
    cases entry with
    | none => exact ih (k + 1)
    | some out => exact congrArg ((first + k, out) :: ·) (ih (k + 1))

noncomputable def rowsOf (columns : List Column) : List (Nat × List Nat) :=
  fold (fun column rows => rowsFrom column.2 rows column.1) [] columns

theorem rowsOf_eq (columns : List Column) : rowsOf columns = columns.flatMap Column.rows := by
  induction columns with
  | nil => rfl
  | cons column columns ih =>
    rw [List.flatMap_cons, ← ih]
    exact rowsFrom_eq column.2 (rowsOf columns) column.1 0

/-- Does every column end before the next one begins? -/
def areApart : List Column → Bool
  | column :: next :: rest => column.1 + column.2.length ≤ next.1 && areApart (next :: rest)
  | _ => true

variable {blocks : List Block} {code : Nat} {out : List Nat}

theorem mem_rows_iff : (code, out) ∈ rows blocks ↔
    ∃ block ∈ blocks, ∃ i, block.entries[i]? = some (some out) ∧ code = block.1 + i := by
  simp only [rows, List.mem_flatMap, List.mem_map, column, Column.rows, List.mem_filterMap]
  constructor
  · rintro ⟨_, ⟨block, hblock, rfl⟩, ⟨entry, i⟩, hentry, hrow⟩
    obtain ⟨found, rfl, hrow⟩ := Option.map_eq_some_iff.mp hrow
    obtain ⟨rfl, rfl⟩ := Prod.mk.inj hrow
    exact ⟨block, hblock, i, List.mem_zipIdx_iff_getElem?.mp hentry, rfl⟩
  · rintro ⟨block, hblock, i, hentry, rfl⟩
    exact ⟨_, ⟨block, hblock, rfl⟩, (some out, i), List.mem_zipIdx_iff_getElem?.mpr hentry, rfl⟩

theorem find?_eq (blocks : List Block) (code : Nat) : find? blocks code =
    (upTo? blocks code).bind fun block => (block.entries[code - block.1]?).join := by
  unfold find?
  cases upTo? blocks code with
  | none => rfl
  | some block => cases block.entries[code - block.1]? <;> rfl

theorem upTo?_mem {block : Block} (h : upTo? blocks code = some block) :
    block ∈ blocks ∧ block.1 ≤ code := by
  have hfold : ∀ best : Option Block, (∀ b, best = some b → b.1 ≤ code) →
      ∀ b, blocks.foldl (fun best block => if block.1 ≤ code then some block else best) best = some b →
        (b ∈ blocks ∨ best = some b) ∧ b.1 ≤ code := by
    clear h
    induction blocks with
    | nil => exact fun best hbest b hb => ⟨.inr hb, hbest b hb⟩
    | cons first blocks ih =>
      intro best hbest b hb
      rw [List.foldl_cons] at hb
      split at hb
      · rename_i hfirst
        obtain ⟨hfound, hle⟩ := ih (some first) (by rintro _ ⟨⟩; exact hfirst) b hb
        refine ⟨.inl ?_, hle⟩
        rcases hfound with hmem | hsame
        · exact List.mem_cons_of_mem _ hmem
        · cases hsame
          exact List.mem_cons_self
      · obtain ⟨hfound, hle⟩ := ih best hbest b hb
        exact ⟨hfound.imp_left (List.mem_cons_of_mem _), hle⟩
  obtain ⟨hfound, hle⟩ := hfold none (by rintro _ ⟨⟩) block h
  refine ⟨?_, hle⟩
  rcases hfound with hmem | hnone
  · exact hmem
  · cases hnone

theorem mem_rows_of_find? (h : find? blocks code = some out) : (code, out) ∈ rows blocks := by
  rw [find?_eq] at h
  obtain ⟨block, hblock, hentry⟩ := Option.bind_eq_some_iff.mp h
  obtain ⟨hmem, hle⟩ := upTo?_mem hblock
  exact mem_rows_iff.mpr ⟨block, hmem, code - block.1, Option.join_eq_some_iff.mp hentry, by omega⟩

def EndsBefore (block later : Block) : Prop := block.1 + block.entries.length ≤ later.1

instance : Trans EndsBefore EndsBefore EndsBefore where
  trans h h' := Nat.le_trans h (Nat.le_trans (Nat.le_add_right ..) h')

theorem pairwise_of_areApart (h : areApart (blocks.map column) = true) : blocks.Pairwise EndsBefore := by
  have hchain : blocks.IsChain EndsBefore := by
    induction blocks with
    | nil => exact .nil
    | cons block blocks ih =>
      cases blocks with
      | nil => exact .singleton _
      | cons next blocks =>
        rw [List.map_cons, List.map_cons, areApart, Bool.and_eq_true, decide_eq_true_eq] at h
        exact .cons_cons h.1 (ih h.2)
  exact hchain.pairwise

theorem find?_of_mem_rows (happart : areApart (blocks.map column) = true)
    (h : (code, out) ∈ rows blocks) : find? blocks code = some out := by
  obtain ⟨block, hblock, i, hentry, rfl⟩ := mem_rows_iff.mp h
  have hi : i < block.entries.length := (List.getElem?_eq_some_iff.mp hentry).1
  obtain ⟨before, after, rfl⟩ := List.append_of_mem hblock
  have hlater := (List.pairwise_cons.mp (List.pairwise_append.mp (pairwise_of_areApart happart)).2.1).1
  have hkept : ∀ best : Option Block, after.foldl (fun best later =>
      if later.1 ≤ block.1 + i then some later else best) best = best := by
    clear hblock happart h
    induction after with
    | nil => exact fun best => rfl
    | cons later after ih =>
      intro best
      rw [List.forall_mem_cons] at hlater
      have hbehind : ¬ later.1 ≤ block.1 + i := by
        have hends : block.1 + block.entries.length ≤ later.1 := hlater.1
        omega
      rw [List.foldl_cons, if_neg hbehind]
      exact ih hlater.2 best
  have hfound : upTo? (before ++ block :: after) (block.1 + i) = some block := by
    rw [upTo?, List.foldl_append, List.foldl_cons, if_pos (by omega), hkept]
  rw [find?_eq, hfound, Option.bind_some, Nat.add_sub_cancel_left, hentry]
  rfl

/-- In a table whose blocks are apart, looking a code up finds its row. -/
theorem find?_eq_some_iff (happart : areApart (blocks.map column) = true) :
    find? blocks code = some out ↔ (code, out) ∈ rows blocks :=
  ⟨mem_rows_of_find?, find?_of_mem_rows happart⟩

/-! ### Texts as lists of characters -/

/-- Blocks whose texts consist of the given characters. -/
inductive Spelled : List Block → List (Nat × List Char) → Prop
  | nil : Spelled [] []
  | cons {first : Nat} {text : List Char} {blocks : List Block} {texts : List (Nat × List Char)} :
    Spelled blocks texts → Spelled ((first, String.ofList text) :: blocks) ((first, text) :: texts)

noncomputable def partsAt (separator : Char) (text : List Char) : List (List Char) :=
  fold (fun c parts =>
    if c = separator then [] :: parts
    else match parts with
      | [] => [[c]]
      | part :: parts => (c :: part) :: parts) [[]] text

theorem partsAt_eq (separator : Char) (text : List Char) :
    partsAt separator text = Form.splitAt separator text := by
  induction text with
  | nil => rfl
  | cons c text ih =>
    rw [Form.splitAt, ← ih]
    rfl

noncomputable def read (texts : List (Nat × List Char)) : List Column :=
  texts.map fun text => (text.1, (partsAt ' ' text.2).map entry)

theorem Spelled.columns {texts : List (Nat × List Char)} (h : Spelled blocks texts) :
    blocks.map column = read texts := by
  induction h with
  | nil => rfl
  | @cons first text blocks texts _ ih =>
    rw [List.map_cons, ih, column, entries, String.toList_ofList, ← partsAt_eq]
    rfl

end Block

end ValidatorAlarm.Text
