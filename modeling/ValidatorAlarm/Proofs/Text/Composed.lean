import ValidatorAlarm.Proofs.Text.TakenApart

/-!
# A composed text is its own composed writing

What has been composed is not changed by being composed again (`ofCodes_ofCodes`).  A text is taken
apart into whole codes and its marks are ordered; joining composites only moves a mark in front of
marks of lower rank, so taking the joined text apart and ordering its marks leads back to the same
codes.

A full stop takes part in nothing of this, so the parts of a text between full stops are composed each
for itself (`ofCodes_fullStop`).
-/
namespace ValidatorAlarm.Text.Composed

open Composite (fullStop)

variable {code a b : Nat} {marks before codes rest : List Nat}

/-! ### The order of marks -/

/-- May one code stand right before the other?  A mark does not stand behind one of higher rank. -/
def Follows (code next : Nat) : Prop := rank next = 0 ∨ rank code ≤ rank next

theorem insertMark_comm (h : rank a ≠ rank b) (marks : List Nat) :
    insertMark a (insertMark b marks) = insertMark b (insertMark a marks) := by
  have horder : (rank a < rank b ∧ ¬ rank b < rank a) ∨ (rank b < rank a ∧ ¬ rank a < rank b) := by omega
  induction marks with
  | nil =>
    rcases horder with ⟨hlt, hnot⟩ | ⟨hlt, hnot⟩
    · simp only [insertMark, if_pos hlt, if_neg hnot]
    · simp only [insertMark, if_pos hlt, if_neg hnot]
  | cons other marks ih =>
    by_cases ha : rank a < rank other
    · by_cases hb : rank b < rank other
      · simp only [insertMark, if_pos ha, if_pos hb]
        rcases horder with ⟨hlt, hnot⟩ | ⟨hlt, hnot⟩
        · simp only [if_pos hlt, if_neg hnot]
        · simp only [if_pos hlt, if_neg hnot]
      · have hba : ¬ rank b < rank a := by omega
        simp only [insertMark, if_pos ha, if_neg hb, if_neg hba]
    · by_cases hb : rank b < rank other
      · have hab : ¬ rank a < rank b := by omega
        simp only [insertMark, if_neg ha, if_pos hb, if_neg hab]
      · simp only [insertMark, if_neg ha, if_neg hb, ih]

theorem insertMark_last (h : ∀ mark ∈ marks, rank mark ≤ rank code) :
    insertMark code marks = marks ++ [code] := by
  induction marks with
  | nil => rfl
  | cons mark marks ih =>
    rw [List.forall_mem_cons] at h
    rw [insertMark, if_neg (by omega), ih h.2, List.cons_append]

/-- What stands behind some codes is ordered for itself, but for the marks that are left over. -/
theorem orderMarks_congr (h : ∀ marks, orderMarks marks codes = orderMarks marks rest)
    (before marks : List Nat) : orderMarks marks (before ++ codes) = orderMarks marks (before ++ rest) := by
  induction before generalizing marks with
  | nil => exact h marks
  | cons first before ih => simp only [List.cons_append, orderMarks, ih]

/-- Marks of different ranks can change places. -/
theorem orderMarks_swap (ha : rank a ≠ 0) (hb : rank b ≠ 0) (h : rank a ≠ rank b) (marks rest : List Nat) :
    orderMarks marks (a :: b :: rest) = orderMarks marks (b :: a :: rest) := by
  simp only [orderMarks, if_neg ha, if_neg hb, insertMark_comm h]

/-- A mark can be moved in front of marks of lower rank. -/
theorem orderMarks_move (hkept : ∀ mark ∈ before, rank mark ≠ 0 ∧ rank mark < rank code)
    (marks rest : List Nat) :
    orderMarks marks (code :: (before ++ rest)) = orderMarks marks (before ++ code :: rest) := by
  induction before generalizing marks with
  | nil => rfl
  | cons first before ih =>
    rw [List.forall_mem_cons] at hkept
    obtain ⟨⟨hfirst, hlower⟩, hbefore⟩ := hkept
    rw [List.cons_append, orderMarks_swap (by omega) hfirst (by omega)]
    exact orderMarks_congr (ih hbefore) [first] marks

/-- Marks in order ascend. -/
theorem le_of_isChain (h : (marks ++ [code]).IsChain Follows) (hmarks : ∀ mark ∈ marks, rank mark ≠ 0)
    (hcode : rank code ≠ 0) : ∀ mark ∈ marks, rank mark ≤ rank code := by
  induction marks with
  | nil => exact nofun
  | cons first marks ih =>
    rw [List.forall_mem_cons] at hmarks
    rw [List.cons_append, List.isChain_cons] at h
    have hothers := ih h.2 hmarks.2
    refine List.forall_mem_cons.mpr ⟨?_, hothers⟩
    cases marks with
    | nil => exact (h.1 code rfl).resolve_left hcode
    | cons next marks =>
      have hnext := (h.1 next rfl).resolve_left (hmarks.2 next List.mem_cons_self)
      exact Nat.le_trans hnext (hothers next List.mem_cons_self)

/-- Ordering leaves what is in order as it is. -/
theorem orderMarks_append (h : (marks ++ codes).IsChain Follows) (hmarks : ∀ mark ∈ marks, rank mark ≠ 0) :
    orderMarks marks codes = marks ++ codes := by
  induction codes generalizing marks with
  | nil => rw [orderMarks, List.append_nil]
  | cons code codes ih =>
    rw [orderMarks]
    split
    · have hbehind : codes.IsChain Follows := (List.isChain_append.mp h).2.1.tail
      have hordered : orderMarks [] codes = [] ++ codes := ih hbehind nofun
      rw [hordered, List.nil_append]
    · rename_i hcode
      have hfront : (marks ++ [code]).IsChain Follows := by
        rw [← List.singleton_append, ← List.append_assoc] at h
        exact (List.isChain_append.mp h).1
      rw [insertMark_last (le_of_isChain hfront hmarks hcode), ih, List.append_assoc, List.singleton_append]
      · rwa [List.append_assoc, List.singleton_append]
      · rw [List.forall_mem_append]
        exact ⟨hmarks, by simpa using hcode⟩

theorem orderMarks_eq (h : codes.IsChain Follows) : orderMarks [] codes = codes := orderMarks_append h nofun

/-- Marks in the order of their ranks. -/
structure Ascends (marks : List Nat) : Prop where
  chain : marks.IsChain (rank · ≤ rank ·)
  ranked : ∀ mark ∈ marks, rank mark ≠ 0

theorem mem_insertMark : b ∈ insertMark a marks ↔ b = a ∨ b ∈ marks := by
  induction marks with
  | nil => rw [insertMark, List.mem_cons]
  | cons mark marks ih =>
    rw [insertMark]
    split
    · rw [List.mem_cons]
    · rw [List.mem_cons, ih, List.mem_cons]
      exact or_left_comm

theorem Ascends.insertMark (h : Ascends marks) (hcode : rank code ≠ 0) :
    Ascends (insertMark code marks) := by
  refine ⟨?_, fun mark hmark => ?_⟩
  · obtain ⟨hchain, -⟩ := h
    induction marks with
    | nil => exact .singleton _
    | cons mark marks ih =>
      rw [Composed.insertMark]
      split
      · rename_i hlower
        exact .cons_cons (Nat.le_of_lt hlower) hchain
      · rw [List.isChain_cons] at hchain ⊢
        refine ⟨?_, ih hchain.2⟩
        intro first hfirst
        rcases mem_insertMark.mp (List.mem_of_mem_head? hfirst) with rfl | hmem
        · omega
        · cases marks with
          | nil => cases hmem
          | cons next marks =>
            have hnext := hchain.1 next rfl
            rw [Composed.insertMark] at hfirst
            split at hfirst
            · cases hfirst
              omega
            · cases hfirst
              exact hnext
  · rcases mem_insertMark.mp hmark with rfl | hmem
    · exact hcode
    · exact h.ranked mark hmem

/-- Ordering brings marks into order. -/
theorem isChain_orderMarks (h : Ascends marks) : (orderMarks marks codes).IsChain Follows := by
  induction codes generalizing marks with
  | nil => exact h.chain.imp fun _ _ hle => .inr hle
  | cons code codes ih =>
    rw [orderMarks]
    split
    · rename_i hcode
      refine List.isChain_append.mpr ⟨h.chain.imp fun _ _ hle => .inr hle, ?_, ?_⟩
      · rw [List.isChain_cons]
        refine ⟨fun next _ => .inr (by omega), ih ⟨.nil, nofun⟩⟩
      · rintro _ - _ ⟨⟩
        exact .inl hcode
    · rename_i hcode
      exact ih (h.insertMark hcode)

theorem mem_orderMarks : a ∈ orderMarks marks codes ↔ a ∈ marks ∨ a ∈ codes := by
  induction codes generalizing marks with
  | nil => simp [orderMarks]
  | cons code codes ih =>
    rw [orderMarks]
    split
    · simp only [List.mem_append, List.mem_cons, ih, List.not_mem_nil, false_or]
    · rw [ih, mem_insertMark, List.mem_cons, or_assoc, or_left_comm]

/-! ### Joining and taking apart again -/

theorem flatMap_whole (h : ∀ code ∈ codes, Whole code) : codes.flatMap (takeApart depth) = codes := by
  induction codes with
  | nil => rfl
  | cons code codes ih =>
    rw [List.forall_mem_cons] at h
    rw [List.flatMap_cons, ih h.2, show takeApart depth code = [code] from h.1, List.singleton_append]

/-- Is a code kept from the base by the marks between them? -/
def isBlocked : List Nat → Nat → Bool
  | [], _ => false
  | last :: _, code => rank code ≤ rank last

theorem joinFrom_cons (base : Option Nat) (kept : List Nat) (code : Nat) (rest : List Nat) :
    joinFrom base kept (code :: rest) =
      match (if isBlocked kept code then none else base.bind (join? · code)) with
      | some joined => joinFrom (some joined) kept rest
      | none =>
        if rank code = 0 then base.toList ++ kept.reverse ++ joinFrom (some code) [] rest
        else joinFrom base (code :: kept) rest := by
  cases kept <;> rfl

/-- A mark that is not kept from the base is of a higher rank than those before it. -/
theorem lower_of_not_blocked {kept : List Nat} (hkept : ∀ mark ∈ kept, rank mark ≠ 0)
    (hchain : kept.reverse.IsChain Follows) (h : ¬ isBlocked kept code = true) :
    ∀ mark ∈ kept.reverse, rank mark ≠ 0 ∧ rank mark < rank code := by
  intro mark hmark
  rw [List.mem_reverse] at hmark
  refine ⟨hkept mark hmark, ?_⟩
  cases kept with
  | nil => cases hmark
  | cons last others =>
    have hlast : rank last < rank code := by simpa [isBlocked] using h
    rw [List.reverse_cons] at hchain
    rw [List.forall_mem_cons] at hkept
    have hothers := le_of_isChain hchain (by simpa using hkept.2) hkept.1
    rcases List.mem_cons.mp hmark with rfl | hmem
    · exact hlast
    · exact Nat.lt_of_le_of_lt (hothers mark (List.mem_reverse.mpr hmem)) hlast

theorem isChain_without (h : (before ++ code :: codes).IsChain Follows)
    (hbefore : ∀ mark ∈ before, rank mark ≤ rank code) : (before ++ codes).IsChain Follows := by
  obtain ⟨hfront, hback, hjoint⟩ := List.isChain_append.mp h
  rw [List.isChain_cons] at hback
  refine List.isChain_append.mpr ⟨hfront, hback.2, fun mark hmark next hnext => ?_⟩
  have hlast := hbefore mark (List.mem_of_mem_getLast? hmark)
  exact (hback.1 next hnext).imp_right (Nat.le_trans hlast)

/-- What joining has made of codes in order is taken apart and ordered to the same codes. -/
theorem orderMarks_joinFrom (base : Option Nat) {kept : List Nat} (hkept : ∀ mark ∈ kept, rank mark ≠ 0)
    (hwhole : ∀ code ∈ kept.reverse ++ codes, Whole code) (hchain : (kept.reverse ++ codes).IsChain Follows)
    (marks : List Nat) :
    orderMarks marks ((joinFrom base kept codes).flatMap (takeApart depth)) =
      orderMarks marks (base.toList.flatMap (takeApart depth) ++ (kept.reverse ++ codes)) := by
  induction codes generalizing base kept marks with
  | nil =>
    rw [List.append_nil] at hwhole
    rw [joinFrom, List.flatMap_append, flatMap_whole hwhole, List.append_nil]
  | cons code codes ih =>
    rw [joinFrom_cons]
    split
    · rename_i joined hjoined
      rw [Option.ite_none_left_eq_some] at hjoined
      obtain ⟨hfree, hjoined⟩ := hjoined
      obtain ⟨first, rfl, hjoined⟩ := Option.bind_eq_some_iff.mp hjoined
      have hlower := lower_of_not_blocked hkept (List.isChain_append.mp hchain).1 hfree
      have hcode : Whole code := hwhole code (by simp)
      have hothers : ∀ code ∈ kept.reverse ++ codes, Whole code := fun other hother =>
        hwhole other (by simp only [List.mem_append, List.mem_cons] at hother ⊢; tauto)
      rw [ih _ hkept hothers (isChain_without hchain fun mark hmark => Nat.le_of_lt (hlower mark hmark).2)]
      simp only [Option.toList_some, List.flatMap_cons, List.flatMap_nil, List.append_nil,
        takeApart_join hjoined hcode, List.append_assoc, List.singleton_append]
      exact orderMarks_congr (fun marks => orderMarks_move hlower marks codes) _ marks
    · split
      · -- a new base: what stands before it is ordered for itself
        have hkeptWhole : ∀ code ∈ kept.reverse, Whole code := fun other hother =>
          hwhole other (List.mem_append_left _ hother)
        rw [List.forall_mem_append, List.forall_mem_cons] at hwhole
        obtain ⟨-, hcode, hothers⟩ := hwhole
        have hbehind := fun marks => ih (some code) (List.forall_mem_nil _) hothers
          (List.isChain_append.mp hchain).2.1.tail marks
        rw [List.flatMap_append, List.flatMap_append, flatMap_whole hkeptWhole, List.append_assoc,
          ← List.append_assoc, ← List.append_assoc _ kept.reverse]
        refine orderMarks_congr (fun marks => ?_) _ marks
        rw [hbehind]
        simp [show takeApart depth code = [code] from hcode]
      · rename_i hcode
        rw [ih _ (List.forall_mem_cons.mpr ⟨hcode, hkept⟩) (by simpa using hwhole) (by simpa using hchain)]
        simp

/-! ### Composing again -/

/-- **What has been composed stays as it is when it is composed again.** -/
theorem ofCodes_ofCodes (codes : List Nat) : ofCodes (ofCodes codes) = ofCodes codes := by
  have hordered : (orderMarks [] (codes.flatMap (takeApart depth))).IsChain Follows :=
    isChain_orderMarks ⟨.nil, List.forall_mem_nil _⟩
  have hwhole : ∀ code ∈ orderMarks [] (codes.flatMap (takeApart depth)), Whole code := by
    intro code hcode
    have hmem := (mem_orderMarks.mp hcode).resolve_left (by simp)
    obtain ⟨given, -, hmem⟩ := List.mem_flatMap.mp hmem
    exact whole_of_mem given code hmem
  have hagain := orderMarks_joinFrom none (List.forall_mem_nil _) hwhole hordered []
  rw [ofCodes, ofCodes, hagain, Option.toList_none, List.flatMap_nil, List.nil_append, List.reverse_nil,
    List.nil_append, orderMarks_eq hordered]

/-! ### What composing leaves and what it makes -/

theorem joinFrom_all {P : Nat → Prop} (hjoin : ∀ {a b joined}, join? a b = some joined → P a → P b → P joined)
    {base : Option Nat} {kept : List Nat} (hbase : ∀ code ∈ base, P code) (hkept : ∀ code ∈ kept, P code)
    (hcodes : ∀ code ∈ codes, P code) : ∀ code ∈ joinFrom base kept codes, P code := by
  have hfront : ∀ {base : Option Nat} {kept : List Nat}, (∀ code ∈ base, P code) → (∀ code ∈ kept, P code) →
      ∀ code ∈ base.toList ++ kept.reverse, P code := by
    intro base kept hbase hkept code hcode
    rcases List.mem_append.mp hcode with hcode | hcode
    · exact hbase code (Option.mem_toList.mp hcode)
    · exact hkept code (List.mem_reverse.mp hcode)
  induction codes generalizing base kept with
  | nil => exact hfront hbase hkept
  | cons first codes ih =>
    rw [List.forall_mem_cons] at hcodes
    obtain ⟨hfirst, hcodes⟩ := hcodes
    rw [joinFrom_cons]
    split
    · rename_i joined hjoined
      rw [Option.ite_none_left_eq_some] at hjoined
      obtain ⟨last, hlast, hjoined⟩ := Option.bind_eq_some_iff.mp hjoined.2
      refine ih ?_ hkept hcodes
      rintro _ ⟨⟩
      exact hjoin hjoined (hbase last hlast) hfirst
    · split
      · refine List.forall_mem_append.mpr ⟨hfront hbase hkept, ih ?_ (List.forall_mem_nil _) hcodes⟩
        rintro _ ⟨⟩
        exact hfirst
      · exact ih hbase (List.forall_mem_cons.mpr ⟨hfirst, hkept⟩) hcodes

/-- What joining keeps holds of a composed text if it holds of all that the text is taken apart into. -/
theorem ofCodes_all {P : Nat → Prop} (hjoin : ∀ {a b joined}, join? a b = some joined → P a → P b → P joined)
    (hparts : ∀ code ∈ codes, ∀ part ∈ takeApart depth code, P part) : ∀ code ∈ ofCodes codes, P code := by
  refine joinFrom_all hjoin (by rintro _ ⟨⟩) (List.forall_mem_nil _) fun part hpart => ?_
  obtain ⟨code, hcode, hpart⟩ := List.mem_flatMap.mp ((mem_orderMarks.mp hpart).resolve_left (by simp))
  exact hparts code hcode part hpart

/-! ### Codes that stand alone -/

/-- A code that keeps to itself: it cannot be taken apart, is no mark, and is never joined with what stands
before it. -/
structure Alone (code : Nat) : Prop where
  whole : Whole code
  noMark : rank code = 0
  apart : ∀ a, join? a code = none

theorem joinFrom_alone (base : Option Nat) (h : ∀ code ∈ codes, Alone code) :
    joinFrom base [] codes = base.toList ++ codes := by
  induction codes generalizing base with
  | nil => rfl
  | cons code codes ih =>
    obtain ⟨hcode, hcodes⟩ := List.forall_mem_cons.mp h
    have hnone : base.bind (join? · code) = none := by
      cases base with
      | none => rfl
      | some first => exact hcode.apart first
    rw [joinFrom_cons, hnone, ite_self]
    simp only [if_pos hcode.noMark, ih _ hcodes]
    simp

/-- Codes that keep to themselves are their own composed writing. -/
theorem ofCodes_alone (h : ∀ code ∈ codes, Alone code) : ofCodes codes = codes := by
  have hchain : codes.IsChain Follows :=
    List.Pairwise.isChain (List.pairwise_of_forall_mem_list fun a _ b hb => .inl (h b hb).noMark)
  rw [ofCodes, flatMap_whole fun code hcode => (h code hcode).whole, orderMarks_eq hchain, joinFrom_alone none h]
  rfl

/-! ### Full stops -/

theorem rank_fullStop : rank fullStop = 0 := by decide

/-- A full stop is never joined with anything, and nothing is joined to one. -/
theorem join?_fullStop {joined : Nat} (h : join? a b = some joined) :
    a ≠ fullStop ∧ b ≠ fullStop ∧ joined ≠ fullStop := by
  have hstop : fullStop = 46 := rfl
  unfold join? at h
  split at h
  · rename_i hsyllable
    cases h
    have hjoined := isSyllable_range.mp (Hangul.isSyllable_join hsyllable)
    rcases Hangul.join?_cases hsyllable with hpair | ⟨hfirst, hthird⟩
    · omega
    · have hrange := isSyllable_range.mp hfirst
      omega
  · obtain ⟨hplain, -, -, hparts⟩ := Composite.split?_sound (Composite.split?_of_join? h)
    simp only [List.mem_cons, List.not_mem_nil, or_false, not_or] at hparts
    exact ⟨Ne.symm hparts.1, Ne.symm hparts.2, by omega⟩

theorem takeApart_fullStop : fullStop ∈ takeApart depth code → code = fullStop := by
  induction code using takeApart_induction with
  | whole code h =>
    rw [show takeApart depth code = [code] from h]
    exact fun hmem => (List.mem_singleton.mp hmem).symm
  | syllable code h =>
    intro hmem
    rw [depth, takeApart_syllable h] at hmem
    exact absurd (letters_isLetter h _ hmem) (by decide)
  | composite code parts h ih =>
    intro hmem
    rw [takeApart_split h, List.mem_flatMap] at hmem
    obtain ⟨part, hpart, hmem⟩ := hmem
    have hsame := ih part hpart hmem
    subst hsame
    exact absurd hpart (Composite.split?_sound h).2.2.2

theorem not_mem_ofCodes (h : fullStop ∉ codes) : fullStop ∉ ofCodes codes := by
  have hall : ∀ code ∈ ofCodes codes, code ≠ fullStop := by
    refine ofCodes_all (fun hjoined _ _ => (join?_fullStop hjoined).2.2) fun code hcode part hpart hstop => ?_
    subst hstop
    rw [takeApart_fullStop hpart] at hcode
    exact h hcode
  exact fun hmem => hall _ hmem rfl

theorem orderMarks_plain (h : rank code = 0) (marks front back : List Nat) :
    orderMarks marks (front ++ code :: back) = orderMarks marks front ++ code :: orderMarks [] back := by
  induction front generalizing marks with
  | nil =>
    rw [List.nil_append]
    exact if_pos h
  | cons first front ih =>
    simp only [List.cons_append, orderMarks, ih]
    split
    · rw [List.append_assoc, List.cons_append]
    · rfl

theorem join?_before (a : Nat) : join? a fullStop = none := by
  cases h : join? a fullStop with
  | none => rfl
  | some joined => exact absurd rfl (join?_fullStop h).2.1

theorem join?_behind (b : Nat) : join? fullStop b = none := by
  cases h : join? fullStop b with
  | none => rfl
  | some joined => exact absurd rfl (join?_fullStop h).1

theorem joinFrom_fullStop (base : Option Nat) (kept front back : List Nat) :
    joinFrom base kept (front ++ fullStop :: back) =
      joinFrom base kept front ++ joinFrom (some fullStop) [] back := by
  induction front generalizing base kept with
  | nil =>
    have hnone : base.bind (join? · fullStop) = none := by
      cases base with
      | none => rfl
      | some first => exact join?_before first
    rw [List.nil_append, joinFrom_cons, hnone, ite_self]
    exact if_pos rank_fullStop
  | cons first front ih =>
    rw [List.cons_append, joinFrom_cons, joinFrom_cons]
    split
    · exact ih _ _
    · split
      · rw [ih, ← List.append_assoc]
      · exact ih _ _

theorem joinFrom_behind (kept codes : List Nat) :
    joinFrom (some fullStop) kept codes = fullStop :: joinFrom none kept codes := by
  induction codes generalizing kept with
  | nil => rfl
  | cons code codes ih =>
    rw [joinFrom_cons, joinFrom_cons, Option.bind_some, join?_behind, Option.bind_none, ite_self]
    simp only
    split
    · rfl
    · exact ih _

/-- The parts of a text around a full stop are composed each for itself. -/
theorem ofCodes_fullStop (front back : List Nat) :
    ofCodes (front ++ fullStop :: back) = ofCodes front ++ fullStop :: ofCodes back := by
  have hstop : takeApart depth fullStop = [fullStop] := takeApart_plain (by decide) depth
  rw [ofCodes, List.flatMap_append, List.flatMap_cons, hstop, List.singleton_append,
    orderMarks_plain rank_fullStop, joinFrom_fullStop, joinFrom_behind]
  rfl

/-- The parts of a composed text are composed. -/
theorem parts_of_composed {front back : List Nat} (hfront : fullStop ∉ front)
    (h : ofCodes (front ++ fullStop :: back) = front ++ fullStop :: back) :
    ofCodes front = front ∧ ofCodes back = back := by
  rw [ofCodes_fullStop] at h
  have hplace := congrArg (List.idxOf fullStop) h
  rw [List.idxOf_append_of_notMem (not_mem_ofCodes hfront), List.idxOf_append_of_notMem hfront,
    List.idxOf_cons_self, List.idxOf_cons_self] at hplace
  obtain ⟨hsame, hbehind⟩ := List.append_inj h (by simpa using hplace)
  exact ⟨hsame, (List.cons.inj hbehind).2⟩

end ValidatorAlarm.Text.Composed
