import ValidatorAlarm.Proofs.Identity.Grammar

/-!
# Rosters put together

Two rosters can be put into one file, one behind the other with a line break between them.  Reading the
whole is reading the parts: the first part is read as if it stood alone, and the second as if it did,
except that its lines are counted on from those of the first.  So the line that is reported is the
first one that says nothing that can be read, and what stands behind it is not looked at.
-/
namespace ValidatorAlarm.Roster

/-! ### Reading on -/

/-- A line is read for itself. -/
theorem readLines_cons_eq (number : Nat) (line : List Char) (ls : List (List Char)) (roster : Roster) :
    readLines number (line :: ls) roster = match readLine line with
      | .error flaw => .error (number, flaw)
      | .ok said => readLines (number + 1) ls (roster.hear said) := by
  cases hread : readLine line with
  | error flaw => simp only [readLines, hread]
  | ok said => exact readLines_cons hread

theorem readLines_append (number : Nat) (ls ms : List (List Char)) (roster : Roster) :
    readLines number (ls ++ ms) roster = match readLines number ls roster with
      | .error fault => .error fault
      | .ok first => readLines (number + ls.length) ms first := by
  induction ls generalizing number roster with
  | nil => rfl
  | cons line ls ih =>
    rw [List.cons_append, readLines_cons_eq, readLines_cons_eq]
    cases readLine line with
    | error flaw => rfl
    | ok said =>
      simp only [ih]
      rw [List.length_cons, Nat.add_assoc, Nat.add_comm 1]

theorem followedBy_assoc (first second third : Roster) :
    (first.followedBy second).followedBy third = first.followedBy (second.followedBy third) := by
  simp [followedBy, List.append_assoc]

theorem hear_eq_followedBy (roster : Roster) (said : Option Identity) :
    roster.hear said = roster.followedBy (hear ⟨[], []⟩ said) := by
  match said with
  | none => simp [hear, followedBy]
  | some (.key digits) => simp [hear, add, followedBy]
  | some (.account it) => simp [hear, add, followedBy]

/-- Lines that stand behind others are read in the same way: they are counted on, and what they say is
put behind what the others say. -/
theorem readLines_behind (number : Nat) (ls : List (List Char)) (roster : Roster) :
    readLines number ls roster = match readLines 0 ls ⟨[], []⟩ with
      | .error (line, flaw) => .error (number + line, flaw)
      | .ok more => .ok (roster.followedBy more) := by
  induction ls generalizing number roster with
  | nil => simp [readLines, followedBy]
  | cons line ls ih =>
    rw [readLines_cons_eq, readLines_cons_eq]
    cases readLine line with
    | error flaw => rfl
    | ok said =>
      simp only
      rw [ih (number + 1), ih (0 + 1)]
      cases readLines 0 ls ⟨[], []⟩ with
      | error fault => simp [Nat.add_assoc]
      | ok more =>
        simp only
        rw [hear_eq_followedBy roster, followedBy_assoc]

/-! ### The first flaw -/

/-- The first of some lines that says nothing that can be read, and what is wrong with it.  The lines
behind it play no part. -/
def FirstFlaw (ls : List (List Char)) (line : Nat) (flaw : Flaw) : Prop :=
  ∃ before bad after, ls = before ++ bad :: after ∧ before.length = line ∧
    (∀ fine ∈ before, ∃ said, Says fine said) ∧ (¬ ∃ said, Says bad said) ∧ readLine bad = .error flaw

theorem readLines_fine {ls : List (List Char)} (h : ∀ fine ∈ ls, ∃ said, Says fine said) (number : Nat)
    (roster : Roster) : ∃ read, readLines number ls roster = .ok read := by
  induction ls generalizing number roster with
  | nil => exact ⟨roster, rfl⟩
  | cons line ls ih =>
    rw [List.forall_mem_cons] at h
    obtain ⟨⟨said, hsaid⟩, hrest⟩ := h
    rw [readLines_cons hsaid.readLine_eq]
    exact ih hrest _ _

theorem FirstFlaw.reported {ls : List (List Char)} {line : Nat} {flaw : Flaw} (h : FirstFlaw ls line flaw)
    (number : Nat) (roster : Roster) : readLines number ls roster = .error (number + line, flaw) := by
  obtain ⟨before, bad, after, rfl, rfl, hfine, -, hbad⟩ := h
  obtain ⟨read, hread⟩ := readLines_fine hfine number roster
  rw [readLines_append, hread]
  simp only [readLines_cons_eq, hbad]

theorem firstFlaw_of_error {ls : List (List Char)} (hbreak : ∀ line ∈ ls, '\n' ∉ line)
    {number place : Nat} {flaw : Flaw} {roster : Roster}
    (h : readLines number ls roster = .error (place, flaw)) :
    ∃ line, place = number + line ∧ FirstFlaw ls line flaw := by
  induction ls generalizing number roster with
  | nil => cases h
  | cons first ls ih =>
    rw [List.forall_mem_cons] at hbreak
    rw [readLines_cons_eq] at h
    cases hread : readLine first with
    | error found =>
      rw [hread] at h
      obtain ⟨rfl, rfl⟩ : number = place ∧ found = flaw := by simpa using h
      have hflawed : ¬ ∃ said, Says first said := by
        rintro ⟨said, hsaid⟩
        rw [hsaid.readLine_eq] at hread
        cases hread
      exact ⟨0, rfl, [], first, ls, rfl, rfl, nofun, hflawed, hread⟩
    | ok said =>
      rw [hread] at h
      obtain ⟨line, rfl, before, bad, after, rfl, rfl, hfine, hbad⟩ := ih hbreak.2 h
      refine ⟨before.length + 1, by omega, first :: before, bad, after, rfl, rfl, ?_, hbad⟩
      rw [List.forall_mem_cons]
      exact ⟨⟨said, says_of_readLine hbreak.1 hread⟩, hfine⟩

theorem readLines_error_iff {ls : List (List Char)} (hbreak : ∀ line ∈ ls, '\n' ∉ line)
    {number line : Nat} {flaw : Flaw} {roster : Roster} :
    readLines number ls roster = .error (number + line, flaw) ↔ FirstFlaw ls line flaw := by
  refine ⟨fun h => ?_, fun h => h.reported number roster⟩
  obtain ⟨found, hplace, hflaw⟩ := firstFlaw_of_error hbreak h
  obtain rfl : line = found := by omega
  exact hflaw

/-- **Reading two rosters in one file.**  A fault of the first part is the fault of the whole.  If the
first part can be read, the lines of the second are counted on from its lines, one more than it has line
breaks, and what the second part names stands behind what the first names.  A fault is always that of
the first line that cannot be read, by its number from zero, whatever stands behind it. -/
theorem parse_joined (first second : String) :
    parse (first ++ "\n" ++ second) = (match parse first with
      | .error fault => .error fault
      | .ok front => match parse second with
        | .error (line, flaw) => .error (first.toList.count '\n' + 1 + line, flaw)
        | .ok back => .ok ⟨front.keys ++ back.keys, front.accounts ++ back.accounts⟩) ∧
    ∀ contents line flaw,
      parse contents = .error (line, flaw) ↔ FirstFlaw (contents.toList.splitOn '\n') line flaw := by
  constructor
  · have htext : (first ++ "\n" ++ second).toList = first.toList ++ '\n' :: second.toList := by
      simp [String.toList_append]
    have hjoined : lines (first.toList ++ '\n' :: second.toList) = lines first.toList ++ lines second.toList :=
      Text.Form.splitAt_joined '\n' _ _
    have hlength : (lines first.toList).length = first.toList.count '\n' + 1 := Text.Form.length_splitAt '\n' _
    rw [parse, parse, htext, hjoined, readLines_append, Nat.zero_add, hlength]
    cases readLines 0 (lines first.toList) ⟨[], []⟩ with
    | error fault => rfl
    | ok front =>
      simp only
      rw [readLines_behind, parse]
      rfl
  · intro contents line flaw
    have hfirst : readLines 0 (lines contents.toList) ⟨[], []⟩ = .error (0 + line, flaw) ↔
        FirstFlaw (lines contents.toList) line flaw := readLines_error_iff (Text.Form.notMem_splitAt _ _)
    rw [Nat.zero_add] at hfirst
    rwa [← Text.Form.splitAt_eq_splitOn]

/-- A blank line at the end of the first part counts. -/
example : parse ("# none\n" ++ "\n" ++ "garbage") = .error (2, .notBech32 "garbage") := by
  decide

end ValidatorAlarm.Roster
