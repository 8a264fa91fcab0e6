import ValidatorAlarm.Proofs.Identity.Codec
import ValidatorAlarm.Proofs.Identity.Joining

/-!
# Typing errors in addresses

Two texts that are both read as addresses differ in more than one character: a change of case shows in
the label, where two letters would have to change, and behind the separator one exchanged letter leaves a
difference in the residue that belongs to no form.  So an address with one wrong character is no address.

In a roster the wrong character can also change what the line is.  If it is a line break there are two
lines, of which the first, or the second if the first is blank, is reported.  If it is the mark of a
comment, at the front, the line says nothing at all.
-/
namespace ValidatorAlarm.Roster

open Bech32 (Form inCase residue expand)

/-! ### Addresses that differ in one character -/

namespace Spelling

variable {s s' : Spelling} {p p' : Payload}

/-- One exchanged value is noticed, even if the two texts need not have the same form. -/
theorem values_exchange {front back : List Nat} {v w : Nat} (h : s.values p = front ++ v :: back)
    (h' : s'.values p' = front ++ w :: back) : v = w := by
  by_contra hne
  have hsmall := s.values_lt p
  have hsmall' := s'.values_lt p'
  have hlength := s.length_values p
  rw [h] at hsmall hlength
  rw [h'] at hsmall'
  have hback : back.length < Bech32.addressLetters := by
    rw [← hlength, List.length_append, List.length_cons]
    omega
  obtain ⟨hzero, hforms⟩ := Bech32.shiftedBy_seen hback (hsmall v (by simp)) (hsmall' w (by simp)) hne
  have hdifference : s.form.target ^^^ s'.form.target =
      Bech32.shiftedBy back.length (BitVec.ofNat 30 v ^^^ BitVec.ofNat 30 w) := by
    rw [← Bech32.residue_exchange (expand label.toList ++ front), List.append_assoc, List.append_assoc, ← h,
      ← h', s.residue_values, s'.residue_values]
  rw [← hdifference] at hzero hforms
  cases hform : s.form <;> cases hform' : s'.form <;> rw [hform, hform'] at hzero hforms
  · exact hzero (by decide)
  · exact hforms rfl
  · exact hforms (by decide)
  · exact hzero (by decide)

/-- The letters of a label are seen at their places. -/
theorem getElem?_write_label {i : Nat} {c : Char} (hc : label.toList[i]? = some c) :
    (s.write p).toList[i]? = some (inCase s.capital c) := by
  have hi : i < label.toList.length := (List.getElem?_eq_some_iff.mp hc).1
  rw [write_eq, String.toList_ofList, List.getElem?_append_left (by rwa [readable, List.length_map]),
    readable, List.getElem?_map, hc]
  rfl

/-- A text in the other case has another letter at each place of the label. -/
theorem capital_eq {i : Nat} {c : Char} (h : (s'.write p').toList = (s.write p).toList.set i c) :
    s'.capital = s.capital := by
  have hplace : ∀ (j : Nat) (d : Char), label.toList[j]? = some d → i ≠ j →
      inCase s'.capital d = inCase s.capital d := by
    intro j d hd hij
    have hsame := congrArg (·[j]?) h
    simp only [List.getElem?_set_ne hij] at hsame
    rw [getElem?_write_label hd, getElem?_write_label hd] at hsame
    exact Option.some.inj hsame
  have hletters : ∀ capital capital' : Bool,
      (inCase capital' 'e' = inCase capital 'e' ∨ inCase capital' 'r' = inCase capital 'r') →
      capital' = capital := by decide
  refine hletters _ _ ?_
  by_cases hi : i = 0
  · exact .inr (hplace 1 'r' (by decide) (by omega))
  · exact .inl (hplace 0 'e' (by decide) hi)

/-- **No address is one wrong character away from another.** -/
theorem write_eq_of_set {i : Nat} {c : Char} (h : (s'.write p').toList = (s.write p).toList.set i c) :
    s'.write p' = s.write p := by
  have hcapital := capital_eq h
  have hlabels : s'.readable = s.readable := by rw [readable, readable, hcapital]
  suffices hvalues : s'.values p' = s.values p by
    rw [write_eq, write_eq, hlabels, hcapital, hvalues]
  have hfour : ∀ t, (s.readable ++ '1' :: t).drop 4 = t := by
    intro t
    have hlength : (s.readable ++ ['1']).length = 4 := by
      rw [List.length_append, s.readable_spec.2.1]
      rfl
    rw [List.append_cons, List.drop_left' hlength]
  -- behind the separator
  have hletters := congrArg (·.drop 4) h
  simp only [write_eq, String.toList_ofList, hlabels, hcapital, hfour, List.drop_set] at hletters
  split at hletters
  · exact Bech32.written_injective (s'.values_lt p') (s.values_lt p) hletters
  · rw [List.set_eq_take_append_cons_drop] at hletters
    split at hletters
    · rename_i hk
      generalize i - 4 = k at hletters hk
      simp only [Bech32.written, ← List.map_take, ← List.map_drop, List.map_eq_append_iff,
        List.map_eq_cons_iff] at hletters
      obtain ⟨front, rest, hsplit, hfront, w, back, rfl, -, hback⟩ := hletters
      rw [Bech32.written, List.length_map] at hk
      have hwhole : (s.values p).take k ++ (s.values p)[k] :: (s.values p).drop (k + 1) = s.values p := by
        rw [List.getElem_cons_drop, List.take_append_drop]
      have hsmall := s.values_lt p
      have hsmall' := s'.values_lt p'
      rw [hsplit] at hsmall'
      have hfronts : front = (s.values p).take k := Bech32.written_injective
        (fun v hv => hsmall' v (by simp [hv])) (fun v hv => hsmall v (List.mem_of_mem_take hv)) hfront
      have hbacks : back = (s.values p).drop (k + 1) := Bech32.written_injective
        (fun v hv => hsmall' v (by simp [hv])) (fun v hv => hsmall v (List.mem_of_mem_drop hv)) hback
      rw [hfronts, hbacks] at hsplit
      have hsame := values_exchange hwhole.symm hsplit
      rw [hsplit, ← hsame, hwhole]
    · exact Bech32.written_injective (s'.values_lt p') (s.values_lt p) hletters

end Spelling

/-- A text with another character at one place. -/
def typo (text : String) (i : Nat) (c : Char) : String := String.ofList (text.toList.set i c)

variable {text : String} {account : Account} {i : Nat} {c : Char}

theorem decodeAddress_typo (h : decodeAddress text = .ok account) (hi : i < text.toList.length)
    (hc : text.toList[i]? ≠ some c) : ∃ flaw, decodeAddress (typo text i c) = .error flaw := by
  cases hread : decodeAddress (typo text i c) with
  | error flaw => exact ⟨flaw, rfl⟩
  | ok other =>
    obtain ⟨s, p, rfl, -⟩ := Spelling.exists_of_decodeAddress h
    obtain ⟨s', p', htypo, -⟩ := Spelling.exists_of_decodeAddress hread
    have hset : (s'.write p').toList = (s.write p).toList.set i c := by
      rw [← htypo, typo, String.toList_ofList]
    rw [Spelling.write_eq_of_set hset] at hset
    have hplace := congrArg (·[i]?) hset
    simp only [List.getElem?_set_self hi] at hplace
    exact absurd hplace hc

/-! ### Lines with a typing error -/

/-- What a line of at most 62 characters names is the account of which it is the address. -/
theorem Says.address {line : List Char} {identity : Identity} (h : Says line (some identity))
    (hshort : line.length ≤ 62) : ∃ account, decodeAddress (String.ofList line) = .ok account := by
  have hnames : ∀ {text : List Char}, Names text identity → text.length ≤ 62 →
      text.length = 62 ∧ ∃ account, decodeAddress (String.ofList text) = .ok account := by
    intro text hnames htext
    cases hnames with
    | key hlength hdigits =>
      rw [hlength] at htext
      exact absurd htext (by decide)
    | account haddress =>
      have hlength := (decodeAddress_layout haddress).1
      rw [String.toList_ofList] at hlength
      exact ⟨hlength, _, haddress⟩
  obtain ⟨hleft, hright, hmeans⟩ := h
  rename_i left text right
  simp only [List.length_append] at hshort
  cases hmeans with
  | bare hname =>
    obtain ⟨hlength, haddress⟩ := hnames hname (by omega)
    have hnoleft : left = [] := List.length_eq_zero_iff.mp (by omega)
    have hnoright : right = [] := List.length_eq_zero_iff.mp (by omega)
    rwa [hnoleft, hnoright, List.nil_append, List.append_nil]
  | quoted hname =>
    simp only [List.length_append, List.length_cons, List.length_nil] at hshort
    obtain ⟨hlength, -⟩ := hnames hname (by omega)
    omega

/-- A line that says nothing is blank, or a comment behind some padding. -/
theorem Says.silent {line : List Char} (h : Says line none) :
    ∃ left rest, line = left ++ rest ∧ IsPad left ∧ (rest = [] ∨ ∃ more, rest = '#' :: more) := by
  obtain ⟨hleft, hright, hmeans⟩ := h
  rename_i left text right
  cases hmeans with
  | blank =>
    refine ⟨left ++ right, [], by simp, ?_, .inl rfl⟩
    intro c hc
    rcases List.mem_append.mp hc with hc | hc
    · exact hleft c hc
    · exact hright c hc
  | comment rest => exact ⟨left, '#' :: (rest ++ right), by simp, hleft, .inr ⟨_, rfl⟩⟩

/-- The first character of such a line marks a comment, or is padding before another such line. -/
theorem Says.silent_cons {rest : List Char} (h : Says (c :: rest) none) :
    c = '#' ∨ IsPad [c] ∧ Says rest none := by
  obtain ⟨left, behind, hline, hleft, hbehind⟩ := h.silent
  match left, hline, hleft with
  | [], hline, _ =>
    rcases hbehind with rfl | ⟨more, rfl⟩
    · cases hline
    · exact .inl (List.cons.inj hline).1
  | d :: left, hline, hleft =>
    obtain ⟨rfl, rfl⟩ := List.cons.inj hline
    have hpad : IsPad left := fun x hx => hleft x (List.mem_cons_of_mem _ hx)
    have hnone : IsPad [] := nofun
    have hmeans : Means behind none := by
      rcases hbehind with rfl | ⟨more, rfl⟩
      · exact .blank
      · exact .comment more
    have hsaid := Says.padded hpad hnone hmeans
    rw [List.append_nil] at hsaid
    exact .inr ⟨fun x hx => hleft x (List.mem_singleton.mp hx ▸ List.mem_cons_self), hsaid⟩

/-- Neither padding nor the mark of a comment. -/
def IsSolid (c : Char) : Prop := c ≠ '#' ∧ c ≠ ' ' ∧ c ≠ '\t' ∧ c ≠ '\r'

theorem IsSolid.not_pad {rest : List Char} (h : IsSolid c) : ¬ IsPad (c :: rest) := by
  intro hpad
  rcases hpad c List.mem_cons_self with rfl | rfl | rfl
  · exact h.2.1 rfl
  · exact h.2.2.1 rfl
  · exact h.2.2.2 rfl

theorem not_silent_of_first {rest : List Char} (h : IsSolid c) : ¬ Says (c :: rest) none := by
  intro hsays
  rcases hsays.silent_cons with hmark | ⟨hpad, -⟩
  · exact h.1 hmark
  · exact h.not_pad hpad

theorem not_silent_of_second {d : Char} {rest : List Char} (hc : c ≠ '#') (h : IsSolid d) :
    ¬ Says (c :: d :: rest) none := by
  intro hsays
  rcases hsays.silent_cons with hmark | ⟨-, hrest⟩
  · exact hc hmark
  · exact not_silent_of_first h hrest

theorem solid_of_label {s : Spelling} {p : Payload} : ∃ e r rest, (s.write p).toList = e :: r :: rest ∧
    IsSolid e ∧ IsSolid r := by
  have hsolid : ∀ capital : Bool, IsSolid (inCase capital 'e') ∧ IsSolid (inCase capital 'r') := by
    unfold IsSolid
    decide
  refine ⟨inCase s.capital 'e', inCase s.capital 'r', inCase s.capital 'd' :: '1' ::
    Bech32.written s.capital (s.values p), ?_, hsolid s.capital⟩
  rw [Spelling.write_eq, String.toList_ofList]
  rfl

/-- A line with a wrong character cannot be read, if it is one line and no comment. -/
theorem not_says_typo (h : decodeAddress text = .ok account) (hi : i < text.toList.length)
    (hc : text.toList[i]? ≠ some c) (hcomment : ¬ (i = 0 ∧ c = '#')) :
    ¬ ∃ said, Says (typo text i c).toList said := by
  rintro ⟨said, hsays⟩
  rw [typo, String.toList_ofList] at hsays
  cases said with
  | some identity =>
    have hlength : (text.toList.set i c).length ≤ 62 := by
      rw [List.length_set, (decodeAddress_layout h).1]
    obtain ⟨other, hother⟩ := hsays.address hlength
    obtain ⟨flaw, hflaw⟩ := decodeAddress_typo h hi hc
    rw [typo, hother] at hflaw
    cases hflaw
  | none =>
    obtain ⟨s, p, rfl, -⟩ := Spelling.exists_of_decodeAddress h
    obtain ⟨e, r, rest, htext, he, hr⟩ := solid_of_label (s := s) (p := p)
    rw [htext] at hsays
    cases i with
    | zero => exact not_silent_of_second (fun hmark => hcomment ⟨rfl, hmark⟩) hr hsays
    | succ i => exact not_silent_of_first he hsays

/-- Too little to be an address, and not silent. -/
theorem not_says_of_short {line : List Char} (hshort : line.length < 62) (hsilent : ¬ Says line none) :
    ¬ ∃ said, Says line said := by
  rintro ⟨said, hsays⟩
  cases said with
  | none => exact hsilent hsays
  | some identity =>
    obtain ⟨account, haddress⟩ := hsays.address (Nat.le_of_lt hshort)
    have hlength := (decodeAddress_layout haddress).1
    rw [String.toList_ofList] at hlength
    omega

/-- The first part of an address that is broken in two. -/
theorem not_says_take (h : decodeAddress text = .ok account) (hi : i < text.toList.length) (hpos : 0 < i) :
    ¬ ∃ said, Says (text.toList.take i) said := by
  have hlength := (decodeAddress_layout h).1
  obtain ⟨s, p, rfl, -⟩ := Spelling.exists_of_decodeAddress h
  obtain ⟨e, r, rest, htext, he, -⟩ := solid_of_label (s := s) (p := p)
  refine not_says_of_short (by rw [List.length_take]; omega) ?_
  rw [htext]
  match i, hpos with
  | i + 1, _ => exact not_silent_of_first he

/-- The second part of an address that is broken in two at its first character. -/
theorem not_says_drop (h : decodeAddress text = .ok account) : ¬ ∃ said, Says (text.toList.drop 1) said := by
  have hlength := (decodeAddress_layout h).1
  obtain ⟨s, p, rfl, -⟩ := Spelling.exists_of_decodeAddress h
  obtain ⟨e, r, rest, htext, -, hr⟩ := solid_of_label (s := s) (p := p)
  refine not_says_of_short (by rw [List.length_drop]; omega) ?_
  rw [htext]
  exact not_silent_of_first hr

/-! ### Texts with a typing error -/

theorem splitOn_written {ls : List (List Char)} (hbreak : ∀ line ∈ ls, '\n' ∉ line) (hne : ls ≠ []) :
    (written ls).toList.splitOn '\n' = ls := by
  rw [written, String.toList_ofList]
  exact List.splitOn_intercalate '\n' hbreak hne

theorem parse_written {ls : List (List Char)} (hbreak : ∀ line ∈ ls, '\n' ∉ line) (hne : ls ≠ []) :
    parse (written ls) = readLines 0 ls ⟨[], []⟩ := by
  rw [parse, lines, Text.Form.splitAt_eq_splitOn, splitOn_written hbreak hne]

theorem FirstFlaw.append {ls : List (List Char)} {line : Nat} {flaw : Flaw} (h : FirstFlaw ls line flaw)
    (more : List (List Char)) : FirstFlaw (ls ++ more) line flaw := by
  obtain ⟨before, bad, after, rfl, hrest⟩ := h
  exact ⟨before, bad, after ++ more, by simp, hrest⟩

theorem FirstFlaw.lt {ls : List (List Char)} {line : Nat} {flaw : Flaw} (h : FirstFlaw ls line flaw) :
    line < ls.length := by
  obtain ⟨before, bad, after, rfl, rfl, -⟩ := h
  rw [List.length_append, List.length_cons]
  omega

/-- Either all lines can be read, or one of them is the first that cannot. -/
theorem readable_or_flawed {ls : List (List Char)} (hbreak : ∀ line ∈ ls, '\n' ∉ line) :
    (∀ line ∈ ls, ∃ said, Says line said) ∨ ∃ line flaw, FirstFlaw ls line flaw := by
  cases hread : readLines 0 ls ⟨[], []⟩ with
  | error fault =>
    obtain ⟨line, flaw⟩ := fault
    rw [← Nat.zero_add line, readLines_error_iff hbreak] at hread
    exact .inr ⟨line, flaw, hread⟩
  | ok roster =>
    obtain ⟨said, hsaid, -⟩ := readLines_iff.mp hread
    exact .inl (all_say_iff.mp ⟨said, (forall₂_says_iff hbreak).mp hsaid⟩)

/-- A text is refused at some line, if not at one of the earlier lines `before`. -/
def IsRefused (contents : String) (before : List (List Char)) (place : Nat) : Prop :=
  ∃ line flaw, parse contents = .error (line, flaw) ∧ line ≤ place ∧
    ((∀ fine ∈ before, ∃ said, Says fine said) → line = place)

/-- A text with a line that cannot be read is refused there. -/
theorem isRefused_of_bad {before after : List (List Char)} {bad : List Char}
    (hbreak : ∀ line ∈ before ++ bad :: after, '\n' ∉ line) (hbad : ¬ ∃ said, Says bad said) :
    IsRefused (written (before ++ bad :: after)) before before.length := by
  have hparse : ∀ {line flaw}, FirstFlaw (before ++ bad :: after) line flaw →
      parse (written (before ++ bad :: after)) = .error (line, flaw) := by
    intro line flaw hfirst
    rw [parse_written hbreak (by simp), ← Nat.zero_add line, readLines_error_iff hbreak]
    exact hfirst
  have hfront : ∀ line ∈ before, '\n' ∉ line := fun line hline => hbreak line (by simp [hline])
  rcases readable_or_flawed hfront with hfine | ⟨line, flaw, hfirst⟩
  · cases hread : readLine bad with
    | error flaw =>
      exact ⟨before.length, flaw, hparse ⟨before, bad, after, rfl, rfl, hfine, hbad, hread⟩, Nat.le_refl _,
        fun _ => rfl⟩
    | ok said => exact absurd ⟨said, says_of_readLine (hbreak bad (by simp)) hread⟩ hbad
  · refine ⟨line, flaw, hparse (hfirst.append _), Nat.le_of_lt hfirst.lt, fun hfine => ?_⟩
    obtain ⟨front, flawed, back, rfl, -, -, hflawed, -⟩ := hfirst
    exact absurd (hfine flawed (by simp)) hflawed

/-- A line with a line break in it is two lines. -/
theorem written_break (before after : List (List Char)) (first second : List Char) :
    written (before ++ (first ++ '\n' :: second) :: after) = written (before ++ first :: second :: after) := by
  have hrest : ['\n'].intercalate ((first ++ '\n' :: second) :: after) =
      ['\n'].intercalate (first :: second :: after) := by
    cases after with
    | nil => simp [List.intercalate]
    | cons next after => simp [List.intercalate]
  unfold written
  congr 1
  induction before with
  | nil => exact hrest
  | cons line before ih =>
    have hcons : ∀ {ls : List (List Char)}, ls ≠ [] →
        ['\n'].intercalate (line :: ls) = line ++ '\n' :: ['\n'].intercalate ls := by
      intro ls hne
      obtain ⟨next, rest, rfl⟩ := List.exists_cons_of_ne_nil hne
      simp [List.intercalate]
    rw [List.cons_append, List.cons_append, hcons (by simp), hcons (by simp), ih]

/-- The line in which a wrong character is reported: the one that it stands in, or the next one if it is
a line break that leaves nothing in front of it. -/
def typoLine (before : List (List Char)) (i : Nat) (c : Char) : Nat :=
  before.length + if i = 0 ∧ c = '\n' then 1 else 0

section Files

variable {before after : List (List Char)}

theorem forall_mem_insert {line : List Char} (hbreak : ∀ line ∈ before ++ after, '\n' ∉ line)
    (hline : '\n' ∉ line) : ∀ l ∈ before ++ line :: after, '\n' ∉ l := by
  simp only [List.forall_mem_append, List.forall_mem_cons] at hbreak ⊢
  exact ⟨hbreak.1, hline, hbreak.2⟩

theorem newline_not_mem (h : decodeAddress text = .ok account) : '\n' ∉ text.toList :=
  fun hmem => absurd ((decodeAddress_layout h).2.1 _ hmem).1 (by decide)

/-- A wrong character that is no line break leaves the line one line. -/
theorem newline_not_mem_typo (h : decodeAddress text = .ok account) (hc : c ≠ '\n') :
    '\n' ∉ (typo text i c).toList := by
  rw [typo, String.toList_ofList]
  intro hmem
  rcases List.mem_or_eq_of_mem_set hmem with hmem | hmem
  · exact newline_not_mem h hmem
  · exact hc hmem.symm

/-- A wrong character that leaves the line one line and no comment. -/
theorem isRefused_changed (h : decodeAddress text = .ok account) (hi : i < text.toList.length)
    (hc : text.toList[i]? ≠ some c) (hbreak : ∀ line ∈ before ++ after, '\n' ∉ line) (hnewline : c ≠ '\n')
    (hcomment : ¬ (i = 0 ∧ c = '#')) :
    IsRefused (written (before ++ (typo text i c).toList :: after)) before (typoLine before i c) := by
  have hline : '\n' ∉ (typo text i c).toList := newline_not_mem_typo h hnewline
  have hplace : typoLine before i c = before.length := by simp [typoLine, hnewline]
  rw [hplace]
  exact isRefused_of_bad (forall_mem_insert hbreak hline) (not_says_typo h hi hc hcomment)

/-- A line break put in for a character. -/
theorem isRefused_broken (h : decodeAddress text = .ok account) (hi : i < text.toList.length)
    (hbreak : ∀ line ∈ before ++ after, '\n' ∉ line) :
    IsRefused (written (before ++ (typo text i '\n').toList :: after)) before (typoLine before i '\n') := by
  have htypo : (typo text i '\n').toList = text.toList.take i ++ '\n' :: text.toList.drop (i + 1) := by
    rw [typo, String.toList_ofList, List.set_eq_take_append_cons_drop, if_pos hi]
  have hclean := newline_not_mem h
  have hfirst : '\n' ∉ text.toList.take i := fun hmem => hclean (List.mem_of_mem_take hmem)
  have hsecond : '\n' ∉ text.toList.drop (i + 1) := fun hmem => hclean (List.mem_of_mem_drop hmem)
  have hboth := forall_mem_insert (forall_mem_insert hbreak hsecond) hfirst
  rw [htypo, written_break]
  by_cases hzero : i = 0
  · -- the first of the two lines is blank, so the second is the one that cannot be read
    subst hzero
    have hplace : typoLine before 0 '\n' = (before ++ [[]]).length := by simp [typoLine]
    rw [List.take_zero, List.append_cons] at hboth ⊢
    rw [hplace]
    obtain ⟨line, flaw, hparse, hle, hline⟩ := isRefused_of_bad hboth (not_says_drop h)
    refine ⟨line, flaw, hparse, hle, fun hfine => hline ?_⟩
    rw [List.forall_mem_append]
    refine ⟨hfine, fun l hl => ?_⟩
    rw [List.mem_singleton.mp hl]
    exact ⟨none, Means.blank.unpadded⟩
  · have hplace : typoLine before i '\n' = before.length := by simp [typoLine, hzero]
    rw [hplace]
    exact isRefused_of_bad hboth (not_says_take h hi (Nat.pos_of_ne_zero hzero))

/-- A line that says nothing can be left out. -/
theorem parse_without {line : List Char} (hbreak : ∀ line ∈ before ++ after, '\n' ∉ line)
    (hline : '\n' ∉ line) (hsilent : Says line none) (roster : Roster) :
    parse (written (before ++ line :: after)) = .ok roster ↔ parse (written (before ++ after)) = .ok roster := by
  have halike := (Edit.insert before after hsilent).alike 0 0 ⟨[], []⟩ roster
  rw [parse_written (forall_mem_insert hbreak hline) (by simp)]
  by_cases hempty : before ++ after = []
  · rw [hempty] at halike
    rw [hempty, ← halike]
    rfl
  · rw [parse_written hbreak hempty, halike]

/-- The mark of a comment put in for the first character. -/
theorem parse_commented (h : decodeAddress text = .ok account)
    (hbreak : ∀ line ∈ before ++ after, '\n' ∉ line) (roster : Roster) :
    parse (written (before ++ (typo text 0 '#').toList :: after)) = .ok roster ↔
      parse (written (before ++ after)) = .ok roster := by
  have hline : '\n' ∉ (typo text 0 '#').toList := newline_not_mem_typo h (by decide)
  have hsilent : Says (typo text 0 '#').toList none := by
    obtain ⟨-, -, c, rest, htext, -⟩ := decodeAddress_layout h
    rw [typo, String.toList_ofList, htext]
    exact (Means.comment rest).unpadded
  exact parse_without hbreak hline hsilent roster

end Files

/-- **No address with one wrong character is accepted.**  Whatever character is put in for whatever other
one, case and separator included, the text is no address any more.  In a roster, whatever stands around
it, the line is reported unless an earlier one is; or, if the wrong character is the mark of a comment at
the front, the line says nothing and the roster is that of the other lines. -/
theorem typos_refused (h : decodeAddress text = .ok account) (hi : i < text.toList.length)
    (hc : text.toList[i]? ≠ some c) :
    (∃ flaw, decodeAddress (typo text i c) = .error flaw) ∧
    ∀ before after : List (List Char), (∀ line ∈ before ++ after, '\n' ∉ line) →
      (¬ (i = 0 ∧ c = '#') →
        IsRefused (written (before ++ (typo text i c).toList :: after)) before (typoLine before i c)) ∧
      (i = 0 ∧ c = '#' → ∀ roster,
        parse (written (before ++ (typo text i c).toList :: after)) = .ok roster ↔
          parse (written (before ++ after)) = .ok roster) := by
  refine ⟨decodeAddress_typo h hi hc, fun before after hbreak => ⟨fun hcomment => ?_, ?_⟩⟩
  · by_cases hnewline : c = '\n'
    · subst hnewline
      exact isRefused_broken h hi hbreak
    · exact isRefused_changed h hi hc hbreak hnewline hcomment
  · rintro ⟨rfl, rfl⟩
    exact parse_commented h hbreak

/-- An address whose last letter is wrong, behind a comment. -/
theorem typo_in_last_letter :
    decodeAddress someAddress = .ok
      ⟨"0102030405060708090a0b0c0d0e0f101112131415161718191a1b1c1d1e1f20", someAddress⟩ ∧
    61 < someAddress.toList.length ∧ someAddress.toList[61]? ≠ some 'q' ∧
    (∃ flaw, decodeAddress (typo someAddress 61 'q') = .error flaw) ∧
    ∃ flaw, parse (written ["# to watch".toList, (typo someAddress 61 'q').toList]) = .error (1, flaw) := by
  have haddress : decodeAddress someAddress = .ok
      ⟨"0102030405060708090a0b0c0d0e0f101112131415161718191a1b1c1d1e1f20", someAddress⟩ := by
    decide +kernel
  have hplace : 61 < someAddress.toList.length := by decide
  have hother : someAddress.toList[61]? ≠ some 'q' := by decide
  obtain ⟨hrefused, hroster⟩ := typos_refused haddress hplace hother
  obtain ⟨line, flaw, hparse, -, hline⟩ :=
    (hroster ["# to watch".toList] [] (by decide)).1 (by decide)
  have hfirst : line = 1 := hline fun fine hfine => by
    rw [List.mem_singleton.mp hfine]
    exact ⟨none, (Means.comment " to watch".toList).unpadded⟩
  subst hfirst
  exact ⟨haddress, hplace, hother, hrefused, flaw, hparse⟩

/-- The mark of a comment hides the address that it is typed into, and nothing is reported. -/
theorem comment_hides_typo :
    decodeAddress someAddress = .ok
      ⟨"0102030405060708090a0b0c0d0e0f101112131415161718191a1b1c1d1e1f20", someAddress⟩ ∧
    someAddress.toList[0]? = some 'e' ∧ parse (typo someAddress 0 '#') = .ok ⟨[], []⟩ := by
  decide +kernel

end ValidatorAlarm.Roster
