import Mathlib.Data.List.Forall2
import Mathlib.Data.List.TakeWhile
import Mathlib.Logic.Relation
import ValidatorAlarm.Proofs.Identity.Address
import ValidatorAlarm.Proofs.Text.Hex
import ValidatorAlarm.Proofs.Text.Parts

/-!
# The grammar of rosters

A line says nothing or names one identity, and it can do so in few ways only; here they are written
down without the reader.  The reader accepts a text exactly if all of its lines are of this kind, and
the roster holds what they name, in their order.  So a text can be edited in any way that leaves what
its lines name, and the roster stays the same.

The only thing that a line break could be confused with is padding: the reader would take it away at
the ends of a line as well, but no line has one.
-/
namespace ValidatorAlarm.Roster

open Text (utf8 byteLength)
open Text.Hex (IsDigit)

/-! ### What a line says -/

/-- Spaces, tabs and carriage returns. -/
def IsPad (cs : List Char) : Prop := ∀ c ∈ cs, c = ' ' ∨ c = '\t' ∨ c = '\r'

/-- A text names a key by its digits, and an account by its address. -/
inductive Names : List Char → Identity → Prop
  | key {text : List Char} (hlength : text.length = keyDigits) (hdigits : ∀ c ∈ text, IsDigit c) :
      Names text (.key (String.ofList text))
  | account {text : List Char} {account : Account}
      (h : decodeAddress (String.ofList text) = .ok account) : Names text (.account account)

/-- What a text says that has no padding around it. -/
inductive Means : List Char → Option Identity → Prop
  | blank : Means [] none
  | comment (rest : List Char) : Means ('#' :: rest) none
  | bare {text : List Char} {identity : Identity} (h : Names text identity) : Means text (some identity)
  | quoted {text : List Char} {identity : Identity} (h : Names text identity) :
      Means ('"' :: text ++ ['"']) (some identity)

/-- What a line says. -/
inductive Says : List Char → Option Identity → Prop
  | padded {left text right : List Char} {said : Option Identity} (hleft : IsPad left)
      (hright : IsPad right) (h : Means text said) : Says (left ++ text ++ right) said

def Identity.key? : Identity → Option String
  | .key digits => some digits
  | .account _ => none

def Identity.account? : Identity → Option Account
  | .key _ => none
  | .account it => some it

/-- The roster of what the lines say, in their order. -/
def gather (said : List (Option Identity)) : Roster :=
  ⟨said.filterMap (·.bind Identity.key?), said.filterMap (·.bind Identity.account?)⟩

/-- One edit of the lines of a text: a line that says nothing is put in, a line is padded, or an
identity is put in quotes. -/
inductive Edit : List (List Char) → List (List Char) → Prop
  | insert (before after : List (List Char)) {line : List Char} (h : Says line none) :
      Edit (before ++ after) (before ++ line :: after)
  | pad (before after : List (List Char)) {left right : List Char} (line : List Char)
      (hleft : IsPad left) (hright : IsPad right) :
      Edit (before ++ line :: after) (before ++ (left ++ line ++ right) :: after)
  | quote (before after : List (List Char)) {text : List Char} {identity : Identity}
      (h : Names text identity) :
      Edit (before ++ text :: after) (before ++ ('"' :: text ++ ['"']) :: after)

/-! ### Padding -/

theorem IsPad.isPadding {cs : List Char} (h : IsPad cs) : ∀ c ∈ cs, isPadding c = true := by
  intro c hc
  rcases h c hc with rfl | rfl | rfl <;> decide

theorem isPad_of_isPadding {cs : List Char} (h : ∀ c ∈ cs, isPadding c = true) (hline : '\n' ∉ cs) :
    IsPad cs := by
  intro c hc
  have hpadding := h c hc
  simp only [isPadding, Bool.or_eq_true, decide_eq_true_eq] at hpadding
  rcases hpadding with ((rfl | rfl) | rfl) | rfl
  · exact .inl rfl
  · exact .inr (.inl rfl)
  · exact .inr (.inr rfl)
  · exact absurd hc hline

theorem dropWhile_of_none {text : List Char} (h : ∀ c ∈ text, isPadding c = false) :
    text.dropWhile isPadding = text := by
  cases text with
  | nil => rfl
  | cons c text => rw [List.dropWhile_cons_of_neg (by simp [h c])]

theorem trim_of_none {text : List Char} (h : ∀ c ∈ text, isPadding c = false) : trim text = text := by
  have hreverse : ∀ c ∈ text.reverse, isPadding c = false := fun c hc => h c (List.mem_reverse.mp hc)
  rw [trim, dropWhile_of_none h, dropWhile_of_none hreverse, List.reverse_reverse]

/-- Padding around a line is not seen. -/
theorem trim_padded {left right : List Char} (hleft : IsPad left) (hright : IsPad right)
    (line : List Char) : trim (left ++ line ++ right) = trim line := by
  have hright' : ∀ c ∈ right.reverse, isPadding c = true :=
    fun c hc => hright.isPadding c (List.mem_reverse.mp hc)
  rw [trim, trim, List.append_assoc, List.dropWhile_append_of_pos hleft.isPadding, List.dropWhile_append]
  split
  · rename_i hempty
    rw [List.isEmpty_iff.mp hempty]
    have hnone : (right ++ []).dropWhile isPadding = [] := List.dropWhile_append_of_pos hright.isPadding
    rw [List.append_nil] at hnone
    rw [hnone]
  · rw [List.reverse_append, List.dropWhile_append_of_pos hright']

/-- A line is what is left of it with padding around. -/
theorem exists_trim (line : List Char) : ∃ left right, line = left ++ trim line ++ right ∧
    (∀ c ∈ left, isPadding c = true) ∧ ∀ c ∈ right, isPadding c = true := by
  have hfront := List.takeWhile_append_dropWhile (p := isPadding) (l := line)
  have hback := congrArg List.reverse
    (List.takeWhile_append_dropWhile (p := isPadding) (l := (line.dropWhile isPadding).reverse))
  rw [List.reverse_append, List.reverse_reverse] at hback
  refine ⟨line.takeWhile isPadding, ((line.dropWhile isPadding).reverse.takeWhile isPadding).reverse,
    ?_, fun c hc => List.mem_takeWhile_imp hc,
    fun c hc => List.mem_takeWhile_imp (List.mem_reverse.mp hc)⟩
  rw [List.append_assoc, trim, hback, hfront]

theorem trim_comment (rest : List Char) : ∃ more, trim ('#' :: rest) = '#' :: more := by
  have hfirst : isPadding '#' = false := by decide
  rw [trim, List.dropWhile_cons_of_neg (by simp [hfirst]), List.reverse_cons, List.dropWhile_append]
  split
  · exact ⟨[], by simp [hfirst]⟩
  · exact ⟨_, by rw [List.reverse_append]; rfl⟩

/-! ### Identities -/

theorem Names.visible {text : List Char} {identity : Identity} (h : Names text identity) :
    ∀ c ∈ text, Bech32.Visible c := by
  cases h with
  | key hlength hdigits =>
    have hall : ∀ c ∈ "0123456789abcdefABCDEF".toList, Bech32.Visible c := by
      unfold Bech32.Visible
      decide
    exact fun c hc => hall c (hdigits c hc)
  | account haddress =>
    have hlayout := (decodeAddress_layout haddress).2.1
    rwa [String.toList_ofList] at hlayout

/-- The first character of an identity is neither a quote nor the mark of a comment. -/
theorem Names.first {text : List Char} {identity : Identity} (h : Names text identity) :
    ∃ c rest, text = c :: rest ∧ c ≠ '"' ∧ c ≠ '#' := by
  cases h with
  | key hlength hdigits =>
    have hall : ∀ c ∈ "0123456789abcdefABCDEF".toList, c ≠ '"' ∧ c ≠ '#' := by decide
    match text, hlength, hdigits with
    | c :: rest, _, hdigits => exact ⟨c, rest, rfl, hall c (hdigits c List.mem_cons_self)⟩
  | account haddress =>
    obtain ⟨c, rest, htext, hc⟩ := (decodeAddress_layout haddress).2.2
    rw [String.toList_ofList] at htext
    refine ⟨c, rest, htext, ?_⟩
    rcases hc with rfl | rfl <;> decide

theorem isPadding_of_visible {c : Char} (h : Bech32.Visible c) : isPadding c = false := by
  have hnot : isPadding c ≠ true := by
    simp only [isPadding, ne_eq, Bool.or_eq_true, decide_eq_true_eq, not_or]
    unfold Bech32.Visible at h
    refine ⟨⟨⟨?_, ?_⟩, ?_⟩, ?_⟩ <;> rintro rfl <;> exact absurd h (by decide)
  simpa using hnot

theorem byteLength_ascii {text : List Char} (h : ∀ c ∈ text, c.toNat < 128) :
    (utf8 (String.ofList text)).length = text.length := by
  rw [Text.utf8_ascii h, List.length_map]

/-- The reader takes exactly the identities. -/
theorem readIdentity_iff {text : List Char} {identity : Identity} :
    readIdentity (String.ofList text) = .ok identity ↔ Names text identity := by
  constructor
  · intro h
    unfold readIdentity at h
    split at h
    · rename_i hlength
      cases hbytes : Text.Hex.decode (utf8 (String.ofList text)) with
      | error flaw =>
        rw [hbytes] at h
        cases h
      | ok bytes =>
        rw [hbytes] at h
        cases h
        obtain ⟨-, hdigits⟩ := Text.Hex.decode_iff.mp ⟨bytes, hbytes⟩
        rw [String.toList_ofList] at hdigits
        rw [byteLength_ascii fun c hc => (Text.Hex.isDigit_ascii (hdigits c hc)).1] at hlength
        exact .key hlength hdigits
    · cases haddress : decodeAddress (String.ofList text) with
      | error flaw =>
        rw [haddress] at h
        cases h
      | ok account =>
        rw [haddress] at h
        cases h
        exact .account haddress
  · intro h
    have hascii : ∀ c ∈ text, c.toNat < 128 := fun c hc => Nat.lt_of_le_of_lt (h.visible c hc).2 (by decide)
    have hbytes := byteLength_ascii hascii
    unfold readIdentity
    cases h with
    | key hlength hdigits =>
      have heven : (String.ofList text).toList.length % 2 = 0 := by
        rw [String.toList_ofList, hlength]
        decide
      obtain ⟨bytes, hread⟩ := Text.Hex.decode_iff.mpr ⟨heven, by rwa [String.toList_ofList]⟩
      rw [if_pos (hbytes.trans hlength), hread]
    | account haddress =>
      -- an address is too short for a key
      have hlength := (decodeAddress_layout haddress).1
      rw [String.toList_ofList] at hlength
      rw [if_neg (by rw [hbytes, hlength]; decide), haddress]
      rfl

/-! ### Lines -/

theorem unquote_bare {c : Char} {rest : List Char} (hc : c ≠ '"') : unquote (c :: rest) = c :: rest := by
  unfold unquote
  split
  · rename_i hquote
    exact absurd (List.cons.inj hquote).1 hc
  · rfl

theorem unquote_quoted (text : List Char) : unquote ('"' :: text ++ ['"']) = text := by
  simp [unquote]

/-- What quotes are taken from is a text in quotes. -/
theorem unquote_cases (line : List Char) : unquote line = line ∨ line = '"' :: unquote line ++ ['"'] := by
  unfold unquote
  split
  · rename_i rest
    split
    · rename_i hlast
      right
      have hne : rest ≠ [] := by
        rintro rfl
        cases hlast
      have hquote : rest.getLast hne = '"' := by
        rw [List.getLast?_eq_some_getLast hne] at hlast
        exact Option.some.inj hlast
      have happend := List.dropLast_append_getLast hne
      rw [hquote] at happend
      rw [List.cons_append, happend]
    · exact .inl rfl
  · exact .inl rfl

theorem readLine_of_trim {line : List Char} {c : Char} {rest : List Char} (htrim : trim line = c :: rest)
    (hc : c ≠ '#') : readLine line = (readIdentity (String.ofList (unquote (c :: rest)))).map some := by
  unfold readLine
  rw [htrim]
  split
  · rename_i hnil
    cases hnil
  · rename_i hmark
    exact absurd (List.cons.inj hmark).1 hc
  · rfl

/-- What a line says is read from it. -/
theorem Says.readLine_eq {line : List Char} {said : Option Identity} (h : Says line said) :
    readLine line = .ok said := by
  obtain ⟨hleft, hright, hmeans⟩ := h
  rename_i text _
  have htrim := trim_padded hleft hright text
  cases hmeans with
  | blank =>
    unfold readLine
    rw [htrim]
    rfl
  | comment rest =>
    obtain ⟨more, hmore⟩ := trim_comment rest
    unfold readLine
    rw [htrim, hmore]
    rfl
  | bare hname =>
    obtain ⟨c, rest, rfl, hquote, hmark⟩ := hname.first
    rw [trim_of_none fun c hc => isPadding_of_visible (hname.visible c hc)] at htrim
    rw [readLine_of_trim htrim hmark, unquote_bare hquote, readIdentity_iff.mpr hname]
    rfl
  | @quoted text _ hname =>
    have hvisible : ∀ c ∈ '"' :: text ++ ['"'], isPadding c = false := by
      intro c hc
      simp only [List.cons_append, List.mem_cons, List.mem_append, List.not_mem_nil, or_false] at hc
      rcases hc with rfl | hc | rfl
      · decide
      · exact isPadding_of_visible (hname.visible c hc)
      · decide
    rw [trim_of_none hvisible] at htrim
    rw [readLine_of_trim htrim (by decide)]
    have hread := readIdentity_iff.mpr hname
    rw [← unquote_quoted text] at hread
    exact congrArg (Except.map some) hread

/-- What is read from a line, the line says. -/
theorem says_of_readLine {line : List Char} {said : Option Identity} (hline : '\n' ∉ line)
    (h : readLine line = .ok said) : Says line said := by
  obtain ⟨left, right, hpadded, hleft, hright⟩ := exists_trim line
  have hmeans : Means (trim line) said := by
    unfold readLine at h
    split at h
    · rename_i hnil
      cases h
      rw [hnil]
      exact .blank
    · rename_i rest hmark
      cases h
      rw [hmark]
      exact .comment rest
    · cases hread : readIdentity (String.ofList (unquote (trim line))) with
      | error flaw =>
        rw [hread] at h
        cases h
      | ok identity =>
        rw [hread] at h
        cases h
        have hname := readIdentity_iff.mp hread
        rcases unquote_cases (trim line) with hsame | hquoted
        · rw [hsame] at hname
          exact .bare hname
        · rw [hquoted]
          exact .quoted hname
  rw [hpadded] at hline ⊢
  simp only [List.mem_append, not_or] at hline
  exact .padded (isPad_of_isPadding hleft hline.1.1) (isPad_of_isPadding hright hline.2) hmeans

theorem Means.unpadded {text : List Char} {said : Option Identity} (h : Means text said) : Says text said := by
  have hempty : IsPad [] := nofun
  have hsays := Says.padded hempty hempty h
  rwa [List.nil_append, List.append_nil] at hsays

/-! ### Texts -/

/-- The roster with what one more line says. -/
def hear (roster : Roster) : Option Identity → Roster
  | none => roster
  | some identity => roster.add identity

/-- One roster after another. -/
def followedBy (roster more : Roster) : Roster :=
  ⟨roster.keys ++ more.keys, roster.accounts ++ more.accounts⟩

theorem hear_followedBy (roster : Roster) (said : Option Identity) (rest : List (Option Identity)) :
    (roster.hear said).followedBy (gather rest) = roster.followedBy (gather (said :: rest)) := by
  match said with
  | none => rfl
  | some (.key digits) =>
    have hkeys : (gather (some (.key digits) :: rest)).keys = digits :: (gather rest).keys := rfl
    have haccounts : (gather (some (.key digits) :: rest)).accounts = (gather rest).accounts := rfl
    simp [followedBy, hear, add, hkeys, haccounts]
  | some (.account it) =>
    have hkeys : (gather (some (.account it) :: rest)).keys = (gather rest).keys := rfl
    have haccounts : (gather (some (.account it) :: rest)).accounts = it :: (gather rest).accounts := rfl
    simp [followedBy, hear, add, hkeys, haccounts]

theorem readLines_cons {number : Nat} {line : List Char} {ls : List (List Char)} {roster : Roster}
    {said : Option Identity} (h : readLine line = .ok said) :
    readLines number (line :: ls) roster = readLines (number + 1) ls (roster.hear said) := by
  cases said <;> simp only [readLines, h, hear]

/-- **Reading some lines.**  Each line is read for itself, and what they say is added in their order. -/
theorem readLines_iff {number : Nat} {ls : List (List Char)} {roster out : Roster} :
    readLines number ls roster = .ok out ↔
      ∃ said, List.Forall₂ (fun line s => readLine line = .ok s) ls said ∧
        out = roster.followedBy (gather said) := by
  induction ls generalizing number roster with
  | nil => simp [readLines, followedBy, gather, eq_comm]
  | cons line ls ih =>
    cases hread : readLine line with
    | error flaw => simp [readLines, hread, List.forall₂_cons_left_iff]
    | ok said =>
      rw [readLines_cons hread, ih]
      constructor
      · rintro ⟨rest, hrest, rfl⟩
        exact ⟨said :: rest, .cons hread hrest, hear_followedBy roster said rest⟩
      · rintro ⟨more, hmore, rfl⟩
        obtain ⟨first, rest, hfirst, hrest, rfl⟩ := List.forall₂_cons_left_iff.mp hmore
        rw [hread] at hfirst
        cases hfirst
        exact ⟨rest, hrest, (hear_followedBy roster said rest).symm⟩

/-- The reader and the grammar agree on lines without a line break in them. -/
theorem forall₂_says_iff {ls : List (List Char)} {said : List (Option Identity)}
    (hbreak : ∀ line ∈ ls, '\n' ∉ line) :
    List.Forall₂ (fun line s => readLine line = .ok s) ls said ↔ List.Forall₂ Says ls said := by
  constructor
  · intro h
    induction h with
    | nil => exact .nil
    | cons hread _ ih =>
      rw [List.forall_mem_cons] at hbreak
      exact .cons (says_of_readLine hbreak.1 hread) (ih hbreak.2)
  · exact List.Forall₂.imp fun _ _ => Says.readLine_eq

/-- What the lines say is all there is in a roster. -/
theorem parse_iff {contents : String} {roster : Roster} : parse contents = .ok roster ↔
    ∃ said, List.Forall₂ Says (contents.toList.splitOn '\n') said ∧ roster = gather said := by
  simp only [parse, lines, readLines_iff, forall₂_says_iff (Text.Form.notMem_splitAt _ _), ← Text.Form.splitAt_eq_splitOn]
  rfl

/-- Lines that each say something can be put together. -/
theorem all_say_iff {ls : List (List Char)} :
    (∃ said, List.Forall₂ Says ls said) ↔ ∀ line ∈ ls, ∃ said, Says line said := by
  induction ls with
  | nil => simp
  | cons line ls ih =>
    rw [List.forall_mem_cons, ← ih]
    constructor
    · rintro ⟨_, hall⟩
      obtain ⟨said, rest, hline, hrest, rfl⟩ := List.forall₂_cons_left_iff.mp hall
      exact ⟨⟨said, hline⟩, rest, hrest⟩
    · rintro ⟨⟨said, hline⟩, rest, hrest⟩
      exact ⟨said :: rest, .cons hline hrest⟩

/-! ### Edits -/

/-- Some lines give the same roster as others, wherever they stand. -/
def Alike (ls ms : List (List Char)) : Prop :=
  ∀ n m roster out, readLines n ls roster = .ok out ↔ readLines m ms roster = .ok out

/-- The number of a line matters for flaws only. -/
theorem Alike.refl (ls : List (List Char)) : Alike ls ls := by
  intro n m roster out
  rw [readLines_iff, readLines_iff]

/-- **One line for another.**  Whether a line can be read, and what it then says, is all that counts. -/
theorem Alike.cons {line other : List Char} {ls ms : List (List Char)}
    (hline : readLine line = readLine other) (h : Alike ls ms) : Alike (line :: ls) (other :: ms) := by
  intro n m roster out
  cases hother : readLine other with
  | error flaw => simp [readLines, hline, hother]
  | ok said =>
    rw [readLines_cons (hline.trans hother), readLines_cons hother]
    exact h _ _ _ _

theorem Alike.append (before : List (List Char)) {ls ms : List (List Char)} (h : Alike ls ms) :
    Alike (before ++ ls) (before ++ ms) := by
  induction before with
  | nil => exact h
  | cons line before ih => exact Alike.cons rfl ih

/-- **One edit.** -/
theorem Edit.alike {ls ms : List (List Char)} (h : Edit ls ms) : Alike ls ms := by
  cases h with
  | insert before after hsilent =>
    refine Alike.append before fun n m roster out => ?_
    rw [readLines_cons hsilent.readLine_eq]
    exact Alike.refl after n (m + 1) roster out
  | pad before after line hleft hright =>
    refine Alike.append before (Alike.cons ?_ (Alike.refl after))
    unfold readLine
    rw [trim_padded hleft hright]
  | quote before after hname =>
    refine Alike.append before (Alike.cons ?_ (Alike.refl after))
    rw [(Means.bare hname).unpadded.readLine_eq, (Means.quoted hname).unpadded.readLine_eq]

/-- **Any number of edits, forth and back.** -/
theorem alike_of_edits {ls ms : List (List Char)} (h : Relation.EqvGen Edit ls ms) : Alike ls ms := by
  induction h with
  | rel ls ms hedit => exact hedit.alike
  | refl ls => exact Alike.refl ls
  | symm ls ms _ ih => exact fun n m roster out => (ih m n roster out).symm
  | trans ls ms rest _ _ ihfirst ihsecond =>
    exact fun n m roster out => (ihfirst n m roster out).trans (ihsecond m m roster out)

/-- **The grammar of rosters.**  A text is accepted exactly if each of its lines says something, if only
nothing.  Its roster is what the lines name, the keys as they are written and the accounts as their
addresses are read, each in the order of the lines.  Edits that leave what the lines name leave the
roster: a text that was accepted stays so with the same roster, one that was not is still not. -/
theorem parse_grammar (contents : String) :
    ((∃ roster, parse contents = .ok roster) ↔
      ∀ line ∈ contents.toList.splitOn '\n', ∃ said, Says line said) ∧
    (∀ roster, parse contents = .ok roster ↔
      ∃ said, List.Forall₂ Says (contents.toList.splitOn '\n') said ∧ roster = gather said) ∧
    ∀ other : String,
      Relation.EqvGen Edit (contents.toList.splitOn '\n') (other.toList.splitOn '\n') →
      ∀ roster, parse contents = .ok roster ↔ parse other = .ok roster := by
  refine ⟨?_, fun roster => parse_iff, fun other hedits roster => ?_⟩
  · rw [← all_say_iff]
    constructor
    · rintro ⟨roster, hroster⟩
      obtain ⟨said, hsaid, -⟩ := parse_iff.mp hroster
      exact ⟨said, hsaid⟩
    · rintro ⟨said, hsaid⟩
      exact ⟨gather said, parse_iff.mpr ⟨said, hsaid, rfl⟩⟩
  · rw [← Text.Form.splitAt_eq_splitOn, ← Text.Form.splitAt_eq_splitOn] at hedits
    exact alike_of_edits hedits 0 0 ⟨[], []⟩ roster

/-- A text of some lines. -/
def written (ls : List (List Char)) : String := String.ofList (['\n'].intercalate ls)

def someKey : List Char := List.replicate keyDigits 'c'

def someAddress : String := "erd1qypqxpq9qcrsszg2pvxq6rs0zqg3yyc5z5tpwxqergd3c8g7rusq4707q5"

/-- A key and an address, a line each. -/
def bareLines : List (List Char) := [someKey, someAddress.toList]

/-- The same with a comment, a blank line, and the key in quotes on an indented line that ends in a
carriage return. -/
def dressedLines : List (List Char) :=
  ["# to watch".toList, [' '] ++ ('"' :: someKey ++ ['"']) ++ ['\r'], [], someAddress.toList]

theorem dressed_roster :
    parse (written bareLines) =
      .ok ⟨[String.ofList someKey],
        [⟨"0102030405060708090a0b0c0d0e0f101112131415161718191a1b1c1d1e1f20", someAddress⟩]⟩ ∧
    parse (written dressedLines) = parse (written bareLines) := by
  have hkey : Names someKey (.key (String.ofList someKey)) := by
    refine .key List.length_replicate fun c hc => ?_
    rw [List.eq_of_mem_replicate hc]
    unfold IsDigit
    decide
  have haddress : Names someAddress.toList (.account
      ⟨"0102030405060708090a0b0c0d0e0f101112131415161718191a1b1c1d1e1f20", someAddress⟩) := by
    refine .account ?_
    rw [String.ofList_toList]
    decide +kernel
  have hsplit : ∀ ls, (∀ line ∈ ls, '\n' ∉ line) → ls ≠ [] →
      (written ls).toList.splitOn '\n' = ls := by
    intro ls hbreak hne
    rw [written, String.toList_ofList]
    exact List.splitOn_intercalate '\n' hbreak hne
  have hbare := hsplit bareLines (by decide) nofun
  have hdressed := hsplit dressedLines (by decide) nofun
  have hsaid : List.Forall₂ Says bareLines _ :=
    .cons (Means.bare hkey).unpadded (.cons (Means.bare haddress).unpadded .nil)
  rw [← hbare] at hsaid
  have hplain := ((parse_grammar (written bareLines)).2.1 _).mpr ⟨_, hsaid, rfl⟩
  have hedits : Relation.EqvGen Edit bareLines dressedLines := by
    have hcomment : Says "# to watch".toList none := (Means.comment " to watch".toList).unpadded
    have hcommented := Edit.insert [] bareLines hcomment
    have hquoted := Edit.quote ["# to watch".toList] [someAddress.toList] hkey
    have hspace : IsPad [' '] := by simp [IsPad]
    have hreturn : IsPad ['\r'] := by simp [IsPad]
    have hpadded := Edit.pad ["# to watch".toList] [someAddress.toList] ('"' :: someKey ++ ['"'])
      hspace hreturn
    have hspaced := Edit.insert
      ["# to watch".toList, [' '] ++ ('"' :: someKey ++ ['"']) ++ ['\r']] [someAddress.toList]
      Means.blank.unpadded
    exact .trans _ _ _ (.rel _ _ hcommented) (.trans _ _ _ (.rel _ _ hquoted)
      (.trans _ _ _ (.rel _ _ hpadded) (.rel _ _ hspaced)))
  have hsame := (parse_grammar (written bareLines)).2.2 (written dressedLines)
    (by rwa [hbare, hdressed])
  exact ⟨hplain, ((hsame _).mp hplain).trans hplain.symm⟩

end ValidatorAlarm.Roster
