import ValidatorAlarm.Proofs.Identity.Grammar
import ValidatorAlarm.Proofs.Monitor.Listings

/-!
# How keys are spelled

A key can be spelled with small and with capital letters.  The network and the query for staked keys
spell it with small ones.  A roster keeps each key as it is written, so a key with a capital letter in
it is looked up in vain: its rating is never found, whatever it is.
-/
namespace ValidatorAlarm

open Text (utf8 byteLength)
open Text.Hex (encode decode)

def hasCapital (s : String) : Bool := s.toList.any Char.isUpper

theorem eq_encode_iff_hasCapital {s : String} {bytes : List UInt8} (h : decode (utf8 s) = .ok bytes) :
    s = encode bytes ↔ hasCapital s = false := by
  rw [Text.Hex.eq_encode_iff h, hasCapital, List.any_eq_false]
  simp

/-! ### The keys of a roster -/

namespace Roster

/-- The identity that a line names, as it is written there. -/
def entry? (line : List Char) : Option String :=
  match trim line with
  | [] => none
  | '#' :: _ => none
  | text => some (String.ofList (unquote text))

/-- The keys in some lines, as they are written there. -/
def keysIn (ls : List (List Char)) : List String :=
  (ls.filterMap entry?).filter fun text => byteLength text = keyDigits

/-- The keys in a text, as they are written there. -/
def writtenKeys (contents : String) : List String := keysIn (lines contents.toList)

theorem readLine_eq (line : List Char) :
    readLine line = match entry? line with
      | none => .ok none
      | some text => (readIdentity text).map some := by
  unfold readLine entry?
  split <;> simp_all

theorem readIdentity_cases {text : String} {identity : Identity}
    (h : readIdentity text = .ok identity) :
    (byteLength text = keyDigits ∧ (∃ bytes, decode (utf8 text) = .ok bytes) ∧ identity = .key text) ∨
      (byteLength text ≠ keyDigits ∧ ∃ account, identity = .account account) := by
  unfold readIdentity at h
  split at h
  · rename_i hlength
    split at h
    · cases h
    · rename_i bytes hbytes
      cases h
      exact .inl ⟨hlength, ⟨bytes, hbytes⟩, rfl⟩
  · rename_i hlength
    cases hread : decodeAddress text with
    | error flaw => rw [hread] at h; cases h
    | ok account =>
      rw [hread] at h
      cases h
      exact .inr ⟨hlength, account, rfl⟩

/-- The keys are taken over as they stand, and every one of them can be read. -/
theorem readLines_keys {number : Nat} {ls : List (List Char)} {roster out : Roster}
    (h : readLines number ls roster = .ok out) :
    out.keys = roster.keys ++ keysIn ls ∧
      ∀ text ∈ keysIn ls, ∃ bytes, decode (utf8 text) = .ok bytes := by
  induction ls generalizing number roster with
  | nil =>
    cases h
    simp [keysIn]
  | cons line ls ih =>
    cases hentry : entry? line with
    | none =>
      have hkeys : keysIn (line :: ls) = keysIn ls := by simp [keysIn, hentry]
      simp only [readLines, readLine_eq, hentry] at h
      rw [hkeys]
      exact ih h
    | some text =>
      simp only [readLines, readLine_eq, hentry] at h
      cases hread : readIdentity text with
      | error flaw => rw [hread] at h; cases h
      | ok identity =>
        rw [hread] at h
        obtain ⟨hrest, hreadable⟩ := ih h
        rcases readIdentity_cases hread with ⟨hlength, hbytes, rfl⟩ | ⟨hlength, account, rfl⟩
        · have hkeys : keysIn (line :: ls) = text :: keysIn ls := by simp [keysIn, hentry, hlength]
          rw [hkeys, hrest]
          refine ⟨by simp [add], ?_⟩
          simp only [List.forall_mem_cons]
          exact ⟨hbytes, hreadable⟩
        · have hkeys : keysIn (line :: ls) = keysIn ls := by simp [keysIn, hentry, hlength]
          rw [hkeys, hrest]
          exact ⟨rfl, hreadable⟩

/-- A text of one line that names a key. -/
theorem parse_line {contents key : String} (hlines : lines contents.toList = [contents.toList])
    (hentry : entry? contents.toList = some key) (hread : readIdentity key = .ok (.key key)) :
    parse contents = .ok ⟨[key], []⟩ := by
  rw [parse, hlines, readLines, readLine_eq, hentry]
  simp only [hread]
  rfl

theorem parse_keys {contents : String} {roster : Roster} (h : parse contents = .ok roster) :
    roster.keys = writtenKeys contents := (readLines_keys h).1

/-- Every key of a roster stands for the bytes of a key. -/
theorem parse_readable {contents : String} {roster : Roster} (h : parse contents = .ok roster) :
    ∀ text ∈ writtenKeys contents, ∃ bytes, bytes.length = keyLength ∧ decode (utf8 text) = .ok bytes := by
  intro text htext
  obtain ⟨bytes, hbytes⟩ := (readLines_keys h).2 text htext
  have hlength := (Text.Hex.encode_of_decode hbytes).1
  have hdigits : byteLength text = keyDigits := by
    have h := (List.mem_filter.mp htext).2
    simpa using h
  rw [hdigits, keyDigits] at hlength
  exact ⟨bytes, by rw [keyLength]; omega, hbytes⟩

end Roster

/-! ### The keys of accounts -/

theorem Network.stakedKeysOf_encoded {items : List (List UInt8)} {key : String}
    (h : key ∈ Network.stakedKeysOf items) :
    ∃ bytes, bytes.length = Roster.keyLength ∧ key = encode bytes := by
  obtain ⟨pair, -, hpair⟩ := List.mem_filterMap.mp h
  unfold Network.stakedKey? at hpair
  split at hpair
  · rename_i hkey
    cases hpair
    exact ⟨pair.1, (by simpa using hkey : _ ∧ _).1, rfl⟩
  · cases hpair

/-! ### What is flagged -/

/-- The network spells every key as it is written from its bytes. -/
def Snapshot.IsEncoded (snapshot : Snapshot) : Prop :=
  ∀ key, snapshot.get? key ≠ none → ∃ bytes, key = encode bytes

theorem isFlagged_of_ne_empty {tolerance : Single} {snapshot : Snapshot} {key : String}
    (hkey : key ≠ "") : isFlagged tolerance snapshot key =
      ((snapshot.get? key).bind (Rating.alarm? tolerance)).isSome := by
  rw [isFlagged, problem?, if_neg hkey, Option.isSome_map]

/-- A key with a capital letter is not rated. -/
theorem Snapshot.IsEncoded.get?_capital {snapshot : Snapshot} (hencoded : snapshot.IsEncoded)
    {key : String} (hcapital : hasCapital key = true) : snapshot.get? key = none := by
  by_contra hsome
  obtain ⟨bytes, rfl⟩ := hencoded key hsome
  rw [(eq_encode_iff_hasCapital (Text.Hex.decode_encode bytes)).mp rfl] at hcapital
  cases hcapital

theorem Snapshot.IsEncoded.isFlagged_capital {snapshot : Snapshot} (hencoded : snapshot.IsEncoded)
    (tolerance : Single) {key : String} (hcapital : hasCapital key = true) :
    isFlagged tolerance snapshot key = false := by
  simp [isFlagged, problem?, hencoded.get?_capital hcapital]

theorem Snapshot.IsEncoded.findProblems_keys {snapshot : Snapshot} (hencoded : snapshot.IsEncoded)
    (tolerance : Single) (keys : List String) :
    (findProblems tolerance keys snapshot []).map (·.key) =
      (keys.filter (!hasCapital ·)).filter (isFlagged tolerance snapshot) := by
  rw [ValidatorAlarm.findProblems_keys, List.append_nil, List.filter_filter]
  refine List.filter_congr fun key _ => ?_
  cases hcapital : hasCapital key with
  | false => simp
  | true => simp [hencoded.isFlagged_capital tolerance hcapital]

/-- **A roster keeps the spelling of its keys, and only those in small letters are looked up with
success.**  The keys are those that the text names, as they are written there.  Each stands for the
bytes of a key, and is their written form exactly if it has no capital letter.  The keys that the
network hands out always have this form.  If the ratings have it as well, the problems found are about
the keys without a capital letter whose ratings raise an alarm; so a key is flagged exactly if its rating
raises one and a line writes the key in small letters. -/
theorem Roster.keys_keep_spelling {contents : String} {roster : Roster}
    (h : Roster.parse contents = .ok roster) :
    roster.keys = Roster.writtenKeys contents ∧
    (∀ text ∈ roster.keys, ∃ bytes, bytes.length = Roster.keyLength ∧
      decode (utf8 text) = .ok bytes ∧ (text = encode bytes ↔ hasCapital text = false)) ∧
    (∀ items, ∀ key ∈ Network.stakedKeysOf items, ∃ bytes, bytes.length = Roster.keyLength ∧
      key = encode bytes) ∧
    ∀ (tolerance : Single) (snapshot : Snapshot), snapshot.IsEncoded →
      (findProblems tolerance roster.keys snapshot []).map (·.key) =
        (roster.keys.filter (!hasCapital ·)).filter (isFlagged tolerance snapshot) ∧
      ∀ bytes, (∃ problem ∈ findProblems tolerance roster.keys snapshot [],
          decode (utf8 problem.key) = .ok bytes) ↔
        encode bytes ∈ Roster.writtenKeys contents ∧
          ((snapshot.get? (encode bytes)).bind (Rating.alarm? tolerance)).isSome = true := by
  have hkeys := Roster.parse_keys h
  refine ⟨hkeys, ?_, fun items key hkey => Network.stakedKeysOf_encoded hkey, ?_⟩
  · intro text htext
    rw [hkeys] at htext
    obtain ⟨bytes, hlength, hbytes⟩ := Roster.parse_readable h text htext
    exact ⟨bytes, hlength, hbytes, eq_encode_iff_hasCapital hbytes⟩
  · intro tolerance snapshot hencoded
    have hflagged := hencoded.findProblems_keys tolerance roster.keys
    refine ⟨hflagged, fun bytes => ?_⟩
    have hsome : encode bytes ∈ Roster.writtenKeys contents → encode bytes ≠ "" := by
      intro hmem hempty
      have hlength := (List.mem_filter.mp hmem).2
      rw [hempty] at hlength
      exact absurd hlength (by decide)
    constructor
    · rintro ⟨problem, hproblem, hbytes⟩
      have hmem := List.mem_map_of_mem (f := Problem.key) hproblem
      rw [hflagged] at hmem
      obtain ⟨hsmall, hraised⟩ := List.mem_filter.mp hmem
      obtain ⟨hwritten, hcapital⟩ := List.mem_filter.mp hsmall
      have hkey : problem.key = encode bytes :=
        (eq_encode_iff_hasCapital hbytes).mpr (by simpa using hcapital)
      rw [hkey] at hwritten hraised
      rw [hkeys] at hwritten
      refine ⟨hwritten, ?_⟩
      rwa [isFlagged_of_ne_empty (hsome hwritten)] at hraised
    · rintro ⟨hwritten, hraised⟩
      have hcapital := (eq_encode_iff_hasCapital (Text.Hex.decode_encode bytes)).mp rfl
      have hmem : encode bytes ∈ (findProblems tolerance roster.keys snapshot []).map (·.key) := by
        rw [hflagged, hkeys, List.mem_filter, List.mem_filter, isFlagged_of_ne_empty (hsome hwritten)]
        exact ⟨⟨hwritten, by simp [hcapital]⟩, hraised⟩
      obtain ⟨problem, hproblem, hkey⟩ := List.mem_map.mp hmem
      refine ⟨problem, hproblem, ?_⟩
      rw [hkey]
      exact Text.Hex.decode_encode bytes

/-- A key spelled with capital letters. -/
def capitalKey : String := String.ofList (List.replicate Roster.keyDigits 'A')

/-- The bytes that it stands for. -/
def capitalBytes : List UInt8 := List.replicate Roster.keyLength 0xaa

theorem mem_capitalKey {c : Char} (h : c ∈ capitalKey.toList) : c = 'A' := by
  rw [capitalKey, String.toList_ofList] at h
  exact List.eq_of_mem_replicate h

theorem decode_capitalKey : decode (utf8 capitalKey) = .ok capitalBytes := by
  have hascii : ∀ c ∈ List.replicate Roster.keyDigits 'A', c.toNat < 128 := by
    intro c hc
    rw [List.eq_of_mem_replicate hc]
    decide
  rw [capitalKey, Text.utf8_ascii hascii, List.map_replicate]
  decide +kernel

theorem parse_capitalKey : Roster.parse capitalKey = .ok ⟨[capitalKey], []⟩ := by
  have hlines : Roster.lines capitalKey.toList = [capitalKey.toList] := by
    refine Text.Form.splitAt_of_notMem fun hbreak => ?_
    cases mem_capitalKey hbreak
  have htrim : Roster.trim capitalKey.toList = capitalKey.toList := by
    refine Roster.trim_of_none fun c hc => ?_
    rw [mem_capitalKey hc]
    rfl
  have hunquote : Roster.unquote capitalKey.toList = capitalKey.toList := by
    rw [capitalKey, String.toList_ofList]
    rfl
  have hentry : Roster.entry? capitalKey.toList = some (String.ofList capitalKey.toList) := by
    have htext : capitalKey.toList = 'A' :: List.replicate 191 'A' := by
      rw [capitalKey, String.toList_ofList]
      rfl
    rw [Roster.entry?, htrim]
    rw [htext] at hunquote ⊢
    exact congrArg (fun cs => some (String.ofList cs)) hunquote
  have hlength : (utf8 capitalKey).length = Roster.keyDigits := by
    have h := (Text.Hex.encode_of_decode decode_capitalKey).1
    rw [byteLength] at h
    rw [h, capitalBytes, List.length_replicate]
    rfl
  have hread : Roster.readIdentity capitalKey = .ok (.key capitalKey) := by
    rw [Roster.readIdentity, if_pos hlength, decode_capitalKey]
  rw [String.ofList_toList] at hentry
  exact Roster.parse_line hlines hentry hread

theorem Roster.keys_keep_spelling_capitals :
    Roster.parse capitalKey = .ok ⟨[capitalKey], []⟩ ∧
      [capitalKey] = Roster.writtenKeys capitalKey :=
  ⟨parse_capitalKey, (Roster.keys_keep_spelling parse_capitalKey).1⟩

/-- A roster with a key in capital letters is accepted, but the key is not the one that the network
rates: it is about to be jailed, and nothing is flagged. -/
theorem capitals_hide_key :
    ∃ (snapshot : Snapshot) (tolerance : Single), snapshot.IsEncoded ∧
      snapshot.get? (encode capitalBytes) = some ⟨.zero, .zero⟩ ∧
      Rating.alarm? tolerance ⟨.zero, .zero⟩ ≠ none ∧
      Roster.parse capitalKey = .ok ⟨[capitalKey], []⟩ ∧
      decode (utf8 capitalKey) = .ok capitalBytes ∧ capitalKey ≠ encode capitalBytes ∧
      findProblems tolerance [capitalKey] snapshot [] = [] := by
  have hcapital : hasCapital capitalKey = true := by
    rw [hasCapital, capitalKey, String.toList_ofList]
    decide
  have hne : capitalKey ≠ encode capitalBytes := by
    rw [Ne, eq_encode_iff_hasCapital decode_capitalKey, hcapital]
    decide
  have hencoded : Snapshot.IsEncoded
      (Table.empty.put (encode capitalBytes) (⟨.zero, .zero⟩ : Rating)) := by
    intro key hkey
    rw [Table.get?_put] at hkey
    split at hkey
    · rename_i hsame
      exact ⟨capitalBytes, hsame⟩
    · exact absurd rfl hkey
  refine ⟨_, .ofNat .single false 1, hencoded, ?_, by decide, parse_capitalKey, decode_capitalKey,
    hne, ?_⟩
  · rw [Table.get?_put, if_pos rfl]
  · simp [findProblems, problem?, hencoded.get?_capital hcapital]

end ValidatorAlarm
