import ValidatorAlarm.Proofs.Identity.Checksum
import ValidatorAlarm.Proofs.Text.Hex

/-!
# Writing and reading addresses

The 32 bytes of an account can be written in 64 ways: the checksum has two forms, the letters two cases,
and the last of the 52 letters for the bytes has four bits to spare.  Each of these texts is read as the
bytes, and no other text is.
-/
namespace ValidatorAlarm

namespace Bech32

/-- A letter in one of the cases. -/
def inCase (capital : Bool) (c : Char) : Char := if capital then c.toUpper else c

/-! ### Letters -/

theorem toUpper_of_not_isLower {c : Char} (h : c.isLower = false) : c.toUpper = c := by
  have hnot : ¬ ('a'.val ≤ c.val ∧ c.val ≤ 'z'.val) := by
    intro hrange
    have hlower : c.isLower = true :=
      Bool.and_eq_true_iff.mpr ⟨decide_eq_true hrange.1, decide_eq_true hrange.2⟩
    rw [h] at hlower
    cases hlower
  exact dif_neg hnot

/-- The case of a text gives its letters back. -/
theorem inCase_small {capital : Bool} {c : Char}
    (h : if capital then c.isLower = false else c.isUpper = false) : inCase capital (small c) = c := by
  cases capital with
  | false =>
    have hnot : c.isUpper = false := h
    simp [inCase, small, hnot]
  | true =>
    have hupper : (small c).toUpper = c := by
      unfold small
      split
      · rename_i hupper
        obtain ⟨hlow, hhigh⟩ := upper_bounds hupper
        have hall : ∀ n < 91, 65 ≤ n → (Char.ofNat (n + 32)).toUpper = Char.ofNat n := by decide
        have hc := hall c.toNat (by omega) hlow
        rwa [Char.ofNat_toNat] at hc
      · exact toUpper_of_not_isLower h
    exact hupper

theorem letter_spec {v : Nat} (hv : v < 32) (capital : Bool) :
    value? (inCase capital (letter v)) = some v ∧ inCase capital (letter v) ≠ '1' ∧
      (if capital then (inCase capital (letter v)).isLower = false
        else (inCase capital (letter v)).isUpper = false) := by
  have hall : ∀ capital : Bool, ∀ v < 32, value? (inCase capital (letter v)) = some v ∧
      inCase capital (letter v) ≠ '1' ∧
      (if capital then (inCase capital (letter v)).isLower = false
        else (inCase capital (letter v)).isUpper = false) := by decide
  exact hall capital v hv

theorem value?_spec {c : Char} {v : Nat} (h : value? c = some v) : v < 32 ∧ small c = letter v := by
  obtain ⟨hlt, hsmall, -⟩ := List.idxOf?_eq_some_iff.mp h
  refine ⟨hlt, ?_⟩
  rw [letter, List.getD_eq_getElem?_getD, List.getElem?_eq_getElem hlt, Option.getD_some, hsmall]

/-- The letters of some values. -/
def written (capital : Bool) (values : List Nat) : List Char := values.map fun v => inCase capital (letter v)

theorem mapM_written {values : List Nat} (h : ∀ v ∈ values, v < 32) (capital : Bool) :
    (written capital values).mapM value? = some values := by
  induction values with
  | nil => rfl
  | cons v values ih =>
    rw [List.forall_mem_cons] at h
    have hrest := ih h.2
    rw [written] at hrest
    rw [written, List.map_cons, List.mapM_cons, (letter_spec h.1 capital).1, hrest]
    rfl

theorem written_injective {values others : List Nat} {capital : Bool} (hvalues : ∀ v ∈ values, v < 32)
    (hothers : ∀ v ∈ others, v < 32) (h : written capital values = written capital others) :
    values = others := by
  have hread := congrArg (·.mapM value?) h
  simpa only [mapM_written hvalues, mapM_written hothers, Option.some.injEq] using hread

theorem written_of_mapM {data : List Char} {values : List Nat} {capital : Bool}
    (hcase : ∀ c ∈ data, if capital then c.isLower = false else c.isUpper = false)
    (h : data.mapM value? = some values) :
    (∀ v ∈ values, v < 32) ∧ data = written capital values := by
  induction data generalizing values with
  | nil =>
    cases h
    exact ⟨nofun, rfl⟩
  | cons c data ih =>
    rw [List.forall_mem_cons] at hcase
    rw [List.mapM_cons] at h
    simp only [Option.bind_eq_bind, Option.bind_eq_some_iff, Option.pure_def, Option.some.injEq] at h
    obtain ⟨v, hc, rest, hrest, rfl⟩ := h
    obtain ⟨hsmall, hdata⟩ := ih hcase.2 hrest
    obtain ⟨hv, hletter⟩ := value?_spec hc
    have hchar := inCase_small hcase.1
    rw [hletter] at hchar
    refine ⟨?_, ?_⟩
    · rw [List.forall_mem_cons]
      exact ⟨hv, hsmall⟩
    · rw [written, List.map_cons, hchar, hdata]
      rfl

/-! ### Texts -/

theorem splitLast?_of {label data : List Char} (h : '1' ∉ data) :
    splitLast? (label ++ '1' :: data) = some (label, data) := by
  have hall : ∀ c ∈ data.reverse, (c != '1') = true := by
    intro c hc
    have hne : c ≠ '1' := by
      rintro rfl
      exact h (List.mem_reverse.mp hc)
    simpa using hne
  have hreverse : (label ++ '1' :: data).reverse = data.reverse ++ '1' :: label.reverse := by simp
  have htail : (data.reverse ++ '1' :: label.reverse).takeWhile (· != '1') = data.reverse := by
    rw [List.takeWhile_append_of_pos hall]
    simp
  have hhead : (data.reverse ++ '1' :: label.reverse).dropWhile (· != '1') = '1' :: label.reverse := by
    rw [List.dropWhile_append_of_pos hall]
    simp
  simp only [splitLast?, hreverse, htail, hhead, List.reverse_reverse]

/-- The case of a text that is not mixed. -/
theorem case_of_not_mixed {s : List Char} (h : mixedCase s = false) :
    ∀ c ∈ s, if s.any Char.isUpper then c.isLower = false else c.isUpper = false := by
  intro c hc
  unfold mixedCase at h
  cases hupper : s.any Char.isUpper with
  | false => simpa using List.any_eq_false.mp hupper c hc
  | true =>
    rw [hupper, Bool.true_and] at h
    simpa using List.any_eq_false.mp h c hc

theorem form_of_target {register : BitVec 30} :
    register = Form.plain.target ∨ register = Form.modified.target ↔ ∃ form : Form, register = form.target := by
  constructor
  · rintro (h | h)
    · exact ⟨.plain, h⟩
    · exact ⟨.modified, h⟩
  · rintro ⟨form, h⟩
    cases form with
    | plain => exact .inl h
    | modified => exact .inr h

/-- The parts of a text that can be read. -/
theorem decode?_parts {s label : List Char} {bytes : List UInt8} (h : decode? s = some (label, bytes)) :
    ∃ capital readable values, s = readable ++ '1' :: written capital values ∧
      readable = label.map (inCase capital) ∧ (∀ v ∈ values, v < 32) ∧ 6 ≤ values.length ∧
      (∃ form : Form, residue (expand label ++ values) = form.target) ∧
      bytes = toBytes (values.take (values.length - 6)) := by
  unfold decode? at h
  simp only [Option.bind_eq_bind, Option.bind_eq_some_iff] at h
  obtain ⟨⟨readable, data⟩, hsplit, values, hvalues, h⟩ := h
  simp only at h hvalues
  split_ifs at h with hflaw hchecked
  cases h
  simp only [Bool.or_eq_true, decide_eq_true_eq, not_or, Bool.not_eq_true, Nat.not_lt] at hflaw
  obtain ⟨⟨⟨⟨⟨hmixed, -⟩, -⟩, -⟩, -⟩, hmany⟩ := hflaw
  have hs := splitLast?_eq hsplit
  have hcase := case_of_not_mixed hmixed
  rw [hs] at hcase ⊢
  generalize (readable ++ '1' :: data).any Char.isUpper = capital at hcase
  have hdata := written_of_mapM (fun c hc => hcase c (by simp [hc])) hvalues
  refine ⟨capital, readable, values, by rw [← hdata.2], ?_, hdata.1, hmany, form_of_target.mp (by simpa using hchecked), rfl⟩
  rw [List.map_map]
  refine (List.map_id' readable).symm.trans (List.map_congr_left fun c hc => ?_)
  exact (inCase_small (hcase c (by simp [hc]))).symm

end Bech32

namespace Roster

open Bech32 (Form inCase letter number residue expand ofBytes checksum)
open Text (utf8)

/-- One of the ways to write an address. -/
structure Spelling where
  form : Form
  capital : Bool
  /-- The bits that are left over in the last letter for the bytes. -/
  filler : Fin 16
deriving DecidableEq, Repr

/-- The bytes of an account. -/
abbrev Payload := { bytes : List UInt8 // bytes.length = addressLength }

namespace Spelling

/-- The address of an account, written in one of the ways. -/
def write (s : Spelling) (p : Payload) : String :=
  String.ofList ((Bech32.encode s.form label.toList s.filler p).map (inCase s.capital))

/-- The values of the letters behind the separator. -/
def values (s : Spelling) (p : Payload) : List Nat :=
  ofBytes s.filler p ++ checksum s.form label.toList (ofBytes s.filler p)

variable (s : Spelling) (p : Payload)

theorem values_lt : ∀ v ∈ s.values p, v < 32 := by
  intro v hv
  rcases List.mem_append.mp hv with hv | hv
  · exact Bech32.ofBytes_lt _ _ v hv
  · exact Bech32.checksum_lt _ _ _ v hv

theorem length_ofBytes : (ofBytes s.filler p).length = 52 := by
  rw [Bech32.length_ofBytes, p.2]
  rfl

theorem length_values : (s.values p).length = Bech32.addressLetters := by
  rw [values, List.length_append, length_ofBytes]
  rfl

/-- The label in the case of the text. -/
def readable : List Char := label.toList.map (inCase s.capital)

theorem write_eq : s.write p = String.ofList (s.readable ++ '1' :: Bech32.written s.capital (s.values p)) := by
  have hseparator : inCase s.capital '1' = '1' := by cases s.capital <;> decide
  unfold write Bech32.encode readable Bech32.written values
  rw [List.map_append, List.map_cons, List.map_map, hseparator]
  rfl

theorem residue_values : residue (expand label.toList ++ s.values p) = s.form.target := by
  rw [values, ← List.append_assoc, Bech32.residue_iff]
  · exact Bech32.length_checksum _ _ _
  · exact Bech32.checksum_lt _ _ _

/-! ### Reading what is written -/

theorem readable_spec : s.readable.map Bech32.small = label.toList ∧ s.readable.length = 3 ∧
    ∀ c ∈ s.readable, 33 ≤ c.toNat ∧ c.toNat ≤ 126 ∧
      if s.capital then c.isLower = false else c.isUpper = false := by
  have hall : ∀ capital : Bool, (label.toList.map (inCase capital)).map Bech32.small = label.toList ∧
      (label.toList.map (inCase capital)).length = 3 ∧
      ∀ c ∈ label.toList.map (inCase capital), 33 ≤ c.toNat ∧ c.toNat ≤ 126 ∧
        if capital then c.isLower = false else c.isUpper = false := by
    decide
  exact hall s.capital

theorem written_case : ∀ c ∈ Bech32.written s.capital (s.values p),
    c ≠ '1' ∧ if s.capital then c.isLower = false else c.isUpper = false := by
  intro c hc
  obtain ⟨v, hv, rfl⟩ := List.mem_map.mp hc
  exact (Bech32.letter_spec (s.values_lt p v hv) s.capital).2

theorem mixedCase_write : Bech32.mixedCase (s.write p).toList = false := by
  have hcase : ∀ c ∈ s.readable ++ '1' :: Bech32.written s.capital (s.values p),
      if s.capital then c.isLower = false else c.isUpper = false := by
    intro c hc
    rcases List.mem_append.mp hc with hc | hc
    · exact (s.readable_spec.2.2 c hc).2.2
    · rcases List.mem_cons.mp hc with rfl | hc
      · cases s.capital <;> decide
      · exact (s.written_case p c hc).2
  rw [write_eq, String.toList_ofList, Bech32.mixedCase, Bool.and_eq_false_iff, List.any_eq_false,
    List.any_eq_false]
  revert hcase
  cases s.capital with
  | false => exact fun hcase => .inl fun c hc => by rw [hcase c hc]; decide
  | true => exact fun hcase => .inr fun c hc => by rw [hcase c hc]; decide

theorem length_write : (s.write p).toList.length = 62 := by
  rw [write_eq, String.toList_ofList, List.length_append, s.readable_spec.2.1, List.length_cons,
    Bech32.written, List.length_map, length_values]
  rfl

theorem decode?_write : Bech32.decode? (s.write p).toList = some (label.toList, p.1) := by
  obtain ⟨hsmall, hlength, hvisible⟩ := s.readable_spec
  have hsplit : Bech32.splitLast? (s.write p).toList =
      some (s.readable, Bech32.written s.capital (s.values p)) := by
    rw [write_eq, String.toList_ofList]
    exact Bech32.splitLast?_of fun h => (s.written_case p _ h).1 rfl
  have hvalues := Bech32.mapM_written (s.values_lt p) s.capital
  have hnone : s.readable.any (fun c => c.toNat < 33 || c.toNat > 126) = false := by
    rw [List.any_eq_false]
    intro c hc
    have hc := hvisible c hc
    simp only [Bool.or_eq_true, decide_eq_true_eq]
    omega
  have hempty : s.readable.isEmpty = false := by
    rw [List.isEmpty_eq_false_iff, ← List.length_pos_iff, hlength]
    decide
  have hflaw : (Bech32.mixedCase (s.write p).toList || s.readable.isEmpty ||
      decide (s.readable.length > Bech32.maxLabel) ||
      s.readable.any (fun c => c.toNat < 33 || c.toNat > 126) ||
      decide ((s.write p).toList.length > Bech32.maxLength) || decide ((s.values p).length < 6)) = false := by
    rw [mixedCase_write, hempty, hnone, hlength, length_write, length_values]
    decide
  have hchecked : (decide (residue (expand label.toList ++ s.values p) = Form.plain.target) ||
      decide (residue (expand label.toList ++ s.values p) = Form.modified.target)) = true := by
    rw [Bool.or_eq_true, decide_eq_true_eq, decide_eq_true_eq, Bech32.form_of_target]
    exact ⟨s.form, s.residue_values p⟩
  have hfront : (s.values p).take ((s.values p).length - 6) = ofBytes s.filler p := by
    have hcount : (s.values p).length - 6 = (ofBytes s.filler p).length := by
      rw [length_values, length_ofBytes]
      rfl
    rw [hcount, values, List.take_left']
    rfl
  unfold Bech32.decode?
  simp only [hsplit, hvalues, Option.bind_eq_bind, Option.bind_some, hflaw, hsmall, hchecked, hfront,
    Bech32.toBytes_ofBytes, Bool.false_eq_true, if_false, if_true]

theorem decodeAddress_write : decodeAddress (s.write p) = .ok ⟨Text.Hex.encode p, s.write p⟩ := by
  unfold decodeAddress
  rw [decode?_write]
  simp [p.2]

/-! ### What is read has been written -/

theorem exists_of_decodeAddress {text : String} {account : Account} (h : decodeAddress text = .ok account) :
    ∃ (s : Spelling) (p : Payload), text = s.write p ∧ account = ⟨Text.Hex.encode p, text⟩ := by
  unfold decodeAddress at h
  split at h
  · cases h
  · rename_i readable bytes hdecode
    split_ifs at h with hname hsize
    cases h
    simp only [ne_eq, Decidable.not_not] at hname hsize
    subst hname
    obtain ⟨capital, readable, values, htext, rfl, hsmall, hmany, ⟨form, hform⟩, hbytes⟩ :=
      Bech32.decode?_parts hdecode
    -- 32 bytes take 52 letters, and the last six values are the checksum
    have hfour : 2 ^ 4 = 16 := rfl
    have hcount : (values.take (values.length - 6)).length = 52 := by
      have hlength := Bech32.length_toBytes (values.take (values.length - 6))
      rw [← hbytes, hsize, addressLength, List.length_take] at hlength
      rw [List.length_take]
      omega
    have hfront : ∀ v ∈ values.take (values.length - 6), v < 32 := fun v hv => hsmall v (List.mem_of_mem_take hv)
    have hback : ∀ v ∈ values.drop (values.length - 6), v < 32 := fun v hv => hsmall v (List.mem_of_mem_drop hv)
    have hsix : (values.drop (values.length - 6)).length = 6 := by
      rw [List.length_drop]
      omega
    have hletters := Bech32.ofBytes_toBytes hfront (by rw [hcount]; decide)
    rw [← hbytes, hcount] at hletters
    have hvalues := List.take_append_drop (values.length - 6) values
    have hchecksum : values.drop (values.length - 6) =
        checksum form label.toList (values.take (values.length - 6)) := by
      rw [← Bech32.residue_iff _ _ _ hsix hback, List.append_assoc, hvalues]
      exact hform
    have hfiller : number 32 (values.take (values.length - 6)) % 2 ^ (5 * 52 % 8) < 16 :=
      Nat.mod_lt _ (by decide)
    let s : Spelling := ⟨form, capital, ⟨_, hfiller⟩⟩
    let p : Payload := ⟨bytes, hsize⟩
    have hwhole : s.values p = values := by
      have hfirst : ofBytes s.filler p = values.take (values.length - 6) := hletters
      rw [Spelling.values, hfirst, ← hchecksum, hvalues]
    refine ⟨s, p, ?_, rfl⟩
    rw [write_eq, hwhole, ← String.toList_inj, htext, String.toList_ofList]
    rfl

/-! ### No text is written twice -/

theorem any_isUpper_write : (s.write p).toList.any Char.isUpper = s.capital := by
  have hmixed := Bech32.case_of_not_mixed (s.mixedCase_write p)
  have hfirst : inCase s.capital 'e' ∈ (s.write p).toList := by
    rw [write_eq, String.toList_ofList]
    exact List.mem_append_left _ (List.mem_map_of_mem (by decide))
  have hcase := hmixed _ hfirst
  generalize (s.write p).toList.any Char.isUpper = upper at hcase
  revert hcase
  cases upper <;> cases s.capital <;> decide

theorem filler_of_number : number 32 (ofBytes s.filler p) % 16 = s.filler := by
  have hpad : 5 * Bech32.lettersFor (8 * p.1.length) - 8 * p.1.length = 4 := by
    rw [p.2]
    rfl
  have hfiller := s.filler.isLt
  rw [Bech32.number_ofBytes, hpad]
  omega

theorem write_injective {s s' : Spelling} {p p' : Payload} (h : s.write p = s'.write p') :
    s = s' ∧ p = p' := by
  have hbytes := s.decode?_write p
  rw [h, decode?_write] at hbytes
  have hp : p = p' := by
    simp only [Option.some.injEq, Prod.mk.injEq, true_and] at hbytes
    exact Subtype.ext hbytes.symm
  subst hp
  have hcapital : s.capital = s'.capital := by
    rw [← any_isUpper_write s p, ← any_isUpper_write s' p, h]
  have hvalues : s.values p = s'.values p := by
    have hletters : Bech32.written s.capital (s.values p) = Bech32.written s'.capital (s'.values p) := by
      have htexts := congrArg String.toList h
      rw [write_eq, write_eq, String.toList_ofList, String.toList_ofList] at htexts
      have hlabels : s.readable = s'.readable := by rw [readable, readable, hcapital]
      rw [hlabels] at htexts
      exact (List.cons.inj (List.append_cancel_left htexts)).2
    rw [← hcapital] at hletters
    exact Bech32.written_injective (s.values_lt p) (s'.values_lt p) hletters
  have hform : s.form = s'.form := by
    have htargets : s.form.target = s'.form.target := by
      rw [← s.residue_values p, ← s'.residue_values p, hvalues]
    have hdifferent : ∀ form form' : Form, form.target = form'.target → form = form' := by
      intro form form'
      cases form <;> cases form' <;> decide
    exact hdifferent _ _ htargets
  have hfiller : s.filler = s'.filler := by
    have hfronts := congrArg (·.take 52) hvalues
    simp only [values] at hfronts
    rw [List.take_left' (s.length_ofBytes p), List.take_left' (s'.length_ofBytes p)] at hfronts
    rw [Fin.ext_iff, ← s.filler_of_number p, ← s'.filler_of_number p, hfronts]
  refine ⟨?_, rfl⟩
  obtain ⟨form, capital, filler⟩ := s
  obtain ⟨form', capital', filler'⟩ := s'
  simp only at hform hcapital hfiller
  rw [hform, hcapital, hfiller]

/-- All the ways to write an address. -/
def all : List Spelling :=
  [Form.plain, Form.modified].flatMap fun form =>
    [false, true].flatMap fun capital => (List.finRange 16).map fun filler => ⟨form, capital, filler⟩

theorem mem_all : s ∈ all := by
  obtain ⟨form, capital, filler⟩ := s
  simp only [all, List.mem_flatMap, List.mem_map, List.mem_finRange, true_and]
  refine ⟨form, by cases form <;> simp, capital, by cases capital <;> simp, filler, rfl⟩

end Spelling

/-- **Addresses are read exactly as they are written.**  The texts that are accepted are those that write
32 bytes in one of the 64 ways; such a text is kept as it is, beside the bytes in 64 small hexadecimal
digits, which are read as these bytes again.  All of them have 62 characters in one case and begin with
the label and the separator.  No text writes two accounts, nor one account in two ways. -/
theorem address_spellings :
    (∀ text account, decodeAddress text = .ok account ↔
      ∃ (s : Spelling) (p : Payload), text = s.write p ∧ account = ⟨Text.Hex.encode p, text⟩) ∧
    (∀ p : Payload, (Text.Hex.encode p).toList.length = 64 ∧
      (∀ c ∈ (Text.Hex.encode p).toList, c ∈ "0123456789abcdef".toList) ∧
      Text.Hex.decode (utf8 (Text.Hex.encode p)) = .ok p.1) ∧
    (∀ (s : Spelling) (p : Payload), (s.write p).toList.length = 62 ∧
      Bech32.mixedCase (s.write p).toList = false ∧
      (s.write p).toList.take 4 = (if s.capital then "ERD1" else "erd1").toList) ∧
    (∀ (s s' : Spelling) (p p' : Payload), s.write p = s'.write p' ↔ s = s' ∧ p = p') ∧
    (∀ s : Spelling, s ∈ Spelling.all) ∧ Spelling.all.length = 64 := by
  refine ⟨fun text account => ⟨Spelling.exists_of_decodeAddress, ?_⟩, fun p => ⟨?_, ?_, ?_⟩,
    fun s p => ⟨s.length_write p, s.mixedCase_write p, ?_⟩, ?_, Spelling.mem_all, by decide⟩
  · rintro ⟨s, p, rfl, rfl⟩
    exact s.decodeAddress_write p
  · rw [Text.Hex.encode, String.toList_ofList, Text.Hex.length_pairs, p.2]
    rfl
  · exact fun c hc => Text.Hex.mem_encode hc
  · exact Text.Hex.decode_encode p.1
  · have hlabel : s.readable ++ ['1'] = (if s.capital then "ERD1" else "erd1").toList := by
      unfold Spelling.readable
      cases s.capital <;> decide
    have hfour : (s.readable ++ ['1']).length = 4 := by rw [List.length_append, s.readable_spec.2.1]; rfl
    rw [Spelling.write_eq, String.toList_ofList, List.append_cons, List.take_left' hfour, hlabel]
  · intro s s' p p'
    constructor
    · exact Spelling.write_injective
    · rintro ⟨rfl, rfl⟩
      rfl

end Roster

end ValidatorAlarm
