import Mathlib.Data.List.Sort
import ValidatorAlarm.Proofs.Url.Domain.Names

/-!
# Names of ideographs

A label of ideographs is in the form in which names are compared, so its ASCII form is its ASCII writing.
Ideographs that lie far apart take three digits each there.
-/
namespace ValidatorAlarm.Url.Domain

open Text (inRanges)

variable {c : Char} {label : List Char}

/-- A label of ideographs. -/
def AreIdeographs (label : List Char) : Prop := ∀ c ∈ label, isIdeograph c.toNat = true

/-! ### One ideograph -/

theorem outside_of_apart {ranges : List (Nat × Nat)} {code : Nat}
    (hranges : ∀ range ∈ ranges, range.2 < 0x4E00 ∨ 0x9FA5 < range.1) (h : isIdeograph code = true) :
    inRanges ranges code = false := by
  have hcode := isIdeograph_range.mp h
  refine List.any_eq_false.mpr fun range hrange hin => ?_
  rw [Bool.and_eq_true, decide_eq_true_eq, decide_eq_true_eq] at hin
  have hapart := hranges range hrange
  omega

theorem find?_of_apart {α : Type} {ranges : List (Nat × Nat × α)} {code : Nat}
    (hranges : ∀ range ∈ ranges, range.2.1 < 0x4E00 ∨ 0x9FA5 < range.1) (h : isIdeograph code = true) :
    (ranges.find? fun range => range.1 ≤ code && code ≤ range.2.1) = none := by
  have hcode := isIdeograph_range.mp h
  refine List.find?_eq_none.mpr fun range hrange hin => ?_
  rw [Bool.and_eq_true, decide_eq_true_eq, decide_eq_true_eq] at hin
  have hapart := hranges range hrange
  omega

theorem rank_ideograph {code : Nat} (h : isIdeograph code = true) : Text.rank code = 0 := by
  have hranges : ∀ range ∈ Text.rankRanges, range.2.1 < 0x4E00 ∨ 0x9FA5 < range.1 := by decide +kernel
  rw [Text.rank, find?_of_apart hranges h]

theorem isNonspacing_ideograph (h : isIdeograph c.toNat = true) : Text.isNonspacing c = false :=
  outside_of_apart (by decide +kernel) h

theorem isMark_ideograph (h : isIdeograph c.toNat = true) : Text.isMark c = false := by
  rw [Text.isMark, isNonspacing_ideograph h, Bool.false_or]
  exact outside_of_apart (by decide +kernel) h

theorem direction_ideograph (h : isIdeograph c.toNat = true) : direction c = .left := by
  have hranges : ∀ range ∈ directionRanges, range.2.1 < 0x4E00 ∨ 0x9FA5 < range.1 := by decide +kernel
  rw [direction, if_neg (Bool.eq_false_iff.mp (isNonspacing_ideograph h)), find?_of_apart hranges h]

/-! ### Labels of ideographs -/

theorem folded?_ideographs (h : AreIdeographs label) : folded? label = some label := by
  obtain ⟨pairs, standIns, t⟩ := exists_tables
  refine folded?_settled (fun c hc => (t.settled_ideograph (h c hc)).1) (.inr (Text.Composed.ofCodes_alone ?_))
  rintro code hcode
  obtain ⟨c, hc, rfl⟩ := List.mem_map.mp hcode
  have hideograph := h c hc
  have hrange := isIdeograph_range.mp hideograph
  have hsyllable : Text.Composed.Hangul.isSyllable c.toNat = false := by
    rw [Bool.eq_false_iff, Ne, Text.Composed.isSyllable_range]
    omega
  exact ⟨Text.Composed.takeApart_none hsyllable (t.settled_ideograph hideograph).2 _, rank_ideograph hideograph,
    t.join?_ideograph hideograph⟩

theorem joinersFit_ideographs (h : AreIdeographs label) (before : List Char) : joinersFit before label = true := by
  induction label generalizing before with
  | nil => rfl
  | cons c label ih =>
    obtain ⟨hc, hlabel⟩ := List.forall_mem_cons.mp h
    have hrange := isIdeograph_range.mp hc
    rw [joinersFit, if_neg (by omega), if_neg (by omega), ih hlabel]
    rfl

theorem not_isAscii_ideograph (h : isIdeograph c.toNat = true) : isAscii c = false := by
  have hrange := isIdeograph_range.mp h
  exact decide_eq_false (by omega)

theorem isShown_ideographs (h : AreIdeographs label) (hne : label ≠ []) (hlength : label.length ≤ maxShown) :
    Label.isShown label = true := by
  obtain ⟨c, others, rfl⟩ := List.exists_cons_of_ne_nil hne
  have hc := h c List.mem_cons_self
  rw [Label.isShown, List.all_cons, not_isAscii_ideograph hc, decide_eq_true hlength, List.head?_cons, Option.any_some,
    isMark_ideograph hc, joinersFit_ideographs h]
  rfl

theorem encode_ideographs (h : AreIdeographs label) : Punycode.encode label =
    Punycode.writeCodes (label.map Char.toNat) ⟨Punycode.firstCode, 0, Punycode.firstBias, 0, 0⟩
      (Punycode.higherCodes (label.map Char.toNat)) := by
  have hbasic : label.filter (·.toNat < Punycode.firstCode) = [] :=
    List.filter_eq_nil_iff.mpr fun c hc => by
      rw [show decide (c.toNat < Punycode.firstCode) = false from not_isAscii_ideograph (h c hc)]
      exact Bool.false_ne_true
  rw [Punycode.encode, hbasic]
  rfl

/-- The ASCII form of a label of ideographs. -/
theorem ofName?_ideographs (h : AreIdeographs label) (hne : label ≠ []) (hlength : label.length ≤ maxShown) :
    ofName? isForbidden label = some (asciiMark ++ Punycode.encode label) := by
  have hstop : '.' ∉ label := fun hmem => absurd (h _ hmem) (by decide)
  obtain ⟨first, others, hlabel⟩ := List.exists_cons_of_ne_nil hne
  have hfirst := h first (by rw [hlabel]; exact List.mem_cons_self)
  have hmark : ¬ asciiMark.isPrefixOf label = true := fun hprefix => by
    obtain ⟨others, rfl⟩ := List.isPrefixOf_iff_prefix.mp hprefix
    exact absurd (h 'x' (by simp [asciiMark])) (by decide)
  have hascii : ¬ label.all isAscii = true := fun hall => by
    have hall := List.all_eq_true.mp hall first (by rw [hlabel]; exact List.mem_cons_self)
    rw [not_isAscii_ideograph hfirst] at hall
    cases hall
  have hread : Label.read? label = some ⟨label, asciiMark ++ Punycode.encode label⟩ := by
    rw [Label.read?, if_neg hmark, if_neg hascii, if_pos (isShown_ideographs h hne hlength)]
  have hdirected : areDirected [label] = true := by
    rw [areDirected, if_neg]
    simp only [List.any_cons, List.any_nil, Bool.or_false, List.any_eq_true, not_exists, not_and]
    intro c hc hleft
    rw [direction_ideograph (h c hc)] at hleft
    cases hleft
  have hallowed : (asciiMark ++ Punycode.encode label).any isForbidden = false := by
    have hdigits : ∀ m < 36, isForbidden (Punycode.digit m) = false := by decide
    rw [List.any_append, encode_ideographs h, Bool.or_eq_false_iff]
    refine ⟨by decide, List.any_eq_false.mpr fun c hc => ?_⟩
    obtain ⟨m, hm, rfl⟩ := Punycode.writeCodes_digits _ _ _ c hc
    rw [hdigits m hm]
    exact Bool.false_ne_true
  unfold ofName?
  simp only [folded?_ideographs h, Option.bind_eq_bind, Option.bind_some, Text.Form.splitAt_of_notMem hstop,
    List.mapM_cons, List.mapM_nil, hread, Option.pure_def, List.map_cons, List.map_nil, hdirected, List.any_cons,
    List.any_nil, hallowed, Bool.or_false, Bool.not_false, Bool.and_true, if_true, List.intercalate_singleton]

/-! ### Labels that are too long to be read -/

/-- A label of ideographs that lie far apart. -/
def farApart (n : Nat) : List Char := (List.range' 0x4E00 n 29).map Char.ofNat

variable {n : Nat}

theorem length_farApart (n : Nat) : (farApart n).length = n := by
  rw [farApart, List.length_map, List.length_range']

theorem isIdeograph_farApart (hn : n ≤ 720) {code : Nat} (h : code ∈ List.range' 0x4E00 n 29) :
    isIdeograph code = true := by
  obtain ⟨i, hi, rfl⟩ := List.mem_range'.mp h
  rw [isIdeograph_range]
  omega

theorem codes_farApart (hn : n ≤ 720) : (farApart n).map Char.toNat = List.range' 0x4E00 n 29 := by
  have hvalid : ∀ code ∈ List.range' 0x4E00 n 29, (Char.ofNat code).toNat = code := fun code hcode => by
    have hrange := isIdeograph_range.mp (isIdeograph_farApart hn hcode)
    exact toNat_ofNat (.inl (by omega))
  rw [farApart, List.map_map]
  exact (List.map_congr_left hvalid).trans (List.map_id' _)

theorem areIdeographs_farApart (hn : n ≤ 720) : AreIdeographs (farApart n) := fun c hc =>
  isIdeograph_farApart hn (by rw [← codes_farApart hn]; exact List.mem_map_of_mem hc)

theorem higherCodes_farApart (hn : n ≤ 720) :
    Punycode.higherCodes ((farApart n).map Char.toNat) = List.range' 0x4E00 n 29 := by
  obtain ⟨hascend, hmem⟩ := Punycode.higherCodes_spec ((farApart n).map Char.toNat)
  have hrange : (List.range' 0x4E00 n 29).Pairwise (· < ·) := List.pairwise_lt_range' 29 (by decide)
  refine hascend.eq_of_mem_iff hrange fun code => ?_
  rw [hmem, codes_farApart hn]
  refine ⟨fun h => h.1, fun h => ⟨h, ?_⟩⟩
  have hideograph := isIdeograph_range.mp (isIdeograph_farApart hn h)
  exact Nat.le_trans (by decide) hideograph.1

theorem length_encode_farApart (hn : n ≤ 720) : 3 * n ≤ (Punycode.encode (farApart n)).length + 3 * 32 := by
  have hdigits := Punycode.length_writeCodes n 0x4E00 (List.forall_mem_nil (· < 0x4E00))
    ⟨Punycode.firstCode, 0, Punycode.firstBias, 0, 0⟩ (by decide)
  rw [encode_ideographs (areIdeographs_farApart hn), higherCodes_farApart hn, codes_farApart hn]
  exact hdigits

/-- Labels can be written in ASCII that cannot be read there again. -/
theorem not_isReadable_farApart (hleast : 699 ≤ n) (hmost : n ≤ 720) :
    ¬ IsReadable (asciiMark ++ Punycode.encode (farApart n)) := by
  have hlength := length_encode_farApart hmost
  have hstop : '.' ∉ asciiMark ++ Punycode.encode (farApart n) := fun hmem =>
    (List.mem_append.mp hmem).elim (by decide) (notMem_encode fun hmem =>
      absurd (areIdeographs_farApart hmost _ hmem) (by decide))
  have hmark : asciiMark.isPrefixOf (asciiMark ++ Punycode.encode (farApart n)) = true :=
    List.isPrefixOf_iff_prefix.mpr (List.prefix_append _ _)
  intro hreadable
  have hshort := hreadable _ (by rw [Text.Form.splitAt_of_notMem hstop]; exact List.mem_cons_self) hmark
  rw [List.length_append, maxWritten] at hshort
  omega

end ValidatorAlarm.Url.Domain
